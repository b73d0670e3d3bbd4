import Prewire.Proofs.Java.NumberReader
import Prewire.Proofs.Registration.PassedTypes
import Prewire.Proofs.Registration.ValueClasses

/-! What the source form of a whole number evaluates to. Wherever it stands in arrays, lists and sets it is
a well-formed literal for the type that it is written for. It keeps the number unless a cast to a narrow
type cuts it off: negative numbers get that cast whether they fit or not. -/
namespace Prewire.Java

theorem Code.text_injective : Function.Injective Code.text := by
  intro a b same
  rw [Code.text, Code.text] at same
  by_cases left : a = ""
  · by_cases right : b = ""
    · rw [left, right]
    · simp [left, right, Code.empty] at same
  · by_cases right : b = ""
    · simp [left, right, Code.empty] at same
    · simpa [left, right] using same

def Expression.elements : Expression → List Expression
  | .createArray _ elements => elements
  | .chain _ [.mk _ arguments] => arguments
  | _ => []

def Expression.at? : List Nat → Expression → Option Expression
  | [], e => some e
  | i :: path, e => e.elements[i]?.bind (Expression.at? path)

/-- Whether the code of an expression is one number, which a compiler takes for this one. -/
def Expression.IsWhole (e : Expression) (type : Primitive) (n : Int) : Prop :=
  ∃ text, e.code = .text text ∧ NumberReader.read? text = some (type, n)

theorem Expression.IsWhole.unique {e : Expression} {p q : Primitive} {n m : Int}
    (first : e.IsWhole p n) (second : e.IsWhole q m) : n = m := by
  obtain ⟨text, written, read⟩ := first
  obtain ⟨other, again, also⟩ := second
  obtain rfl : text = other := Code.text_injective (written.symm.trans again)
  rw [read] at also
  exact (Prod.mk.inj (Option.some.inj also)).2

end Prewire.Java

namespace Prewire.Beans.BeanValue

open Java

def elements : BeanValue → Option JavaType → List (BeanValue × Option JavaType)
  | .array component values, _ => values.map (·, some component)
  | .list values, type | .set values, type => values.map (·, type.bind (·.arguments.head?))
  | _, _ => []

/-- The value at a path of positions, with the type that it is written for. -/
def at? : List Nat → BeanValue → Option JavaType → Option (BeanValue × Option JavaType)
  | [], v, type => some (v, type)
  | i :: path, v, type => (v.elements type)[i]?.bind fun (w, declared) => at? path w declared

/-- A whole number with the primitive that selects its form: the declared one, boxed or not, or else
its own. A `long` is always written as one. -/
def whole? : BeanValue → Option JavaType → Option (Int × Primitive)
  | .byte value, type => some (value.toInt, (type.bind JavaType.primitiveForm?).getD .byte)
  | .short value, type => some (value.toInt, (type.bind JavaType.primitiveForm?).getD .short)
  | .int value, type => some (value.toInt, (type.bind JavaType.primitiveForm?).getD .int)
  | .long value, _ => some (value.toInt, .long)
  | _, _ => none

/-- A whole number is an `int` unless it is written as a `long`. -/
theorem range_of_whole? {v : BeanValue} {type : Option JavaType} {n : Int} {target : Primitive}
    (whole : v.whole? type = some (n, target)) :
    (-2 ^ 63 ≤ n ∧ n < 2 ^ 63) ∧ (target ≠ .long → -2 ^ 31 ≤ n ∧ n < 2 ^ 31) := by
  cases v with
  | byte value | short value | int value =>
    obtain ⟨rfl, -⟩ := Prod.mk.inj (Option.some.inj whole)
    have := value.le_toInt
    have := value.toInt_lt
    omega
  | long value =>
    obtain ⟨rfl, rfl⟩ := Prod.mk.inj (Option.some.inj whole)
    exact ⟨⟨value.le_toInt, value.toInt_lt⟩, fun apart => absurd rfl apart⟩
  | _ => nomatch whole

end Prewire.Beans.BeanValue

namespace Prewire.Registration

open Java Beans

/-- Whether the form of a whole number for a target keeps it. -/
def KeepsWhole (n : Int) : Primitive → Prop
  | .byte => -128 ≤ n
  | .short => -32768 ≤ n
  | .float => Decimal.BinaryFormat.single.nearestWhole n.natAbs = n.natAbs
  | _ => True

/-- A narrow form is a plain `int` for a number that is not negative and else a cast, which keeps it as
long as it fits. -/
theorem read?_narrow {n : Int} {target : Primitive} {bits : Nat}
    (width : NumberReader.width? target = some (bits + 1))
    (form : wholeNumber n target = if n < 0 then .cast target n else .int n)
    (low : -2 ^ 31 ≤ n) (high : n < 2 ^ 31) :
    ∃ read, NumberReader.read? (wholeNumber n target).text =
      some ((wholeNumber n target).type, read) ∧ (read = n ↔ -2 ^ bits ≤ n) := by
  rw [form]
  by_cases negative : n < 0
  · rw [if_pos negative]
    exact ⟨_, NumberReader.read?_cast width low high, NumberReader.bmod_eq_self_iff negative⟩
  · rw [if_neg negative]
    have positive : (0 : Int) < 2 ^ bits := Int.pow_pos (by omega)
    refine ⟨n, NumberReader.read?_int low high, fun _ => ?_, fun _ => rfl⟩
    omega

theorem read?_wholeNumber {n : Int} {target : Primitive} (long : -2 ^ 63 ≤ n ∧ n < 2 ^ 63)
    (int : target ≠ .long → -2 ^ 31 ≤ n ∧ n < 2 ^ 31) :
    ∃ read, NumberReader.read? (wholeNumber n target).text =
      some ((wholeNumber n target).type, read) ∧ (read = n ↔ KeepsWhole n target) := by
  cases target with
  | byte =>
    obtain ⟨low, high⟩ := int nofun
    have width : NumberReader.width? .byte = some (7 + 1) := rfl
    exact read?_narrow width rfl low high
  | short =>
    obtain ⟨low, high⟩ := int nofun
    have width : NumberReader.width? .short = some (15 + 1) := rfl
    exact read?_narrow width rfl low high
  | long => exact ⟨n, NumberReader.read?_long long.1 long.2, by simp [KeepsWhole]⟩
  | float =>
    have small := int nofun
    refine ⟨_, NumberReader.read?_wholeFloat (by omega), ?_⟩
    rw [KeepsWhole]
    split <;> omega
  | double =>
    have small := int nofun
    exact ⟨n, NumberReader.read?_wholeDouble (by omega), by simp [KeepsWhole]⟩
  | boolean | int | char =>
    obtain ⟨low, high⟩ := int nofun
    exact ⟨n, NumberReader.read?_int low high, by simp [KeepsWhole]⟩

section
variable {m : Type → Type} [Monad m] [MonadExceptOf Failure m] {o : Outcome m}
variable {innerBean : BeanDefinition → m Expression}

/-- Elements are written one by one, all for the same type. -/
theorem yields_of_values {values : List BeanValue} {declared : Option JavaType}
    {es : List Expression} (written : o.Yields (valueExpressions innerBean values declared) es)
    {i : Nat} {v : BeanValue} (listed : values[i]? = some v) :
    ∃ e, es[i]? = some e ∧ o.Yields (valueExpression innerBean v declared) e := by
  induction values generalizing es i with
  | nil => simp at listed
  | cons first rest ih =>
    rw [valueExpressions] at written
    obtain ⟨e, one, written⟩ := o.of_bind written
    obtain ⟨others, more, written⟩ := o.of_bind written
    obtain rfl := o.eq_of_pure written
    cases i with
    | zero =>
      obtain rfl : first = v := by simpa using listed
      exact ⟨e, rfl, one⟩
    | succ i => exact ih more (by simpa using listed)

theorem getElem?_of_pairs {values : List BeanValue} {part : BeanValue}
    {type declared : Option JavaType} {i : Nat}
    (listed : (values.map (·, type))[i]? = some (part, declared)) :
    values[i]? = some part ∧ type = declared := by
  rw [List.getElem?_map, Option.map_eq_some_iff] at listed
  obtain ⟨v, placed, same⟩ := listed
  obtain ⟨rfl, rfl⟩ := Prod.mk.inj same
  exact ⟨placed, rfl⟩

/-- The elements of a container are written in their places. -/
theorem yields_of_elements {value part : BeanValue} {type declared : Option JavaType}
    {e : Expression} (written : o.Yields (valueExpression innerBean value type) e) {i : Nat}
    (listed : (value.elements type)[i]? = some (part, declared)) :
    ∃ source, e.elements[i]? = some source ∧
      o.Yields (valueExpression innerBean part declared) source := by
  cases value with
  | array component values =>
    obtain ⟨placed, rfl⟩ := getElem?_of_pairs listed
    rw [valueExpression] at written
    obtain ⟨es, more, written⟩ := o.of_bind written
    obtain rfl := o.eq_of_pure written
    exact yields_of_values more placed
  | list values | set values =>
    obtain ⟨placed, rfl⟩ := getElem?_of_pairs listed
    rw [valueExpression] at written
    · obtain ⟨es, more, written⟩ := o.of_bind written
      obtain rfl := o.eq_of_pure written
      exact yields_of_values more placed
    · rintro rfl
      simp at placed
  | _ => simp [BeanValue.elements] at listed

theorem yields_at? {path : List Nat} {value part : BeanValue} {type declared : Option JavaType}
    {e : Expression} (written : o.Yields (valueExpression innerBean value type) e)
    (within : value.at? path type = some (part, declared)) :
    ∃ source, e.at? path = some source ∧
      o.Yields (valueExpression innerBean part declared) source := by
  induction path generalizing value type e with
  | nil =>
    obtain ⟨rfl, rfl⟩ := Prod.mk.inj (Option.some.inj within)
    exact ⟨e, rfl, written⟩
  | cons i path ih =>
    rw [BeanValue.at?, Option.bind_eq_some_iff] at within
    obtain ⟨⟨v, inner⟩, listed, within⟩ := within
    obtain ⟨first, placed, one⟩ := yields_of_elements written listed
    obtain ⟨source, deeper, two⟩ := ih one within
    exact ⟨source, by rw [Expression.at?, placed, Option.bind_some, deeper], two⟩

theorem eq_of_yields_whole {v : BeanValue} {type : Option JavaType} {n : Int} {target : Primitive}
    (whole : v.whole? type = some (n, target)) {e : Expression}
    (written : o.Yields (valueExpression innerBean v type) e) :
    e = .number (wholeNumber n target) := by
  cases v with
  | byte | short | int | long =>
    rw [valueExpression] at written
    obtain rfl := o.eq_of_pure written
    obtain ⟨rfl, rfl⟩ := Prod.mk.inj (Option.some.inj whole)
    rfl
  | _ => nomatch whole

/-- Wherever a whole number stands in a value that is written, a well-formed literal is written for it.
It evaluates to the number unless a cast to a narrow type, or the nearest `float`, is another one. -/
theorem isWhole_at?_iff {value part : BeanValue} {type declared : Option JavaType} {e : Expression}
    (written : o.Yields (valueExpression innerBean value type) e) {path : List Nat}
    (within : value.at? path type = some (part, declared)) {n : Int} {target : Primitive}
    (whole : part.whole? declared = some (n, target)) :
    ∃ source read, e.at? path = some source ∧ source.IsWhole (wholeNumber n target).type read ∧
      (read = n ↔ KeepsWhole n target) := by
  obtain ⟨source, placed, alone⟩ := yields_at? written within
  obtain rfl := eq_of_yields_whole whole alone
  obtain ⟨long, int⟩ := BeanValue.range_of_whole? whole
  obtain ⟨read, text, kept⟩ := read?_wholeNumber long int
  exact ⟨_, read, placed, ⟨_, by rw [Expression.code], text⟩, kept⟩

end

namespace WholeNumberSample

def nested : BeanValue :=
  .list [.set [.byte (-128), .int 300], .array (.primitive .short) [.int (-70000), .long (-1)]]

def nestedType : JavaType :=
  .classType Known.list [.classType Known.set [.ofClass Primitive.byte.boxed]]

end WholeNumberSample

open WholeNumberSample in
theorem isWhole_at?_nested :
    ∃ e, plainExpression nested (some nestedType) = .ok e ∧
      nested.at? [0, 0] (some nestedType) =
        some (.byte (-128), some (.ofClass Primitive.byte.boxed)) ∧
      ∃ source read, e.at? [0, 0] = some source ∧ source.IsWhole .byte read ∧
        (read = -128 ↔ -128 ≤ (-128 : Int)) := by
  obtain ⟨e, written⟩ : ∃ e, plainExpression nested (some nestedType) = .ok e := ⟨_, rfl⟩
  have within : nested.at? [0, 0] (some nestedType) =
      some (.byte (-128), some (.ofClass Primitive.byte.boxed)) := rfl
  have whole : (BeanValue.byte (-128)).whole? (some (.ofClass Primitive.byte.boxed)) =
      some (-128, .byte) := rfl
  exact ⟨e, written, within, isWhole_at?_iff (o := .ofExcept) written within whole⟩

/-- A number that does not fit into a `byte` loses its upper bits: `-300` becomes `-44`. -/
theorem not_isWhole_of_narrow :
    ∃ e, plainExpression (.int (-300)) (some (.primitive .byte)) = .ok e ∧
      e.code = .text "(byte) -300" ∧ e.IsWhole .byte (-44) ∧ ∀ type, ¬ e.IsWhole type (-300) := by
  have read : (Expression.number (.cast .byte (-300))).IsWhole .byte (-44) := by
    have cut : (-300 : Int).bmod (2 ^ 8) = -44 := by decide
    have width : NumberReader.width? .byte = some 8 := rfl
    have read := NumberReader.read?_cast width (v := -300) (by omega) (by omega)
    rw [cut] at read
    exact ⟨_, by rw [Expression.code], read⟩
  refine ⟨_, rfl, rfl, read, fun type other => ?_⟩
  exact absurd (read.unique other) (by decide)

end Prewire.Registration
