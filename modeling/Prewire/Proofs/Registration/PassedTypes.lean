import Prewire.Proofs.Registration.WrittenValues
import Prewire.Proofs.Types.Conversion

/-! The types of written literals. They are read off the expressions: a plain whole number is an `int`, a
cast has the type that it names, and a collection has the types of its elements. -/
namespace Prewire.Java

def NumberLiteral.type : NumberLiteral → Primitive
  | .int _ => .int
  | .long _ => .long
  | .wholeFloat _ | .float _ => .float
  | .wholeDouble _ | .double _ => .double
  | .cast type _ => type

/-- The constants of wrapper classes that stand for numbers without digits. -/
def numberConstants : List String := ["NaN", "NEGATIVE_INFINITY", "POSITIVE_INFINITY"]

def constantType (owner : ClassName) (name : String) : JavaType :=
  if name ∈ numberConstants && owner = Primitive.float.boxed then .primitive .float
  else if name ∈ numberConstants && owner = Primitive.double.boxed then .primitive .double
  else .ofClass owner

def factoryType? (owner : ClassName) (method : String) (elements : List PassedType) :
    Option PassedType :=
  if owner = Known.list && method = "of" then some (.collection Known.list elements)
  else if owner = Known.set && method = "of" then some (.collection Known.set elements)
  else if owner = Known.collections && method = "emptyList" then some (.collection Known.list [])
  else if owner = Known.collections && method = "emptySet" then some (.collection Known.set [])
  else none

mutual
/-- The type of an expression that stands for an argument; there is none for other code. -/
def Expression.passedType? : Expression → Option PassedType
  | .nullLiteral => some .null
  | .boolean _ => some (.of (.primitive .boolean))
  | .number literal => some (.of (.primitive literal.type))
  | .character _ => some (.of (.primitive .char))
  | .string _ => some (.of (.ofClass Known.string))
  | .classLiteral type => some (.of (.classType Known.classOf [type.boxed]))
  | .member (.typeName (.classType owner [])) name => some (.of (constantType owner name))
  | .createArray component _ => some (.of (.array component))
  | .chain (.typeName (.classType owner [])) calls => callType? owner calls
  | _ => none
def callType? (owner : ClassName) : List Call → Option PassedType
  | [.mk method arguments] => (passedTypes? arguments).bind (factoryType? owner method)
  | _ => none
def passedTypes? : List Expression → Option (List PassedType)
  | [] => some []
  | e :: rest => do return (← e.passedType?) :: (← passedTypes? rest)
end

theorem passedTypes?_cons {e : Expression} {rest : List Expression} {type : PassedType}
    {types : List PassedType} (first : e.passedType? = some type)
    (others : passedTypes? rest = some types) : passedTypes? (e :: rest) = some (type :: types) := by
  rw [passedTypes?, first, others]
  rfl

theorem passedType?_list {arguments : List Expression} {types : List PassedType}
    (typed : passedTypes? arguments = some types) :
    (Expression.staticCall Known.list "of" arguments).passedType? =
      some (.collection Known.list types) := by
  rw [Expression.staticCall, JavaType.ofClass, Expression.passedType?, callType?, typed]
  rfl

theorem passedType?_set {arguments : List Expression} {types : List PassedType}
    (typed : passedTypes? arguments = some types) :
    (Expression.staticCall Known.set "of" arguments).passedType? =
      some (.collection Known.set types) := by
  rw [Expression.staticCall, JavaType.ofClass, Expression.passedType?, callType?, typed]
  have apart : Known.set ≠ Known.list := by decide
  simp [factoryType?, apart]

end Prewire.Java

namespace Prewire.Registration

open Java Types Beans BeanValue

def wholeType (value : Int) (type : Option JavaType) (own : Primitive) : Primitive :=
  (wholeNumber value ((type.bind JavaType.primitiveForm?).getD own)).type

mutual
def formType : BeanValue → Option JavaType → PassedType
  | .boolean _, _ => .of (.primitive .boolean)
  | .byte value, type => .of (.primitive (wholeType value.toInt type .byte))
  | .short value, type => .of (.primitive (wholeType value.toInt type .short))
  | .int value, type => .of (.primitive (wholeType value.toInt type .int))
  | .long _, _ => .of (.primitive .long)
  | .float _, _ => .of (.primitive .float)
  | .double _, _ => .of (.primitive .double)
  | .char _, _ => .of (.primitive .char)
  | .string _, _ => .of (.ofClass Known.string)
  | .enumConstant type constant, _ => .of (constantType type constant)
  | .classLiteral type, _ => .of (.classType Known.classOf [type.erasure.boxed])
  | .array component _, _ => .of (.array component.erasure)
  | .list elements, type =>
    .collection Known.list (formTypes elements (type.bind (·.arguments.head?)))
  | .set elements, type =>
    .collection Known.set (formTypes elements (type.bind (·.arguments.head?)))
  | .null, _ | .reference _, _ | .inner _, _ | .opaqueInstance _, _ => .null
def formTypes : List BeanValue → Option JavaType → List PassedType
  | [], _ => []
  | v :: vs, type => formType v type :: formTypes vs type
end

theorem passedType?_constantOf (p : Primitive) (known : p = .float ∨ p = .double) {name : String}
    (listed : name ∈ numberConstants) :
    (constantOf p name).passedType? = some (.of (.primitive p)) := by
  rw [constantOf, JavaType.ofClass, Expression.passedType?, constantType]
  rcases known with rfl | rfl
  · simp [listed]
  · have apart : Primitive.double.boxed ≠ Primitive.float.boxed := by decide
    simp [listed, apart]

theorem passedType?_floating (format : Decimal.BinaryFormat) (p : Primitive)
    (known : p = .float ∨ p = .double) (bits : Nat) {literal : NumberLiteral} (own : literal.type = p) :
    (floating format p bits literal).passedType? = some (.of (.primitive p)) := by
  rw [floating]
  split
  · exact passedType?_constantOf p known (by decide)
  · split
    · exact passedType?_constantOf p known (by decide)
    · exact passedType?_constantOf p known (by decide)
  · rw [Expression.passedType?, own]

theorem passedTypes?_of_forall₂ {values : List BeanValue} {type : Option JavaType} {es : List Expression}
    (each : List.Forall₂ (fun v e => e.passedType? = some (formType v type)) values es) :
    passedTypes? es = some (formTypes values type) := by
  induction each with
  | nil => rfl
  | cons first _ others => exact passedTypes?_cons first others

/-- The source form of a literal has the type that is said of it. -/
theorem passedType?_of_plain {value : BeanValue} {type : Option JavaType} {e : Expression}
    (literal : value.isLiteral) (written : plainExpression value type = .ok e) :
    e.passedType? = some (formType value type) := by
  refine Outcome.ofExcept.value_induction
    (motive := fun v type e => v.isLiteral → e.passedType? = some (formType v type))
    (fun v type elements es known each literal => ?_) (fun v type e single written literal => ?_) written literal
  · have literals := (isLiteral_of_elements known).mp literal
    have each := ((List.forall₂_and_left elements es).mpr ⟨literals, each⟩).imp
      fun _ _ ⟨literal, typed⟩ => typed literal
    have typed := passedTypes?_of_forall₂ each
    cases v with
    | array => rfl
    | list =>
      obtain rfl := Option.some.inj known
      cases each with
      | nil => rfl
      | cons => exact passedType?_list typed
    | set =>
      obtain rfl := Option.some.inj known
      cases each with
      | nil => rfl
      | cons => exact passedType?_set typed
    | _ => cases known
  · cases v with
    | array | list | set => cases single
    | reference | inner | opaqueInstance => simp [isLiteral] at literal
    | float bits =>
      rw [valueExpression] at written
      obtain rfl := Outcome.ofExcept.eq_of_pure written
      exact passedType?_floating .single .float (.inl rfl) bits.toNat rfl
    | double bits =>
      rw [valueExpression] at written
      obtain rfl := Outcome.ofExcept.eq_of_pure written
      exact passedType?_floating .double .double (.inr rfl) bits.toNat rfl
    | _ =>
      rw [valueExpression] at written
      obtain rfl := Outcome.ofExcept.eq_of_pure written
      rfl

end Prewire.Registration
