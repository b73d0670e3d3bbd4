import Mathlib.Tactic.IntervalCases
import Prewire.Java.Number

/-! Reading whole numbers. A decimal numeral has a suffix that selects its type, and is refused where it
is out of the range of that type. A minus negates it, and a cast keeps the low bits of an integer.
Floating point numerals are rounded to the nearest number of their format. -/
namespace Prewire.Decimal.BinaryFormat

/-- The whole numbers from here on are too large for the format, also after rounding. -/
def wholeLimit (format : BinaryFormat) : Nat :=
  2 ^ 2 ^ (format.exponentBits - 1)
    - 2 ^ (2 ^ (format.exponentBits - 1) - format.fractionBits - 2)

/-- The nearest number of the format to a whole number, and of two equally near ones the even one. -/
def nearestWhole (format : BinaryFormat) (n : Nat) : Nat :=
  let unit := 2 ^ (n.log2 - format.fractionBits)
  let rest := n % unit
  if 2 * rest < unit ∨ 2 * rest = unit ∧ n / unit % 2 = 0 then n / unit * unit
  else (n / unit + 1) * unit

/-- A whole number is itself a number of the format as long as its digits fit. -/
theorem nearestWhole_of_lt {format : BinaryFormat} {n : Nat}
    (fits : n < 2 ^ (format.fractionBits + 1)) : format.nearestWhole n = n := by
  have single : n.log2 - format.fractionBits = 0 := by
    by_cases zero : n = 0
    · subst zero
      simp
    · have := (Nat.log2_lt zero).mpr fits
      omega
  simp [nearestWhole, single, Nat.mod_one]

theorem lt_wholeLimit {format : BinaryFormat} {n : Nat} (wide : 7 ≤ format.exponentBits)
    (small : n < 2 ^ 32) : n < format.wholeLimit := by
  rw [wholeLimit]
  generalize exponents : 2 ^ (format.exponentBits - 1) = top
  have range : 64 ≤ top := by
    have := Nat.pow_le_pow_right (n := 2) (by omega) (show 6 ≤ format.exponentBits - 1 by omega)
    omega
  have whole : 2 ^ top = 2 * 2 ^ (top - 1) := by
    rw [← Nat.pow_succ']
    congr
    omega
  have half : 2 ^ (top - format.fractionBits - 2) ≤ 2 ^ (top - 1) :=
    Nat.pow_le_pow_right (by omega) (by omega)
  have floor : 2 ^ 32 ≤ 2 ^ (top - 1) := Nat.pow_le_pow_right (by omega) (by omega)
  omega

end Prewire.Decimal.BinaryFormat

namespace Prewire.Java.NumberReader

open Decimal

/-- The value of the digits of a numeral. With a zero in front it would be an octal one. -/
def numeral? (digits : List Char) : Option Nat :=
  if digits ≠ [] ∧ (digits.head? = some '0' → digits = ['0']) then
    some (Nat.ofDigitChars 10 digits 0)
  else none

/-- The magnitude of an integer of so many bits. The greatest one has to follow a minus. -/
def integer? (bits : Nat) (negated : Bool) (n : Nat) : Option Nat :=
  if n < 2 ^ (bits - 1) ∨ negated = true ∧ n = 2 ^ (bits - 1) then some n else none

def wholeFloating? (format : BinaryFormat) (n : Nat) : Option Nat :=
  if n < format.wholeLimit then some (format.nearestWhole n) else none

def token? (negated : Bool) (n : Nat) : List Char → Option (Primitive × Nat)
  | [] => (integer? 32 negated n).map fun m => (.int, m)
  | ['L'] => (integer? 64 negated n).map fun m => (.long, m)
  | ['F'] => (wholeFloating? .single n).map fun m => (.float, m)
  | ['.', '0'] => (wholeFloating? .double n).map fun m => (.double, m)
  | _ => none

def unsigned? (negated : Bool) (chars : List Char) : Option (Primitive × Nat) :=
  (numeral? (chars.takeWhile Char.isDigit)).bind fun n =>
    token? negated n (chars.dropWhile Char.isDigit)

def signed? : List Char → Option (Primitive × Int)
  | '-' :: chars => (unsigned? true chars).map fun (type, n) => (type, -n)
  | chars => (unsigned? false chars).map fun (type, n) => (type, n)

def width? : Primitive → Option Nat
  | .byte => some 8 | .short => some 16 | .int => some 32 | .long => some 64
  | _ => none

/-- A cast of an integer keeps the bits that there is room for. -/
def cast? (target : Primitive) : Primitive × Int → Option (Primitive × Int)
  | (source, value) =>
    match width? source, width? target with
    | some _, some bits => some (target, value.bmod (2 ^ bits))
    | _, _ => none

/-- A cast to the type in front of a bracket that is closed, with a blank and the operand after it. -/
def castOperand? (chars : List Char) : Option (Primitive × Int) :=
  match Primitive.ofKeyword? (String.ofList (chars.takeWhile (· ≠ ')'))),
    chars.dropWhile (· ≠ ')') with
  | some target, ')' :: ' ' :: operand => (signed? operand).bind (cast? target)
  | _, _ => none

/-- The type and the value of a whole number, perhaps with a cast, by the rules of the language. -/
def read? (text : String) : Option (Primitive × Int) :=
  match text.toList with
  | '(' :: rest => castOperand? rest
  | chars => signed? chars

/-! ### Decimal digits -/

theorem exists_cons_toDigits (n : Nat) : ∃ c rest, Nat.toDigits 10 n = c :: rest :=
  List.exists_cons_of_ne_nil Nat.toDigits_ne_nil

theorem head?_toDigits_ne_zero {n : Nat} (positive : 0 < n) :
    (Nat.toDigits 10 n).head? ≠ some '0' := by
  induction n using Nat.strongRecOn with
  | _ n ih =>
    by_cases small : n < 10
    · rw [Nat.toDigits_of_lt_base small]
      interval_cases n <;> decide
    · obtain ⟨c, rest, front⟩ := exists_cons_toDigits (n / 10)
      have smaller := ih (n / 10) (by omega) (by omega)
      rw [front] at smaller
      rwa [Nat.toDigits_of_base_le (by omega) (by omega), front]

theorem numeral?_toDigits (n : Nat) : numeral? (Nat.toDigits 10 n) = some n := by
  rw [numeral?, if_pos, Nat.ofDigitChars_ten_toDigits]
  refine ⟨Nat.toDigits_ne_nil, fun zero => ?_⟩
  by_cases positive : 0 < n
  · exact absurd zero (head?_toDigits_ne_zero positive)
  · obtain rfl : n = 0 := by omega
    rfl

theorem isDigit_of_toDigits (n : Nat) : ∀ c ∈ Nat.toDigits 10 n, c.isDigit = true :=
  fun _ => Nat.isDigit_of_mem_toDigits (by omega) (by omega)

/-- Digits are read back whatever suffix stands behind them. -/
theorem unsigned?_toDigits (negated : Bool) (n : Nat) {suffix : List Char}
    (apart : ∀ c ∈ suffix.head?, c.isDigit = false) :
    unsigned? negated (Nat.toDigits 10 n ++ suffix) = token? negated n suffix := by
  have none : suffix.takeWhile Char.isDigit = [] ∧ suffix.dropWhile Char.isDigit = suffix := by
    cases suffix with
    | nil => simp
    | cons c rest => simp [apart c rfl]
  rw [unsigned?, List.takeWhile_append_of_pos (isDigit_of_toDigits n),
    List.dropWhile_append_of_pos (isDigit_of_toDigits n), none.1, none.2, List.append_nil,
    numeral?_toDigits]
  rfl

theorem toList_toString_of_nonneg {v : Int} (sign : 0 ≤ v) :
    (toString v).toList = Nat.toDigits 10 v.natAbs := by
  have same : v.toNat = v.natAbs := by omega
  rw [Int.toString_eq_repr, Int.repr_eq_if, if_pos sign, Nat.toList_repr, same]

theorem toList_toString_of_neg {v : Int} (sign : v < 0) :
    (toString v).toList = '-' :: Nat.toDigits 10 v.natAbs := by
  have same : (-v).toNat = v.natAbs := by omega
  rw [Int.toString_eq_repr, Int.repr_eq_if, if_neg (by omega), String.toList_append,
    Nat.toList_repr, same]
  rfl

/-- The text of a number starts with its sign or a digit. -/
theorem head_toString (v : Int) :
    ∃ c rest, (toString v).toList = c :: rest ∧ (c = '-' ↔ v < 0) ∧ c ≠ '(' := by
  by_cases sign : v < 0
  · exact ⟨'-', _, toList_toString_of_neg sign, by simp [sign], by decide⟩
  · obtain ⟨c, rest, written⟩ := exists_cons_toDigits v.natAbs
    have digit : c.isDigit = true := isDigit_of_toDigits v.natAbs c (by simp [written])
    refine ⟨c, rest, by rw [toList_toString_of_nonneg (by omega), written], ?_, ?_⟩
    · constructor
      · rintro rfl
        exact absurd digit (by decide)
      · intro negative
        exact absurd negative sign
    · rintro rfl
      exact absurd digit (by decide)

/-! ### The forms of whole numbers -/

/-- A number with a suffix stands for its sign and what the magnitude is read as. -/
theorem signed?_toString {v : Int} {suffix : List Char} {type : Primitive} {m : Nat}
    (apart : ∀ c ∈ suffix.head?, c.isDigit = false)
    (magnitude : token? (decide (v < 0)) v.natAbs suffix = some (type, m)) :
    signed? ((toString v).toList ++ suffix) = some (type, if v < 0 then -(m : Int) else m) := by
  by_cases sign : v < 0
  · rw [decide_eq_true sign] at magnitude
    rw [toList_toString_of_neg sign, List.cons_append, signed?, unsigned?_toDigits true _ apart,
      magnitude, if_pos sign]
    rfl
  · rw [decide_eq_false sign] at magnitude
    obtain ⟨c, rest, written, minus, -⟩ := head_toString v
    rw [signed?, toList_toString_of_nonneg (by omega), unsigned?_toDigits false _ apart, magnitude,
      if_neg sign]
    · rfl
    · intro chars same
      rw [written, List.cons_append] at same
      exact sign (minus.mp (List.cons.inj same).1)

theorem read?_toString {v : Int} {suffix : String} {type : Primitive} {m : Nat}
    (apart : ∀ c ∈ suffix.toList.head?, c.isDigit = false)
    (magnitude : token? (decide (v < 0)) v.natAbs suffix.toList = some (type, m)) :
    read? (toString v ++ suffix) = some (type, if v < 0 then -(m : Int) else m) := by
  obtain ⟨c, rest, written, -, bracket⟩ := head_toString v
  rw [read?, String.toList_append, ← signed?_toString apart magnitude]
  split
  · next chars same =>
    rw [written, List.cons_append] at same
    exact absurd (List.cons.inj same).1 bracket
  · rfl

theorem neg_natAbs (v : Int) : (if v < 0 then -(v.natAbs : Int) else v.natAbs) = v := by
  split <;> omega

theorem integer?_natAbs {bits : Nat} {v : Int} (low : -2 ^ (bits - 1) ≤ v) (high : v < 2 ^ (bits - 1)) :
    integer? bits (decide (v < 0)) v.natAbs = some v.natAbs := by
  have cast : ((2 ^ (bits - 1) : Nat) : Int) = 2 ^ (bits - 1) := by push_cast; rfl
  rw [integer?, if_pos]
  simp only [decide_eq_true_eq]
  omega

theorem token?_int {v : Int} (low : -2 ^ 31 ≤ v) (high : v < 2 ^ 31) :
    token? (decide (v < 0)) v.natAbs [] = some (.int, v.natAbs) := by
  rw [token?, integer?_natAbs low high]
  rfl

theorem read?_int {v : Int} (low : -2 ^ 31 ≤ v) (high : v < 2 ^ 31) :
    read? (NumberLiteral.int v).text = some (.int, v) := by
  have magnitude : token? (decide (v < 0)) v.natAbs "".toList = some (.int, v.natAbs) :=
    token?_int low high
  have read := read?_toString (by simp) magnitude
  rwa [neg_natAbs, String.append_empty] at read

theorem read?_long {v : Int} (low : -2 ^ 63 ≤ v) (high : v < 2 ^ 63) :
    read? (NumberLiteral.long v).text = some (.long, v) := by
  have magnitude : token? (decide (v < 0)) v.natAbs "L".toList = some (.long, v.natAbs) := by
    change (integer? 64 _ _).map _ = _
    rw [integer?_natAbs low high]
    rfl
  have read := read?_toString (by simp) magnitude
  rwa [neg_natAbs] at read

theorem wholeFloating?_of_lt {format : BinaryFormat} {n : Nat} (wide : 7 ≤ format.exponentBits)
    (small : n < 2 ^ 32) : wholeFloating? format n = some (format.nearestWhole n) := by
  rw [wholeFloating?, if_pos (BinaryFormat.lt_wholeLimit wide small)]

theorem read?_wholeFloat {v : Int} (small : v.natAbs < 2 ^ 32) :
    read? (NumberLiteral.wholeFloat v).text =
      some (.float, if v < 0 then -(BinaryFormat.single.nearestWhole v.natAbs : Int)
        else BinaryFormat.single.nearestWhole v.natAbs) := by
  have magnitude : token? (decide (v < 0)) v.natAbs "F".toList =
      some (.float, BinaryFormat.single.nearestWhole v.natAbs) := by
    change (wholeFloating? .single _).map _ = _
    rw [wholeFloating?_of_lt (by decide) small]
    rfl
  exact read?_toString (by simp) magnitude

theorem read?_wholeDouble {v : Int} (small : v.natAbs < 2 ^ 32) :
    read? (NumberLiteral.wholeDouble v).text = some (.double, v) := by
  have exact : BinaryFormat.double.nearestWhole v.natAbs = v.natAbs :=
    BinaryFormat.nearestWhole_of_lt (small.trans (by decide))
  have magnitude : token? (decide (v < 0)) v.natAbs ".0".toList = some (.double, v.natAbs) := by
    rw [show ".0".toList = ['.', '0'] from rfl, token?, wholeFloating?_of_lt (by decide) small,
      exact, Option.map_some]
  have read := read?_toString (by simp) magnitude
  rwa [neg_natAbs] at read

theorem bracket_not_mem_keyword (p : Primitive) : ∀ c ∈ p.keyword.toList, decide (c ≠ ')') = true := by
  cases p <;> simp [Primitive.keyword]

theorem castOperand?_keyword (target : Primitive) (operand : List Char) :
    castOperand? (target.keyword.toList ++ ')' :: ' ' :: operand) =
      (signed? operand).bind (cast? target) := by
  rw [castOperand?, List.takeWhile_append_of_pos (bracket_not_mem_keyword target),
    List.dropWhile_append_of_pos (bracket_not_mem_keyword target),
    List.takeWhile_cons_of_neg (by simp), List.dropWhile_cons_of_neg (by simp), List.append_nil,
    String.ofList_toList, target.ofKeyword?_keyword]
  rfl

/-- A cast keeps the low bits of the number behind it. -/
theorem read?_cast {target : Primitive} {bits : Nat} (width : width? target = some bits) {v : Int}
    (low : -2 ^ 31 ≤ v) (high : v < 2 ^ 31) :
    read? (NumberLiteral.cast target v).text = some (target, v.bmod (2 ^ bits)) := by
  have operand : signed? ((toString v).toList ++ []) = _ :=
    signed?_toString (by simp) (token?_int low high)
  rw [neg_natAbs, List.append_nil] at operand
  have opened : (NumberLiteral.cast target v).text.toList =
      '(' :: (target.keyword.toList ++ ')' :: ' ' :: (toString v).toList) := by
    simp [NumberLiteral.text]
  rw [read?, opened]
  change castOperand? _ = _
  rw [castOperand?_keyword, operand, Option.bind_some, cast?, width]
  rfl

/-- The least `int` needs its minus, and a single precision number of 25 binary digits is rounded. -/
example : read? "-2147483648" = some (.int, -2147483648) ∧ read? "2147483648" = none ∧
    read? "(short) -70000" = some (.short, -4464) ∧
    read? "16777217F" = some (.float, 16777216) := by
  decide +kernel

/-- A negative number is kept as long as it fits. -/
theorem bmod_eq_self_iff {bits : Nat} {v : Int} (negative : v < 0) :
    v.bmod (2 ^ (bits + 1)) = v ↔ -2 ^ bits ≤ v := by
  have twice : ((2 ^ (bits + 1) : Nat) : Int) = 2 * 2 ^ bits := by
    push_cast
    rw [pow_succ, mul_comm]
  have positive : (0 : Int) < 2 ^ bits := Int.pow_pos (by omega)
  rw [Int.bmod_eq_iff (Nat.pow_pos (by omega)), twice, sub_self]
  simp only [dvd_zero, and_true]
  omega

end Prewire.Java.NumberReader
