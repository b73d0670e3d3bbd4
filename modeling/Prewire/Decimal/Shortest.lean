/-! Binary floating point numbers by their bits, and the fewest decimal digits that read back as
the same number. Of several such decimals the nearest is taken, and of two equally near ones the
greater. -/
namespace Prewire.Decimal

structure BinaryFormat where
  fractionBits : Nat
  exponentBits : Nat

def BinaryFormat.single : BinaryFormat := ⟨23, 8⟩
def BinaryFormat.double : BinaryFormat := ⟨52, 11⟩

inductive Magnitude where
  | notANumber
  | infinite
  /-- `significand * 2 ^ exponent`; the number below is half as far as the one above where
  `isPowerStart`. -/
  | finite (significand : Nat) (exponent : Int) (isPowerStart : Bool)
  deriving DecidableEq, Repr

namespace BinaryFormat

def isNegative (format : BinaryFormat) (bits : Nat) : Bool :=
  bits / Nat.pow 2 (format.fractionBits + format.exponentBits) % 2 = 1

def magnitude (format : BinaryFormat) (bits : Nat) : Magnitude :=
  let leadingBit := Nat.pow 2 format.fractionBits
  let fraction := bits % leadingBit
  let field := bits / leadingBit % Nat.pow 2 format.exponentBits
  let offset : Int := Nat.pow 2 (format.exponentBits - 1) - 1 + format.fractionBits
  if field = Nat.pow 2 format.exponentBits - 1 then
    if fraction = 0 then .infinite else .notANumber
  else if field = 0 then .finite fraction (1 - offset) false
  else .finite (leadingBit + fraction) (field - offset) (fraction = 0 && 1 < field)

end BinaryFormat

structure Ratio where
  num : Nat
  den : Nat
  deriving Repr

def scaled (n : Nat) (e k : Int) : Ratio :=
  ⟨n * Nat.pow 2 e.toNat * Nat.pow 10 (-k).toNat, Nat.pow 2 (-e).toNat * Nat.pow 10 k.toNat⟩

def digitCount (n : Nat) : Nat := (Nat.toDigits 10 n).length

/-- The exponent of the greatest power of ten that is at most the quotient. -/
def leadingExponent (r : Ratio) : Int :=
  if r.den ≤ r.num then (digitCount (r.num / r.den) : Int) - 1
  else -(digitCount ((r.den + r.num - 1) / r.num - 1) : Int)

/-- The numbers that round to a finite one, in quarters of its last place: the ends belong to them
when the significand is even. -/
structure Interval where
  low : Nat
  middle : Nat
  high : Nat
  hasEnds : Bool

def interval (significand : Nat) (isPowerStart : Bool) : Interval :=
  { low := 4 * significand - (if isPowerStart then 1 else 2)
    middle := 4 * significand
    high := 4 * significand + 2
    hasEnds := significand % 2 = 0 }

def Interval.contains (i : Interval) (e k : Int) (d : Nat) : Bool :=
  let low := scaled i.low e k
  let high := scaled i.high e k
  if i.hasEnds then low.num ≤ d * low.den && d * high.den ≤ high.num
  else low.num < d * low.den && d * high.den < high.num

/-- The neighbour of the number on the grid of `10 ^ k` that reads back as it, if one does. -/
def onGrid (i : Interval) (e k : Int) : Option Nat :=
  let middle := scaled i.middle e k
  let below := middle.num / middle.den
  match i.contains e k below && below ≠ 0, i.contains e k (below + 1) with
  | true, true =>
    some (if 2 * (middle.num - below * middle.den) < middle.den then below else below + 1)
  | true, false => some below
  | false, true => some (below + 1)
  | false, false => none

/-- Tries grids that get finer by a digit, for at most `fuel` digits. -/
def firstOnGrid (i : Interval) (e : Int) : (fuel : Nat) → (k : Int) → Nat × Int
  | 0, k => ((scaled i.middle e k).num / (scaled i.middle e k).den, k)
  | fuel + 1, k =>
    match onGrid i e k with
    | some d => (d, k)
    | none => firstOnGrid i e fuel (k - 1)

/-- The digits without trailing zeros, and the power of ten of the first digit. -/
structure Digits where
  digits : List Char
  exponent : Int
  deriving DecidableEq, Repr

def Digits.ofNat (d : Nat) (k : Int) : Digits :=
  let all := Nat.toDigits 10 d
  ⟨(all.reverse.dropWhile (· == '0')).reverse, k + all.length - 1⟩

/-- The shortest decimal of a positive number; seventeen digits always read back. -/
def shortest (significand : Nat) (exponent : Int) (isPowerStart : Bool) : Digits :=
  let i := interval significand isPowerStart
  let e := exponent - 2
  let (d, k) := firstOnGrid i e 17 (leadingExponent (scaled i.middle e 0))
  .ofNat d k

end Prewire.Decimal
