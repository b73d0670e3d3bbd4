import Prewire.Decimal.Shortest
import Prewire.Java.JavaType

/-! Number literals. -/
namespace Prewire.Java

inductive NumberLiteral where
  | int (value : Int)
  | long (value : Int)
  /-- A whole number written as a `float`. -/
  | wholeFloat (value : Int)
  /-- A whole number written as a `double`. -/
  | wholeDouble (value : Int)
  /-- An `int` literal with a cast in front of it. -/
  | cast (type : Primitive) (value : Int)
  /-- A finite `float` by its bits. -/
  | float (bits : UInt32)
  /-- A finite `double` by its bits. -/
  | double (bits : UInt64)
  deriving DecidableEq, Repr

namespace NumberLiteral

/-- Digits with a point after the first few, and at least one digit on each side of the point. -/
def positional (d : Decimal.Digits) : List Char :=
  if d.exponent < 0 then
    '0' :: '.' :: (List.replicate ((-d.exponent).toNat - 1) '0' ++ d.digits)
  else
    let whole := d.exponent.toNat + 1
    let front := d.digits.take whole
    let back := d.digits.drop whole
    front ++ List.replicate (whole - front.length) '0'
      ++ '.' :: (if back.isEmpty then ['0'] else back)

/-- One digit before the point, none after it where none is left, and the power of ten. -/
def scientific (d : Decimal.Digits) : List Char :=
  d.digits.take 1 ++ (if d.digits.length ≤ 1 then [] else '.' :: d.digits.drop 1)
    ++ 'e' :: (toString d.exponent).toList

/-- Powers of ten from `-4` to `15` are written out. -/
def decimalText (d : Decimal.Digits) : List Char :=
  if -4 ≤ d.exponent && d.exponent < 16 then positional d else scientific d

def finiteText (format : Decimal.BinaryFormat) (bits : Nat) : String :=
  let sign := if format.isNegative bits then ['-'] else []
  match format.magnitude bits with
  | .finite 0 _ _ => String.ofList (sign ++ ['0', '.', '0'])
  | .finite m e start => String.ofList (sign ++ decimalText (Decimal.shortest m e start))
  | _ => ""

def text : NumberLiteral → String
  | int value => toString value
  | long value => toString value ++ "L"
  | wholeFloat value => toString value ++ "F"
  | wholeDouble value => toString value ++ ".0"
  | cast type value => "(" ++ type.keyword ++ ") " ++ toString value
  | float bits => finiteText .single bits.toNat ++ "F"
  | double bits => finiteText .double bits.toNat

end NumberLiteral
end Prewire.Java
