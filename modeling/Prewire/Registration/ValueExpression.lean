import Prewire.Java.Expression
import Prewire.Beans.Value
import Prewire.Failure

/-! Configured values as expressions. The declared type of the target, where it is known, selects
the form of whole numbers and is passed on to the elements of collections. -/
namespace Prewire.Registration

open Java Beans

/-- The form of a whole number for a target; negative ones need a cast to be narrow. -/
def wholeNumber (value : Int) : Primitive → NumberLiteral
  | .byte => if value < 0 then .cast .byte value else .int value
  | .short => if value < 0 then .cast .short value else .int value
  | .long => .long value
  | .float => .wholeFloat value
  | .double => .wholeDouble value
  | _ => .int value

def whole (value : Int) (type : Option JavaType) (own : Primitive) : Expression :=
  .number (wholeNumber value ((type.bind JavaType.primitiveForm?).getD own))

def constantOf (p : Primitive) (name : String) : Expression :=
  .member (.typeName (.ofClass p.boxed)) name

/-- A floating point number, or the constant of the wrapper class for one that has no digits. -/
def floating (format : Decimal.BinaryFormat) (p : Primitive) (bits : Nat)
    (literal : NumberLiteral) : Expression :=
  match format.magnitude bits with
  | .notANumber => constantOf p "NaN"
  | .infinite =>
    constantOf p (if format.isNegative bits then "NEGATIVE_INFINITY" else "POSITIVE_INFINITY")
  | .finite .. => .number literal

def beanReference (beanName : String) : Expression :=
  .create (.ofClass Known.runtimeBeanReference) [.string beanName]

def emptyCollection (factory : String) : Expression := .staticCall Known.collections factory []

section
variable {m : Type → Type} [Monad m] [MonadExceptOf Failure m]

mutual
/-- The expression of a value for a target of a type, given that of inner beans. -/
def valueExpression (innerBean : BeanDefinition → m Expression) :
    BeanValue → Option JavaType → m Expression
  | .null, _ => return .nullLiteral
  | .boolean value, _ => return .boolean value
  | .byte value, type => return whole value.toInt type .byte
  | .short value, type => return whole value.toInt type .short
  | .int value, type => return whole value.toInt type .int
  | .long value, _ => return .number (.long value.toInt)
  | .float bits, _ => return floating .single .float bits.toNat (.float bits)
  | .double bits, _ => return floating .double .double bits.toNat (.double bits)
  | .char value, _ => return .character value
  | .string value, _ => return .string value
  | .enumConstant type constant, _ => return .member (.typeName (.ofClass type)) constant
  | .classLiteral type, _ => return .classLiteral type.erasure
  | .array component elements, _ =>
    return .createArray component.erasure
      (← valueExpressions innerBean elements (some component))
  | .list [], _ => return emptyCollection "emptyList"
  | .list elements, type =>
    return .staticCall Known.list "of"
      (← valueExpressions innerBean elements (type.bind (·.arguments.head?)))
  | .set [], _ => return emptyCollection "emptySet"
  | .set elements, type =>
    return .staticCall Known.set "of"
      (← valueExpressions innerBean elements (type.bind (·.arguments.head?)))
  | .reference beanName, _ => return beanReference beanName
  | .inner definition, _ => innerBean definition
  | .opaqueInstance type, _ => throw (.unsupportedValue (.instance type))
def valueExpressions (innerBean : BeanDefinition → m Expression) :
    List BeanValue → Option JavaType → m (List Expression)
  | [], _ => return []
  | v :: vs, type => do
    let first ← valueExpression innerBean v type
    return first :: (← valueExpressions innerBean vs type)
end

/-- For a value that no inner bean may occur in. -/
def refuseInner (definition : BeanDefinition) : m Expression :=
  throw (.unsupportedValue (.innerBean definition.beanClass))

end

def plainExpression (value : BeanValue) (type : Option JavaType) : Except Failure Expression :=
  valueExpression refuseInner value type

end Prewire.Registration
