import Prewire.Types.Assignable
import Prewire.Failure

/-! Choosing among constructors or methods by the types of the configured arguments. There are
three tiers of fit, each of which admits what the one before admits; the first tier that fits any
candidate decides. -/
namespace Prewire.Plan

open Java Types

/-- How loosely an argument may fit a parameter. -/
inductive Tier where
  /-- The argument can be assigned to the parameter. -/
  | assignable
  /-- The argument can be assigned to an element of the parameter. -/
  | element
  /-- The container can convert the argument. -/
  | conversion
  deriving DecidableEq, Repr

namespace Tier

def all : List Tier := [assignable, element, conversion]

def rank : Tier → Nat
  | assignable => 0 | element => 1 | conversion => 2

def includes (tier other : Tier) : Bool := other.rank ≤ tier.rank

end Tier

/-- The element type of an array, or of a `Collection`, `List` or `Set` with a type argument. -/
def elementType? : JavaType → Option JavaType
  | .array component => some component
  | .classType name [element] =>
    if Known.isNamed Known.collection name || Known.isNamed Known.list name
        || Known.isNamed Known.set name then some element else none
  | _ => none

def isClassType (known : ClassName) (t : JavaType) : Bool := t.rawClass?.any (Known.isNamed known)

def isSimple : JavaType → Bool
  | .primitive _ => true
  | .classType name _ => (Primitive.unboxed? name).isSome || Known.isNamed Known.string name
  | _ => false

/-- The container converts between simple types, and between strings and classes. -/
def isConvertible (target source : JavaType) : Bool :=
  (isClassType Known.classOf target && isClassType Known.string source)
    || (isClassType Known.string target && isClassType Known.classOf source)
    || (isSimple target && isSimple source)

/-- Whether an argument type fits a parameter at a tier. -/
def fits (r : Registry) (tier : Tier) (parameter argument : JavaType) : Bool :=
  r.isAssignable parameter argument
    || (tier.includes .element && (elementType? parameter).any (r.isAssignable · argument))
    || (tier.includes .conversion
      && (isConvertible parameter argument
        || (elementType? parameter).any fun element =>
          isConvertible element argument || (elementType? argument).any (isConvertible element ·)))

/-- Position by position; an argument of unknown type fits anywhere. -/
def allFit (r : Registry) (tier : Tier) : List JavaType → List (Option JavaType) → Bool
  | parameter :: parameters, argument :: arguments =>
    argument.all (fits r tier parameter) && allFit r tier parameters arguments
  | _, _ => true

def accepts (r : Registry) (arguments : List (Option JavaType)) (tier : Tier) (e : Executable) :
    Bool := allFit r tier e.parameterTypes arguments

/-- The only candidate that the first fitting tier admits. -/
def selectAmong (r : Registry) (owner : ClassName) (arguments : List (Option JavaType))
    (candidates : List Executable) : List Tier → Except Failure (Option Executable)
  | [] => .ok none
  | tier :: tiers =>
    match candidates.filter (accepts r arguments tier) with
    | [] => selectAmong r owner arguments candidates tiers
    | [single] => .ok (some single)
    | several => .error (.ambiguousExecutable owner arguments several)

/-- The candidate with as many parameters as there are arguments that fits them best. -/
def select (r : Registry) (owner : ClassName) (arguments : List (Option JavaType))
    (candidates : List Executable) : Except Failure (Option Executable) :=
  selectAmong r owner arguments
    (candidates.filter (·.parameterCount = arguments.length)) Tier.all

end Prewire.Plan
