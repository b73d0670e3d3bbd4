import Prewire.Registration.TypeExpression
import Prewire.Registration.ValueExpression
import Prewire.Plan.BeanPlan

/-! How the instance of a bean is created: a constructor or method is called with arguments that are
written out, or, where the container has to look them up, with attributes that it supplies. -/
namespace Prewire.Registration

open Java Types Beans Plan

def attributesName : String := "attributes"

def contextName : String := "context"

def instanceContextName : String := "instanceContext"

/-- `attributes.get(0)` and so on. -/
def attributeArguments (count : Nat) : List Expression :=
  (List.range count).map fun (index : Nat) =>
    .call (.name attributesName) "get" [.number (.int index)]

def parameterTypeExpressions (e : Executable) : List Expression :=
  e.parameterTypes.map rawTypeExpression

/-- The call of a constructor, of a static method, or of a method of the bean that declares it. -/
def invocation (e : Executable) (arguments : List Expression) : Expression :=
  match e.kind with
  | .constructor => .create (.ofClass e.declaringClass) arguments
  | .method name _ true => .staticCall e.declaringClass name arguments
  | .method name _ false =>
    .chain (.name contextName) [⟨"getBean", [.classOf e.declaringClass]⟩, ⟨name, arguments⟩]

def lookedUpCreation (e : Executable) : Expression :=
  .call (.name instanceContextName) "create"
    [.name contextName,
      .lambda [attributesName] (invocation e (attributeArguments e.parameterCount))]

/-- Whole numbers take the form of a wider parameter. -/
def takesForm (value : BeanValue) (parameter : JavaType) : Bool :=
  match value, parameter.primitiveForm? with
  | .byte _, some p | .short _, some p | .int _, some p => p = .long || p = .float || p = .double
  | _, _ => false

/-- Whether a literal is an argument for a parameter as it stands. What needs conversion is left to
the container. -/
def bindsDirectly (f : BeanFactory) (value : BeanValue) (parameter : JavaType)
    (takesElements : Bool) : Bool :=
  match f.valueType? value with
  | none => !parameter.isPrimitive
  | some type =>
    f.registry.isAssignable parameter type || takesForm value parameter
      || (takesElements && parameter.component?.any (f.registry.isAssignable · type))

/-- Position by position; the last parameter may take any number of values. -/
def bindAll (f : BeanFactory) (isVarargs : Bool) : List BeanValue → List JavaType → Bool
  | value :: values, parameter :: parameters =>
    bindsDirectly f value parameter (isVarargs && parameters.isEmpty)
      && bindAll f isVarargs values parameters
  | _, _ => true

def literalArguments : List BeanValue → List JavaType → Except Failure (List Expression)
  | value :: values, parameter :: parameters => do
    let first ← plainExpression value (some parameter)
    return first :: (← literalArguments values parameters)
  | _, _ => .ok []

/-- The arguments of a creator where they can be written out. -/
def directArguments (f : BeanFactory) (d : BeanDefinition) (creator : Creator) :
    Except Failure (Option (List Expression)) :=
  let e := creator.executable
  let values := d.arguments.ordered.map fun a => f.resolve a.value
  if e.parameterCount = 0 then .ok (some [])
  else if creator.parameters.any (·.kind = some .provider) || values.length ≠ e.parameterCount
      || !values.all BeanValue.isLiteral || !bindAll f e.isVarargs values e.parameterTypes
  then .ok none
  else (literalArguments values e.parameterTypes).map some

/-- What a registration says of the constructor or method: nothing of a constructor without
parameters. -/
def selection (e : Executable) : List Call :=
  match e.methodName? with
  | some name =>
    [⟨"withFactoryMethod",
      .classOf e.declaringClass :: .string name :: parameterTypeExpressions e⟩]
  | none =>
    if e.parameters.isEmpty then [] else [⟨"withConstructor", parameterTypeExpressions e⟩]

end Prewire.Registration
