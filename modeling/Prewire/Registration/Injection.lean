import Prewire.Registration.Creation
import Prewire.Output.Reflection

/-! Injection into an object that exists: its fields are assigned and its methods called with values
that the container looks up. Private members are reached by reflection. -/
namespace Prewire.Registration

open Java Types Plan Output

def beanVariable : String := "bean"

/-- Looks the values up and hands them to a lambda, where nothing found is a failure or, for what is
not required, no injection. -/
def lookup (isRequired : Bool) (lambda : Expression) : List Call :=
  if isRequired then [⟨"invoke", [.name contextName, lambda]⟩]
  else [⟨"resolve", [.name contextName, .boolean false]⟩, ⟨"ifResolved", [lambda]⟩]

/-- Finds a private member, opens it, and uses it. -/
def reflective (type : ClassName) (holder find use : String) (findArguments : List Expression)
    (useArguments : List Expression) : Expression :=
  .blockLambda [attributesName]
    [.declare (.ofClass type) holder (.staticCall Known.reflectionUtils find findArguments),
      .expression (.staticCall Known.reflectionUtils "makeAccessible" [.name holder]),
      .expression (.staticCall Known.reflectionUtils use
        (.name holder :: .name beanVariable :: useArguments))]

def fieldLambda (field : Field) : Expression :=
  if field.visibility.isPrivate then
    reflective Known.reflectField "field" "findField" "setField"
      [.classOf field.declaringClass, .string field.name, rawTypeExpression field.type]
      (attributeArguments 1)
  else
    .lambda [attributesName] (.assign (.member (.name beanVariable) field.name)
      (.call (.name attributesName) "get" [.number (.int 0)]))

def injectedMethodName (m : Executable) : String := m.methodName?.getD ""

def methodLambda (m : Executable) : Expression :=
  let attributes := attributeArguments m.parameterCount
  if m.visibility.isPrivate then
    reflective Known.reflectMethod "method" "findMethod" "invokeMethod"
      (.classOf m.declaringClass :: .string (injectedMethodName m) :: parameterTypeExpressions m)
      attributes
  else .lambda [attributesName] (.call (.name beanVariable) (injectedMethodName m) attributes)

/-- The statement that injects a dependency; parameters are injected on creation. -/
def injection (d : Dependency) : Option Statement :=
  match d.member with
  | .parameter .. => none
  | .field field =>
    some (.expression (.chain (.name instanceContextName)
      (⟨"field", [.string field.name, rawTypeExpression field.type]⟩
        :: lookup d.isRequired (fieldLambda field))))
  | .method m =>
    some (.expression (.chain (.name instanceContextName)
      (⟨"method", .string (injectedMethodName m) :: parameterTypeExpressions m⟩
        :: lookup d.isRequired (methodLambda m))))

def recordInjection (r : Reflection) (d : Dependency) : Reflection :=
  match d.member with
  | .parameter .. => r
  | .field field => if field.visibility.isPrivate then r.addField field else r
  | .method m => if m.visibility.isPrivate then r.addExecutable m else r

/-- The type of the variable that holds the created object. -/
def instanceType (e : Executable) : JavaType := e.returnType?.getD (.ofClass e.declaringClass)

/-- The lambda that creates the instance, given the arguments that can be written out, and then
injects what is asked for. -/
def supplier (e : Executable) (arguments : Option (List Expression))
    (injections : List Dependency) : Expression :=
  if injections.isEmpty then
    match arguments with
    | some arguments => .lambda [] (invocation e arguments)
    | none => .lambda [instanceContextName] (lookedUpCreation e)
  else
    .blockLambda [instanceContextName]
      (.declare (instanceType e) beanVariable
          ((arguments.map (invocation e)).getD (lookedUpCreation e))
        :: injections.filterMap injection ++ [.giveBack (.name beanVariable)])

end Prewire.Registration
