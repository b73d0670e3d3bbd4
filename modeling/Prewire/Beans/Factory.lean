import Prewire.Beans.Value
import Prewire.Types.Assignable
import Prewire.Types.Hierarchy

/-! What a container knows: types, bean definitions in the order of registration, and singletons
that exist already. The type of a bean can depend on the types of others; where it depends on
itself there is no answer, which is kept apart from the answer that the type is not known. -/
namespace Prewire.Beans

open Java Types

structure BeanFactory where
  registry : Registry
  definitions : List (String × BeanDefinition) := []
  singletons : List (String × BeanValue) := []
  deriving Inhabited

/-- `none` where the answer depends on itself. -/
abbrev Answer (α : Type) := Option α

/-- The type of an argument, worked out only where a rule asks for it. -/
abbrev ArgumentType := Unit → Answer (Option JavaType)

namespace BeanFactory

def putDefinition (name : String) (definition : BeanDefinition) :
    List (String × BeanDefinition) → List (String × BeanDefinition)
  | [] => [(name, definition)]
  | (other, present) :: rest =>
    if other = name then (name, definition) :: rest
    else (other, present) :: putDefinition name definition rest

/-- Registers a definition, in the place of one of that name. -/
def define (f : BeanFactory) (name : String) (definition : BeanDefinition) : BeanFactory :=
  { f with definitions := putDefinition name definition f.definitions }

def addSingleton (f : BeanFactory) (name : String) (value : BeanValue) : BeanFactory :=
  { f with singletons := (name, value) :: f.singletons.filter (·.1 ≠ name) }

def definition? (f : BeanFactory) (name : String) : Option BeanDefinition :=
  f.definitions.lookup name

def singleton? (f : BeanFactory) (name : String) : Option BeanValue := f.singletons.lookup name

/-- The type of object that a factory bean produces, where the type is one of a factory bean. -/
def objectType? (r : Registry) (factoryType : JavaType) : Option JavaType :=
  (r.view? factoryType Known.factoryBean).bind (·.arguments.head?)

/-- Whether arguments can be assigned to parameters, as far as there are both and the type is
known. -/
def acceptsArguments (r : Registry) :
    List JavaType → List ArgumentType → Answer Bool
  | parameter :: parameters, argument :: arguments => do
    match ← argument () with
    | some type =>
      if r.isAssignable parameter type then acceptsArguments r parameters arguments
      else return false
    | none => acceptsArguments r parameters arguments
  | _, _ => return true

/-- The return type on which the accepting methods agree, `agreed` being that of the ones before. -/
def agreedReturnType (r : Registry) (arguments : List ArgumentType) :
    (agreed : Option JavaType) → List Executable → Answer (Option JavaType)
  | agreed, [] => return agreed
  | agreed, m :: rest => do
    if ← acceptsArguments r m.parameterTypes arguments then
      match m.returnType?, agreed with
      | none, _ => agreedReturnType r arguments agreed rest
      | some type, none => agreedReturnType r arguments (some type) rest
      | some type, some other =>
        if type = other then agreedReturnType r arguments agreed rest else return none
    else agreedReturnType r arguments agreed rest

/-- The class that declares the factory method: that of the factory bean, or the bean class. -/
def factoryClassBy (beanType : String → Answer (Option JavaType)) (d : BeanDefinition) :
    Answer (Option ClassName) :=
  match d.factoryBean with
  | some name => return (← beanType name).bind JavaType.rawClass?
  | none => return d.beanClass

/-- The methods that may be the factory method: any with the name, and with the number of
arguments if there are arguments. -/
def methodsNamed (r : Registry) (owner : ClassName) (name : String) (count : Nat) :
    List Executable :=
  (r.methodsOf owner).filter fun m =>
    m.methodName? = some name && (count = 0 || m.parameterCount = count)

def methodReturnType (r : Registry) (beanType : String → Answer (Option JavaType))
    (d : BeanDefinition) (arguments : List ArgumentType) :
    Answer (Option JavaType) := do
  match d.factoryMethod with
  | none => return none
  | some name =>
    match ← factoryClassBy beanType d with
    | none => return none
    | some owner =>
      agreedReturnType r arguments none (methodsNamed r owner name arguments.length)

/-- The type of what a definition produces: its target type, otherwise what the factory method
returns or the bean class, and for a factory bean the type of its objects. -/
def producedType (r : Registry) (beanType : String → Answer (Option JavaType))
    (d : BeanDefinition) (arguments : List ArgumentType) :
    Answer (Option JavaType) := do
  match d.targetType with
  | some target => return some target
  | none =>
    let returned ← methodReturnType r beanType d arguments
    let produced := returned <|> d.beanClass.map JavaType.ofClass
    return produced.map fun type => (objectType? r type).getD type

mutual
/-- The type of a configured value, given the types of beans by name. -/
def valueTypeBy (r : Registry) (beanType : String → Answer (Option JavaType)) :
    BeanValue → Answer (Option JavaType)
  | .reference name => beanType name
  | .inner d => definitionTypeBy r beanType d
  | value => return value.literalType?
def definitionTypeBy (r : Registry) (beanType : String → Answer (Option JavaType)) :
    BeanDefinition → Answer (Option JavaType)
  | d@(.mk _ _ _ _ arguments _ _ _ _ _ _ _) =>
    producedType r beanType d (argumentTypesBy r beanType arguments)
def argumentTypesBy (r : Registry) (beanType : String → Answer (Option JavaType)) :
    ConstructorArguments → List ArgumentType
  | .mk indexed generic => indexedTypesBy r beanType indexed ++ genericTypesBy r beanType generic
/-- The declared type of an argument, otherwise that of its value. -/
def argumentTypeBy (r : Registry) (beanType : String → Answer (Option JavaType)) :
    ArgumentValue → Answer (Option JavaType)
  | .mk _ (some type) => return some type
  | .mk value none => valueTypeBy r beanType value
def indexedTypesBy (r : Registry) (beanType : String → Answer (Option JavaType)) :
    List (Nat × ArgumentValue) → List ArgumentType
  | [] => []
  | (_, a) :: rest => (fun _ => argumentTypeBy r beanType a) :: indexedTypesBy r beanType rest
def genericTypesBy (r : Registry) (beanType : String → Answer (Option JavaType)) :
    List ArgumentValue → List ArgumentType
  | [] => []
  | a :: rest => (fun _ => argumentTypeBy r beanType a) :: genericTypesBy r beanType rest
end

/-- The type of a bean by name, with at most `depth` beans in a chain of dependencies. -/
def beanTypeWithin (f : BeanFactory) : Nat → String → Answer (Option JavaType)
  | 0, _ => none
  | depth + 1, name =>
    match f.singleton? name with
    | some value => valueTypeBy f.registry (beanTypeWithin f depth) value
    | none =>
      match f.definition? name with
      | some d => definitionTypeBy f.registry (beanTypeWithin f depth) d
      | none => return none

/-- A chain of more beans than there are names holds one of them twice. -/
def dependencyLimit (f : BeanFactory) : Nat := f.definitions.length + f.singletons.length + 1

def beanTypeAnswer (f : BeanFactory) (name : String) : Answer (Option JavaType) :=
  f.beanTypeWithin f.dependencyLimit name

def definitionTypeAnswer (f : BeanFactory) (d : BeanDefinition) : Answer (Option JavaType) :=
  definitionTypeBy f.registry f.beanTypeAnswer d

def valueTypeAnswer (f : BeanFactory) (value : BeanValue) : Answer (Option JavaType) :=
  valueTypeBy f.registry f.beanTypeAnswer value

def factoryClassAnswer (f : BeanFactory) (d : BeanDefinition) : Answer (Option ClassName) :=
  factoryClassBy f.beanTypeAnswer d

/-- The type of a bean, from its singleton or else its definition. -/
def beanType? (f : BeanFactory) (name : String) : Option JavaType := (f.beanTypeAnswer name).join

def definitionType? (f : BeanFactory) (d : BeanDefinition) : Option JavaType :=
  (f.definitionTypeAnswer d).join

def valueType? (f : BeanFactory) (value : BeanValue) : Option JavaType :=
  (f.valueTypeAnswer value).join

def factoryClass? (f : BeanFactory) (d : BeanDefinition) : Option ClassName :=
  (f.factoryClassAnswer d).join

def argumentTypes (f : BeanFactory) (d : BeanDefinition) : List (Option JavaType) :=
  d.arguments.ordered.map fun a => (argumentTypeBy f.registry f.beanTypeAnswer a).join

mutual
/-- Replaces references to singletons that are literals by these literals, also inside arrays, lists
and sets. -/
def resolve (f : BeanFactory) : BeanValue → BeanValue
  | .reference name =>
    match f.singleton? name with
    | some value => if value.isLiteral then value else .reference name
    | none => .reference name
  | .list elements => .list (resolveAll f elements)
  | .set elements => .set (resolveAll f elements)
  | .array component elements => .array component (resolveAll f elements)
  | value => value
def resolveAll (f : BeanFactory) : List BeanValue → List BeanValue
  | [] => []
  | v :: vs => resolve f v :: resolveAll f vs
end

end BeanFactory
end Prewire.Beans
