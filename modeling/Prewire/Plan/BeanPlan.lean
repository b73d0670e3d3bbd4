import Prewire.Plan.Detection
import Prewire.Plan.Dependency

/-! All that the registration of a bean is written from: its type, what creates it, what is injected
into it and which properties are set. -/
namespace Prewire.Plan

open Java Types Beans

/-- What creates a bean, with a dependency for each of its parameters. -/
structure Creator where
  executable : Executable
  parameters : List Dependency
  deriving DecidableEq, Repr

def parameterDependencies (r : Registry) (index : Nat) : List Parameter → List Dependency
  | [] => []
  | p :: rest =>
    .of r (.parameter index p) p.type true :: parameterDependencies r (index + 1) rest

def Creator.of (r : Registry) (e : Executable) : Creator :=
  ⟨e, parameterDependencies r 0 e.parameters⟩

/-- A property with its value and, where it is known, the type of its setter or field. -/
structure PropertySetting where
  name : String
  value : BeanValue
  type : Option JavaType

namespace PropertySetting

def setterName (property : String) : String := "set" ++ Text.capitalize property

def setterType? (r : Registry) (name : ClassName) (property : String) : Option JavaType :=
  ((r.methodsOf name).find? fun m =>
    !m.isStatic && m.methodName? = some (setterName property) && m.parameterCount = 1).bind
      (·.parameterTypes.head?)

def fieldType? (r : Registry) (name : ClassName) (property : String) : Option JavaType :=
  (((r.superclassChain name).flatMap TypeDeclaration.fields).find? fun field =>
    !field.isStatic && field.name = property).map Field.type

def declaredType? (r : Registry) (name : ClassName) (property : String) : Option JavaType :=
  setterType? r name property <|> fieldType? r name property

def ofDefinition (f : BeanFactory) (d : BeanDefinition) (name : ClassName) : List PropertySetting :=
  d.properties.map fun (property, value) =>
    ⟨property, f.resolve value, declaredType? f.registry name property⟩

end PropertySetting

structure BeanPlan where
  beanType : JavaType
  /-- There is none for beans that only the container can create. -/
  creator : Option Creator := none
  injections : List Dependency := []
  properties : List PropertySetting := []

namespace BeanPlan

def userClass (plan : BeanPlan) : ClassName := plan.beanType.rawClass?.getD Known.object

/-- The class that members of the created object are looked up in. -/
def instanceClass (e : Executable) : ClassName :=
  (e.returnType?.bind JavaType.rawClass?).getD e.declaringClass

def ofExecutable (f : BeanFactory) (d : BeanDefinition) (e : Executable) : BeanPlan where
  beanType := (d.targetType <|> e.returnType?).getD (.ofClass e.declaringClass)
  creator := some (.of f.registry e)
  injections := Dependency.injectedInto f.registry (instanceClass e) e
  properties := PropertySetting.ofDefinition f d (instanceClass e)

/-- The plan of a definition; none when nothing creates the bean. -/
def ofDefinition (f : BeanFactory) (d : BeanDefinition) : Except Failure (Option BeanPlan) :=
  (detect f d).map (·.map (ofExecutable f d))

end BeanPlan
end Prewire.Plan
