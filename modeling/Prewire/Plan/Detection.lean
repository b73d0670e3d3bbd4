import Prewire.Plan.Matching
import Prewire.Beans.Factory
import Prewire.Notice

/-! The constructor or factory method that creates a bean. There may be none, and then the bean is
not registered. -/
namespace Prewire.Plan

open Java Types Beans

/-- A static method is called on the class that declares it, and a private method on none. -/
def isEligible (owner : ClassName) (m : Executable) : Bool :=
  if m.isStatic then m.declaringClass = owner else !m.visibility.isPrivate

def factoryMethodCandidates (r : Registry) (owner : ClassName) (name : String) : List Executable :=
  (r.methodsOf owner).filter fun m => m.methodName? = some name && isEligible owner m

/-- The only eligible method of that name, or the one that fits the arguments. -/
def detectFactoryMethod (f : BeanFactory) (d : BeanDefinition) (name : String) :
    Except Failure (Option Executable) :=
  match f.factoryClass? d with
  | none => .error (.missingBeanClass (d.factoryBean.getD name))
  | some owner =>
    match factoryMethodCandidates f.registry owner name with
    | [] => .ok none
    | [single] => .ok (some single)
    | several => select f.registry owner (f.argumentTypes d) several

/-- What the type says a factory bean produces, where its target type has to agree with it. -/
def producedType? (r : Registry) (factory : ClassName) : Option JavaType :=
  BeanFactory.objectType? r (.ofClass factory)

/-- Whether a factory bean can produce the target type: a type parameter of it may be replaced only
within its bound. -/
def producesTarget (r : Registry) (factory : ClassName) (target : JavaType) : Bool :=
  (producedType? r factory).all fun produced =>
    r.isAssignableWithin (r.parameterBounds factory) produced target

def detectFactoryBeanConstructor (r : Registry) (d : BeanDefinition) (type : TypeDeclaration) :
    Except Failure (Option Executable) :=
  match d.targetType with
  | some target =>
    if producesTarget r type.name target then .ok type.constructors.head?
    else .error (.incompatibleTargetType target type.name)
  | none => .ok type.constructors.head?

/-- The only constructor, the only autowired one, or the one that fits the arguments; an abstract
type has none. -/
def detectConstructor (f : BeanFactory) (d : BeanDefinition) (type : TypeDeclaration) :
    Except Failure (Option Executable) :=
  if type.isAbstract then .ok none
  else match type.constructors with
    | [single] => .ok (some single)
    | constructors =>
      match constructors.filter (·.isAnnotated Known.autowired) with
      | [single] => .ok (some single)
      | _ => select f.registry type.name (f.argumentTypes d) constructors

def detect (f : BeanFactory) (d : BeanDefinition) : Except Failure (Option Executable) :=
  match d.factoryMethod, d.beanClass with
  | some name, _ => detectFactoryMethod f d name
  | none, none => .ok none
  | none, some beanClass =>
    match f.registry.get? beanClass with
    | none => .error (.unknownType beanClass)
    | some type =>
      if f.registry.isSubtype beanClass Known.factoryBean
      then detectFactoryBeanConstructor f.registry d type
      else detectConstructor f d type

/-- What is reported of a finished detection. A definition without class and method is none. -/
def detectionNotices (d : BeanDefinition) : Except Failure (Option Executable) → List Notice
  | .error _ => []
  | .ok (some e) => [.executableResolved e]
  | .ok none =>
    if d.factoryMethod.isNone && d.beanClass.isNone then []
    else [.executableUnresolved d.beanClass d.factoryMethod]

end Prewire.Plan
