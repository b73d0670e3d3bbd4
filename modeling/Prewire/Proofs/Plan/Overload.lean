import Prewire.Plan.Detection
import Prewire.Proofs.Beans.Reordering
import Prewire.Proofs.Plan.LeastTier

/-! Choice among overloads. Where several constructors or eligible factory methods are there to
choose from, the tiers alone decide, and the order in which declarations list them does not
matter. -/
namespace Prewire.Plan

open Java Types Beans

section
variable {r s : Registry} (views : ∀ t name, r.view? t name = s.view? t name)
include views

theorem fits_congr (tier : Tier) (parameter : JavaType) :
    fits r tier parameter = fits s tier parameter := by
  funext argument
  simp only [fits, Registry.isAssignable_eq views]

theorem accepts_congr (arguments : List (Option JavaType)) (tier : Tier) :
    accepts r arguments tier = accepts s arguments tier := by
  have all (parameters : List JavaType) :
      allFit r tier parameters arguments = allFit s tier parameters arguments := by
    induction parameters generalizing arguments with
    | nil => simp only [allFit]
    | cons parameter parameters ih =>
      cases arguments with
      | nil => simp only [allFit]
      | cons argument arguments => simp only [allFit, fits_congr views, ih]
  funext e
  exact all e.parameterTypes

/-- A choice among given executables depends on the supertypes alone. -/
theorem select_congr (owner : ClassName) (arguments : List (Option JavaType))
    (candidates : List Executable) :
    select r owner arguments candidates = select s owner arguments candidates := by
  have among (candidates : List Executable) (tiers : List Tier) :
      selectAmong r owner arguments candidates tiers =
        selectAmong s owner arguments candidates tiers := by
    induction tiers with
    | nil => rfl
    | cons tier tiers ih => simp only [selectAmong, accepts_congr views, ih]
  exact among _ _

end

section
variable {r s : Registry} (same : r.Reordered s)
include same

end

/-- The executables among which the arguments of a definition have to decide: the constructors of a
concrete class that is no factory bean, unless it has one alone or one alone is autowired, or the
eligible methods with the name of the factory method, unless it is one alone. -/
inductive Contested (f : BeanFactory) (d : BeanDefinition) : ClassName → List Executable → Prop
  | constructors {beanClass : ClassName} {type : TypeDeclaration}
    (noMethod : d.factoryMethod = none) (named : d.beanClass = some beanClass)
    (known : f.registry.get? beanClass = some type)
    (ordinary : f.registry.isSubtype beanClass Known.factoryBean = false)
    (concrete : type.isAbstract = false) (several : 2 ≤ type.constructors.length)
    (unmarked : (type.constructors.filter (·.isAnnotated Known.autowired)).length ≠ 1) :
    Contested f d type.name type.constructors
  | methods {name : String} {owner : ClassName} (method : d.factoryMethod = some name)
    (owned : f.factoryClass? d = some owner)
    (several : 2 ≤ (factoryMethodCandidates f.registry owner name).length) :
    Contested f d owner (factoryMethodCandidates f.registry owner name)

section
variable {f : BeanFactory} {d : BeanDefinition} {owner : ClassName} {candidates : List Executable}

theorem Contested.detect_eq (contested : Contested f d owner candidates) :
    detect f d = select f.registry owner (f.argumentTypes d) candidates := by
  cases contested with
  | constructors noMethod named known ordinary concrete several unmarked =>
    simp only [detect, noMethod, named, known, ordinary, detectConstructor, concrete,
      Bool.false_eq_true, if_false]
    split
    · next single only => simp [only] at several
    · split
      · next single only => simp [only] at unmarked
      · rfl
  | methods method owned several =>
    simp only [detect, method, detectFactoryMethod, owned]
    split
    · simp_all
    · simp_all
    · rfl

end

namespace Sample

def owner : ClassName := ⟨"com.example", ["Sample"]⟩

def constructor (parameter : JavaType) : Executable :=
  { declaringClass := owner, kind := .constructor
    parameters := [{ name := "value", type := parameter }] }

def integer : JavaType := .ofClass Primitive.int.boxed
def declaration (constructors : List Executable) : TypeDeclaration :=
  { name := owner, constructors := constructors }

def factory (constructors : List Executable) : BeanFactory :=
  { registry := ⟨[declaration constructors]⟩ }

def definition : BeanDefinition :=
  { BeanDefinition.blank with
    beanClass := some owner, arguments := ⟨[], [⟨.int 42, none⟩]⟩ }

end Sample

end Prewire.Plan
