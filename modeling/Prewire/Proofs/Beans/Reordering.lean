import Prewire.Proofs.Beans.Congruence
import Prewire.Proofs.Beans.ReturnType
import Prewire.Proofs.Types.Reordering

/-! The types of beans do not depend on the order in which declarations list their constructors and
methods. -/
namespace Prewire.Beans

open Java Types

namespace BeanFactory

section
variable {r s : Registry} (same : r.Reordered s)
include same

theorem methodsNamed_perm (owner : ClassName) (name : String) (count : Nat) :
    (methodsNamed r owner name count).Perm (methodsNamed s owner name count) :=
  (same.methodsOf owner).filter _

theorem methodReturnType_eq (beanType : String → Answer (Option JavaType)) (d : BeanDefinition)
    (arguments : List ArgumentType) :
    methodReturnType r beanType d arguments = methodReturnType s beanType d arguments := by
  have agreed (owner : ClassName) (name : String) :
      agreedReturnType r arguments none (methodsNamed r owner name arguments.length) =
        agreedReturnType s arguments none (methodsNamed s owner name arguments.length) := by
    rw [← agreedReturnType_congr same.view?_eq]
    apply agreedReturnType_perm r arguments (methodsNamed_perm same owner name _)
    intro m member
    obtain ⟨-, counts⟩ := Bool.and_eq_true_iff.mp (List.mem_filter.mp member).2
    simp only [Bool.or_eq_true, decide_eq_true_eq] at counts
    simp only [Executable.parameterCount] at counts
    simp only [Executable.parameterTypes, List.length_map]
    omega
  simp only [methodReturnType, agreed]

theorem sameProduced_of_reordered (d : BeanDefinition) : SameProduced r s d :=
  fun beanType arguments =>
    producedType_congr same.view?_eq (methodReturnType_eq same beanType d arguments)

end

structure Reordered (f g : BeanFactory) : Prop where
  registry : f.registry.Reordered g.registry
  definitions : f.definitions = g.definitions
  singletons : f.singletons = g.singletons

namespace Reordered

variable {f g : BeanFactory} (same : f.Reordered g)
include same

theorem sameBeans : f.SameBeans g := ⟨same.definitions, same.singletons⟩

theorem factoryClass?_eq (d : BeanDefinition) : f.factoryClass? d = g.factoryClass? d :=
  same.sameBeans.factoryClass?_eq fun _ _ e _ => sameProduced_of_reordered same.registry e

theorem argumentTypes_eq (d : BeanDefinition) : f.argumentTypes d = g.argumentTypes d :=
  same.sameBeans.argumentTypes_eq fun _ _ _ e _ => sameProduced_of_reordered same.registry e

end Reordered
end BeanFactory
end Prewire.Beans
