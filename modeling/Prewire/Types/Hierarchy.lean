import Prewire.Types.Supertypes

/-! The superclasses and interfaces of a class, and the methods visible on it. -/
namespace Prewire.Types

open Java

namespace Registry

-- As in `search`, the names of the cases are for termination.
set_option linter.unusedVariables false in
/-- The class and its superclasses from `name` upwards, until one is unknown or comes again. -/
def chainFrom (r : Registry) (visited : List ClassName) (name : ClassName) : List TypeDeclaration :=
  match found : r.get? name with
  | none => []
  | some d =>
    if fresh : d.name ∈ visited then []
    else d :: match d.superclass.bind JavaType.rawClass? with
      | none => []
      | some above => chainFrom r (d.name :: visited) above
termination_by weightOutside (fun _ => 1) visited r.declarations
decreasing_by exact weightOutside_cons_add_le (fun _ => 1) (List.mem_of_find?_eq_some found) fresh

def superclassChain (r : Registry) (name : ClassName) : List TypeDeclaration := r.chainFrom [] name

def rawInterfaces (d : TypeDeclaration) : List ClassName :=
  d.interfaces.filterMap JavaType.rawClass?

theorem length_rawInterfaces_le (d : TypeDeclaration) :
    (rawInterfaces d).length ≤ d.supertypes.length := by
  have := List.length_filterMap_le JavaType.rawClass? d.interfaces
  simp only [rawInterfaces, TypeDeclaration.supertypes, List.length_append]
  omega

set_option linter.unusedVariables false in
/-- The known interfaces reached from a queue of names, breadth first, each once. -/
def reachedInterfaces (r : Registry) (visited : List ClassName) :
    List ClassName → List TypeDeclaration
  | [] => []
  | name :: rest =>
    if fresh : name ∈ visited then reachedInterfaces r visited rest
    else match found : r.get? name with
      | none => reachedInterfaces r (name :: visited) rest
      | some d => d :: reachedInterfaces r (name :: visited) (rest ++ rawInterfaces d)
termination_by queue => r.edgesOutside visited + queue.length
decreasing_by
  · simp
  · have := r.edgesOutside_cons_le visited name
    simp only [List.length_cons]; omega
  · have := edgesOutside_cons_add_le fresh found
    have := length_rawInterfaces_le d
    simp only [List.length_append, List.length_cons]; omega

/-- A class, its superclasses, then the interfaces of all of them, each once. -/
def hierarchy (r : Registry) (name : ClassName) : List TypeDeclaration :=
  let chain := r.superclassChain name
  chain ++ r.reachedInterfaces (chain.map TypeDeclaration.name) (chain.flatMap rawInterfaces)

/-- Of the methods with one signature, the first. -/
def firstOfSignature : List Executable → List Executable
  | [] => []
  | m :: rest => m :: (firstOfSignature rest).filter (!m.sameSignature ·)

/-- The methods visible on a class: its own, then the inherited ones that none before overrides. -/
def methodsOf (r : Registry) (name : ClassName) : List Executable :=
  firstOfSignature ((r.hierarchy name).flatMap TypeDeclaration.methods)

end Registry
end Prewire.Types
