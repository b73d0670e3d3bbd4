import Prewire.Types.Registry

/-! Supertypes with their type arguments. A type is viewed as one of its supertypes by a search in
declaration order that enters no class twice, so it ends on cyclic and on expanding declarations. -/
namespace Prewire.Types

open Java

namespace Registry

/-- The direct supertypes under the type arguments. Under a raw type they keep the variables of the
declaration. -/
def directSupertypes (r : Registry) : JavaType → List JavaType
  | .classType name arguments =>
    match r.get? name with
    | none => []
    | some d => d.supertypes.map (·.substitute (d.bindings arguments).value?)
  | _ => []

/-- The weight of the classes that are not visited. -/
def weightOutside (weight : TypeDeclaration → Nat) (visited : List ClassName) :
    List TypeDeclaration → Nat
  | [] => 0
  | d :: ds => (if d.name ∈ visited then 0 else weight d) + weightOutside weight visited ds

/-- A class weighs no more once another class is visited too. -/
theorem weight_cons_le (visited : List ClassName) (name other : ClassName) (weight : Nat) :
    (if other ∈ name :: visited then 0 else weight) ≤ if other ∈ visited then 0 else weight := by
  by_cases entered : other ∈ visited
  · rw [if_pos (List.mem_cons_of_mem name entered)]
    exact Nat.zero_le _
  · rw [if_neg entered]
    split
    · exact Nat.zero_le _
    · exact Nat.le_refl _

theorem weightOutside_cons_le (weight : TypeDeclaration → Nat) (visited : List ClassName)
    (name : ClassName) (ds : List TypeDeclaration) :
    weightOutside weight (name :: visited) ds ≤ weightOutside weight visited ds := by
  induction ds with
  | nil => exact Nat.le_refl _
  | cons d ds ih => exact Nat.add_le_add (weight_cons_le visited name d.name _) ih

/-- A class that is visited takes its weight off. -/
theorem weightOutside_cons_add_le (weight : TypeDeclaration → Nat) {visited : List ClassName}
    {ds : List TypeDeclaration} {d : TypeDeclaration} (mem : d ∈ ds) (fresh : d.name ∉ visited) :
    weightOutside weight (d.name :: visited) ds + weight d ≤ weightOutside weight visited ds := by
  induction ds with
  | nil => simp at mem
  | cons e ds ih =>
    rw [weightOutside, weightOutside]
    rcases List.mem_cons.mp mem with rfl | mem
    · have := weightOutside_cons_le weight visited d.name ds
      rw [if_pos List.mem_cons_self, if_neg fresh]
      omega
    · have := weight_cons_le visited d.name e.name (weight e)
      have := ih mem
      omega

def edgesOutside (r : Registry) (visited : List ClassName) : Nat :=
  weightOutside (·.supertypes.length) visited r.declarations

theorem edgesOutside_cons_le (r : Registry) (visited : List ClassName) (name : ClassName) :
    r.edgesOutside (name :: visited) ≤ r.edgesOutside visited :=
  weightOutside_cons_le _ visited name _

theorem edgesOutside_cons_add_le {r : Registry} {visited : List ClassName} {name : ClassName}
    {d : TypeDeclaration} (fresh : name ∉ visited) (found : r.get? name = some d) :
    r.edgesOutside (name :: visited) + d.supertypes.length ≤ r.edgesOutside visited := by
  obtain rfl : d.name = name := by simpa using List.find?_some found
  exact weightOutside_cons_add_le _ (List.mem_of_find?_eq_some found) fresh

theorem length_directSupertypes_le (r : Registry) {t : JavaType} {name : ClassName}
    (raw : t.rawClass? = some name) {visited : List ClassName} (fresh : name ∉ visited) :
    r.edgesOutside (name :: visited) + (r.directSupertypes t).length ≤ r.edgesOutside visited := by
  cases t with
  | classType n arguments =>
    obtain rfl : n = name := by simpa [JavaType.rawClass?] using raw
    cases found : r.get? n with
    | none => simpa [directSupertypes, found] using r.edgesOutside_cons_le visited n
    | some d => simpa [directSupertypes, found] using edgesOutside_cons_add_le fresh found
  | _ => simp [JavaType.rawClass?] at raw

-- `raw` and `fresh` are for the termination proof, which the linter does not see.
set_option linter.unusedVariables false in
/-- The first of the types, or of their supertypes in depth-first order, that is a form of
`target`. -/
def search (r : Registry) (target : ClassName) (visited : List ClassName) :
    List JavaType → Option JavaType
  | [] => none
  | t :: rest =>
    match raw : t.rawClass? with
    | none => search r target visited rest
    | some name =>
      if name = target then some t
      else if fresh : name ∈ visited then search r target visited rest
      else search r target (name :: visited) (r.directSupertypes t ++ rest)
termination_by stack => r.edgesOutside visited + stack.length
decreasing_by
  · simp
  · simp
  · have := length_directSupertypes_le r raw fresh
    simp only [List.length_append, List.length_cons]
    omega

section
variable {r : Registry} {target name : ClassName} {visited : List ClassName} {t : JavaType}
variable {rest : List JavaType}

theorem search_unnamed (nameless : t.rawClass? = none) :
    r.search target visited (t :: rest) = r.search target visited rest := by
  rw [search]; split <;> simp_all

theorem search_found (named : t.rawClass? = some target) :
    r.search target visited (t :: rest) = some t := by
  rw [search]; split <;> simp_all

theorem search_again (named : t.rawClass? = some name) (other : name ≠ target)
    (seen : name ∈ visited) :
    r.search target visited (t :: rest) = r.search target visited rest := by
  rw [search]; split <;> simp_all

theorem search_enter (named : t.rawClass? = some name) (other : name ≠ target)
    (fresh : name ∉ visited) :
    r.search target visited (t :: rest) =
      r.search target (name :: visited) (r.directSupertypes t ++ rest) := by
  rw [search]; split <;> simp_all

end

/-- A type viewed as its supertype `target`, as `ArrayList<String>` is a `List<String>`. Every class
and every array is an `Object`, known or not. -/
def view? (r : Registry) (t : JavaType) (target : ClassName) : Option JavaType :=
  if Known.isNamed Known.object target && (t.rawClass?.isSome || t.isArray)
  then some (.ofClass target) else r.search target [] [t]

def isSubtype (r : Registry) (name ancestor : ClassName) : Bool :=
  (r.view? (.ofClass name) ancestor).isSome

end Registry
end Prewire.Types
