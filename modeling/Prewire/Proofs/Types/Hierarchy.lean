import Prewire.Types.Hierarchy

/-! Unfolding of the walks through a hierarchy, and which methods of it are visible: of each
signature the first, and each once. -/
namespace Prewire.Types

open Java

theorem sameSignature_refl (a : Executable) : a.sameSignature a := by
  simp [Executable.sameSignature]

theorem sameSignature_comm (a b : Executable) : a.sameSignature b = b.sameSignature a := by
  simp only [Executable.sameSignature, eq_comm]

theorem sameSignature_congr {a b : Executable} (same : a.sameSignature b) (c : Executable) :
    a.sameSignature c = b.sameSignature c := by
  simp only [Executable.sameSignature, Bool.and_eq_true, decide_eq_true_eq] at same
  simp only [Executable.sameSignature, same]

/-- Where each element of a list removes the later ones that are like it, the first of its kind is kept. -/
theorem mem_iff_find?_eq_some {α : Type} (like : α → α → Bool) (refl : ∀ a, like a a)
    (comm : ∀ a b, like a b = like b a) {kept : List α → List α} (nil : kept [] = [])
    (cons : ∀ a rest, kept (a :: rest) = a :: (kept rest).filter (!like a ·)) {a : α} {as : List α} :
    a ∈ kept as ↔ as.find? (like a ·) = some a := by
  induction as with
  | nil => simp [nil]
  | cons b rest ih =>
    rw [cons, List.mem_cons, List.mem_filter, ih, comm b a]
    cases same : like a b with
    | true => simp [same, eq_comm]
    | false =>
      have apart : a ≠ b := fun equal => by simp [equal, refl] at same
      simp [same, apart]

namespace Registry

theorem mem_firstOfSignature {m : Executable} {methods : List Executable} :
    m ∈ firstOfSignature methods ↔ methods.find? (m.sameSignature ·) = some m :=
  mem_iff_find?_eq_some Executable.sameSignature sameSignature_refl sameSignature_comm rfl fun _ _ => rfl

theorem pairwise_firstOfSignature (methods : List Executable) :
    (firstOfSignature methods).Pairwise fun a b => a.sameSignature b = false := by
  induction methods with
  | nil => exact .nil
  | cons m rest ih =>
    refine List.pairwise_cons.mpr ⟨?_, ih.sublist List.filter_sublist⟩
    intro other member
    simpa using (List.mem_filter.mp member).2

theorem nodup_of_signatures {methods : List Executable}
    (apart : methods.Pairwise fun a b => a.sameSignature b = false) : methods.Nodup := by
  refine apart.imp ?_
  rintro a b apart rfl
  simp [sameSignature_refl] at apart

theorem nodup_firstOfSignature (methods : List Executable) : (firstOfSignature methods).Nodup :=
  nodup_of_signatures (pairwise_firstOfSignature methods)

theorem firstOfSignature_eq_self {methods : List Executable}
    (distinct : methods.Pairwise fun a b => a.sameSignature b = false) :
    firstOfSignature methods = methods := by
  induction distinct with
  | nil => rfl
  | cons apart _ ih =>
    rw [firstOfSignature, ih, List.filter_eq_self.mpr]
    intro other listed
    rw [apart other listed, Bool.not_false]

section
variable {r : Registry} {visited : List ClassName} {name : ClassName} {d : TypeDeclaration}

theorem name_of_get? (known : r.get? name = some d) : d.name = name := by
  simpa using List.find?_some known

theorem chainFrom_unknown (unknown : r.get? name = none) : r.chainFrom visited name = [] := by
  rw [chainFrom]; split <;> simp_all

theorem chainFrom_again (found : r.get? name = some d) (again : d.name ∈ visited) :
    r.chainFrom visited name = [] := by
  rw [chainFrom]; split <;> simp_all

theorem chainFrom_fresh (found : r.get? name = some d) (fresh : d.name ∉ visited) :
    r.chainFrom visited name = d ::
      (d.superclass.bind JavaType.rawClass?).elim [] (r.chainFrom (d.name :: visited)) := by
  rw [chainFrom]
  split
  · simp_all
  · next e known =>
    obtain rfl : d = e := by simp_all
    rw [dif_neg fresh]
    cases d.superclass.bind JavaType.rawClass? <;> rfl

theorem reachedInterfaces_again {rest : List ClassName} (again : name ∈ visited) :
    r.reachedInterfaces visited (name :: rest) = r.reachedInterfaces visited rest := by
  rw [reachedInterfaces]; simp [again]

theorem reachedInterfaces_unknown {rest : List ClassName} (fresh : name ∉ visited)
    (unknown : r.get? name = none) :
    r.reachedInterfaces visited (name :: rest) = r.reachedInterfaces (name :: visited) rest := by
  rw [reachedInterfaces, dif_neg fresh]; split <;> simp_all

theorem reachedInterfaces_fresh {rest : List ClassName} (fresh : name ∉ visited)
    (found : r.get? name = some d) :
    r.reachedInterfaces visited (name :: rest) =
      d :: r.reachedInterfaces (name :: visited) (rest ++ rawInterfaces d) := by
  rw [reachedInterfaces, dif_neg fresh]; split <;> simp_all

end

end Registry
end Prewire.Types
