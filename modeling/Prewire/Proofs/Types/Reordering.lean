import Prewire.Proofs.Types.Corresponding

/-! The order in which declarations list their constructors and methods. Supertypes, assignment and
the classes of a hierarchy do not depend on it, and the methods visible on a class are the same
apart from their order. -/
namespace Prewire.Types

open Java

/-- Declarations that differ at most in the order of constructors and methods. Methods of one
signature keep their order, since the first of them hides the others. -/
structure TypeDeclaration.Reordered (a b : TypeDeclaration) : Prop where
  constructors : a.constructors.Perm b.constructors
  methods : ∀ m : Executable, a.methods.filter (m.sameSignature ·) = b.methods.filter (m.sameSignature ·)
  others : { a with constructors := [], methods := [] } = { b with constructors := [], methods := [] }

namespace TypeDeclaration.Reordered

variable {a b : TypeDeclaration}

theorem name (same : a.Reordered b) : a.name = b.name :=
  (TypeDeclaration.mk.inj same.others).1

theorem sameSupertypes (same : a.Reordered b) : a.SameSupertypes b := by
  have := TypeDeclaration.mk.inj same.others
  constructor <;> simp_all

theorem isAbstract (same : a.Reordered b) : a.isAbstract = b.isAbstract := by
  have := TypeDeclaration.mk.inj same.others
  simp_all [TypeDeclaration.isAbstract, TypeDeclaration.isInterface]

theorem refl (a : TypeDeclaration) : a.Reordered a := ⟨.refl _, fun _ => rfl, rfl⟩

end TypeDeclaration.Reordered

def Registry.Reordered (r s : Registry) : Prop :=
  ∀ name, Option.Rel TypeDeclaration.Reordered (r.get? name) (s.get? name)

namespace Registry

section
variable {r s : Registry} (same : r.Reordered s)
include same

theorem Reordered.corresponds : r.Corresponds TypeDeclaration.Reordered s := same

theorem Reordered.get? (name : ClassName) :
    (r.get? name = none ∧ s.get? name = none) ∨
      ∃ a b, r.get? name = some a ∧ s.get? name = some b ∧ a.Reordered b :=
  same.corresponds.get? name

theorem Reordered.view?_eq (t : JavaType) (target : ClassName) :
    r.view? t target = s.view? t target :=
  (same.corresponds.mono fun _ _ found => found.sameSupertypes).view?_eq t target

theorem Reordered.isAssignable_eq (target source : JavaType) :
    r.isAssignable target source = s.isAssignable target source :=
  Registry.isAssignable_eq same.view?_eq target source

/-- The methods of a hierarchy, of one signature, in order. -/
theorem Reordered.filter_methods (name : ClassName) (m : Executable) :
    ((r.hierarchy name).flatMap TypeDeclaration.methods).filter (m.sameSignature ·) =
      ((s.hierarchy name).flatMap TypeDeclaration.methods).filter (m.sameSignature ·) := by
  have related := same.corresponds.hierarchy (fun _ _ found => found.sameSupertypes) name
  generalize r.hierarchy name = ds at related ⊢
  generalize s.hierarchy name = es at related ⊢
  induction related with
  | nil => rfl
  | cons first _ ih =>
    simp only [List.flatMap_cons, List.filter_append, first.methods m, ih]

theorem Reordered.methodsOf (name : ClassName) : (r.methodsOf name).Perm (s.methodsOf name) := by
  refine (List.perm_ext_iff_of_nodup (nodup_firstOfSignature _) (nodup_firstOfSignature _)).mpr ?_
  intro m
  simp only [mem_firstOfSignature, ← List.head?_filter, same.filter_methods name m]

end
end Registry
end Prewire.Types
