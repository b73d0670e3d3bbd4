import Prewire.Types.Assignable
import Prewire.Proofs.Types.Hierarchy
import Mathlib.Data.List.Forall2

/-! Registries whose declarations correspond to each other. Where corresponding declarations have the same
supertypes, views and assignment are the same, and a hierarchy runs through corresponding declarations. -/
namespace Prewire.Types

open Java

/-- Declarations of one type with the same supertypes; they may differ in all else. -/
structure TypeDeclaration.SameSupertypes (a b : TypeDeclaration) : Prop where
  name : a.name = b.name
  typeParameters : a.typeParameters = b.typeParameters
  superclass : a.superclass = b.superclass
  interfaces : a.interfaces = b.interfaces

namespace Registry

/-- The same types are declared, by declarations that correspond to each other. -/
def Corresponds (related : TypeDeclaration → TypeDeclaration → Prop) (r s : Registry) : Prop :=
  ∀ name, Option.Rel related (r.get? name) (s.get? name)

section
variable {related : TypeDeclaration → TypeDeclaration → Prop} {r s : Registry}

theorem Corresponds.get? (same : r.Corresponds related s) (name : ClassName) :
    (r.get? name = none ∧ s.get? name = none) ∨
      ∃ a b, r.get? name = some a ∧ s.get? name = some b ∧ related a b := by
  have here := same name
  generalize r.get? name = left at here ⊢
  generalize s.get? name = right at here ⊢
  cases here with
  | none => exact .inl ⟨rfl, rfl⟩
  | some found => exact .inr ⟨_, _, rfl, rfl, found⟩

theorem Corresponds.mono {weaker : TypeDeclaration → TypeDeclaration → Prop}
    (same : r.Corresponds related s) (implies : ∀ a b, related a b → weaker a b) :
    r.Corresponds weaker s := by
  intro name
  rcases same.get? name with ⟨left, right⟩ | ⟨a, b, left, right, found⟩
  · rw [left, right]
    exact .none
  · rw [left, right]
    exact .some (implies a b found)

end

section
variable {r s : Registry} (same : r.Corresponds TypeDeclaration.SameSupertypes s)
include same

theorem Corresponds.directSupertypes_eq (t : JavaType) :
    r.directSupertypes t = s.directSupertypes t := by
  cases t with
  | classType name arguments =>
    rcases same.get? name with ⟨left, right⟩ | ⟨a, b, left, right, found⟩
    · simp [directSupertypes, left, right]
    · simp [directSupertypes, left, right, TypeDeclaration.supertypes, TypeDeclaration.bindings,
        found.typeParameters, found.superclass, found.interfaces]
  | _ => rfl

theorem Corresponds.search_eq (target : ClassName) (visited : List ClassName)
    (stack : List JavaType) : r.search target visited stack = s.search target visited stack := by
  fun_induction r.search target visited stack with
  | case1 => rw [search]
  | case2 visited t rest nameless ih => rw [search_unnamed nameless, ih]
  | case3 visited t rest named => rw [search_found named]
  | case4 visited t rest name named other seen ih => rw [search_again named other seen, ih]
  | case5 visited t rest name named other fresh ih =>
    rw [search_enter named other fresh, ← same.directSupertypes_eq, ih]

theorem Corresponds.view?_eq (t : JavaType) (target : ClassName) :
    r.view? t target = s.view? t target := by
  simp only [view?, same.search_eq]

end

mutual
/-- Type arguments are compared without a look at the registry. -/
theorem agrees_eq (r s : Registry) (accepts : String → JavaType → Option Bool) :
    ∀ target source, r.agrees accepts target source = s.agrees accepts target source
  | .primitive _, _ | .variable _, _ => by simp only [agrees]
  | .classType name arguments, source => by
    simp only [agrees]
    split <;> simp only [agreeAll_eq r s accepts arguments]
  | .array component, source => by
    simp only [agrees]
    split <;> simp only [agrees_eq r s accepts component]
theorem agreeAll_eq (r s : Registry) (accepts : String → JavaType → Option Bool) :
    ∀ targets sources, r.agreeAll accepts targets sources = s.agreeAll accepts targets sources
  | [], _ | _ :: _, [] => by simp only [agreeAll]
  | target :: targets, source :: sources => by
    simp only [agreeAll, agrees_eq r s accepts target, agreeAll_eq r s accepts targets]
end

section
variable {r s : Registry} (views : ∀ t name, r.view? t name = s.view? t name)
include views

/-- Assignment looks at the registry only for views as a supertype. -/
theorem assigns_eq (accepts : String → JavaType → Option Bool) :
    ∀ target source, r.assigns accepts target source = s.assigns accepts target source
  | .primitive _, _ | .variable _, _ => by simp only [assigns]
  | .classType name arguments, source => by
    simp only [assigns, views, agreeAll_eq r s]
  | .array component, source => by
    simp only [assigns]
    split
    · rfl
    · split <;> simp only [assigns_eq accepts component]

theorem isAssignable_eq (target source : JavaType) :
    r.isAssignable target source = s.isAssignable target source := by
  simp only [isAssignable, assigns_eq views]

end

section
variable {related : TypeDeclaration → TypeDeclaration → Prop}
variable (keeps : ∀ a b, related a b → a.SameSupertypes b)
include keeps

theorem names_eq {ds es : List TypeDeclaration} (along : List.Forall₂ related ds es) :
    ds.map TypeDeclaration.name = es.map TypeDeclaration.name := by
  induction along with
  | nil => rfl
  | cons first _ ih => simp [(keeps _ _ first).name, ih]

theorem rawInterfaces_eq {ds es : List TypeDeclaration} (along : List.Forall₂ related ds es) :
    ds.flatMap rawInterfaces = es.flatMap rawInterfaces := by
  induction along with
  | nil => rfl
  | cons first _ ih => simp [rawInterfaces, (keeps _ _ first).interfaces, ih]

variable {r s : Registry} (same : r.Corresponds related s)
include same

theorem Corresponds.chainFrom (visited : List ClassName) (name : ClassName) :
    List.Forall₂ related (r.chainFrom visited name) (s.chainFrom visited name) := by
  fun_induction r.chainFrom visited name with
  | case1 visited name unknown =>
    rcases same.get? name with ⟨_, right⟩ | ⟨a, b, left, _, _⟩
    · simp [chainFrom_unknown right]
    · simp_all
  | case2 visited name d found again =>
    rcases same.get? name with ⟨left, _⟩ | ⟨a, b, left, right, here⟩
    · simp_all
    · obtain rfl : d = a := by simp_all
      simp [chainFrom_again right ((keeps _ _ here).name ▸ again)]
  | case3 visited name d found fresh ih =>
    rcases same.get? name with ⟨left, _⟩ | ⟨a, b, left, right, here⟩
    · simp_all
    · obtain rfl : d = a := by simp_all
      have outline := keeps _ _ here
      rw [chainFrom_fresh right (outline.name ▸ fresh), ← outline.superclass, ← outline.name]
      refine .cons here ?_
      cases d.superclass.bind JavaType.rawClass? with
      | none => exact .nil
      | some above => exact ih above

theorem Corresponds.reachedInterfaces (visited queue : List ClassName) :
    List.Forall₂ related (r.reachedInterfaces visited queue)
      (s.reachedInterfaces visited queue) := by
  fun_induction r.reachedInterfaces visited queue with
  | case1 visited => simp [Registry.reachedInterfaces]
  | case2 visited name rest again ih => rwa [reachedInterfaces_again again]
  | case3 visited name rest fresh unknown ih =>
    rcases same.get? name with ⟨_, right⟩ | ⟨a, b, left, _, _⟩
    · rwa [reachedInterfaces_unknown fresh right]
    · simp_all
  | case4 visited name rest fresh d found ih =>
    rcases same.get? name with ⟨left, _⟩ | ⟨a, b, left, right, here⟩
    · simp_all
    · obtain rfl : d = a := by simp_all
      rw [reachedInterfaces_fresh fresh right]
      have interfaces : rawInterfaces b = rawInterfaces d := by
        simp [rawInterfaces, (keeps _ _ here).interfaces]
      exact .cons here (interfaces ▸ ih)

theorem Corresponds.hierarchy (name : ClassName) :
    List.Forall₂ related (r.hierarchy name) (s.hierarchy name) := by
  have chains : List.Forall₂ related (r.superclassChain name) (s.superclassChain name) :=
    same.chainFrom keeps [] name
  simp only [Registry.hierarchy, names_eq keeps chains, rawInterfaces_eq keeps chains]
  exact List.rel_append chains (same.reachedInterfaces keeps _ _)

end
end Registry
end Prewire.Types
