import Prewire.Proofs.Types.Invariance
import Prewire.Proofs.Types.Substitution

/-! Erasure and assignment. Without its type arguments a class has the supertypes that it has with them,
but they keep the variables of the declarations in the place of the arguments. As a type argument a
variable agrees with whatever its value agrees with, so that erasure never loses an assignment. -/
namespace Prewire.Types

open Java

/-- A type that says no more than another one: it may have a variable in the place of a part of it, or a
class without type arguments. -/
inductive Loosens : (general special : JavaType) → Prop
  | primitive (p : Primitive) : Loosens (.primitive p) (.primitive p)
  | variable (name : String) (special : JavaType) : Loosens (.variable name) special
  | raw (name : ClassName) (arguments : List JavaType) :
    Loosens (.classType name []) (.classType name arguments)
  | classType (name : ClassName) {arguments others : List JavaType}
    (each : List.Forall₂ Loosens arguments others) :
    Loosens (.classType name arguments) (.classType name others)
  | array {general special : JavaType} (component : Loosens general special) :
    Loosens (.array general) (.array special)

structure LoosensClass (general special : JavaType) : Prop where
  named : general.rawClass?.isSome
  loosens : Loosens general special

theorem LoosensClass.rawClass?_eq {general special : JavaType} (loosens : LoosensClass general special) :
    general.rawClass? = special.rawClass? := by
  obtain ⟨named, loosens⟩ := loosens
  cases loosens with
  | raw | classType => rfl
  | _ => cases named

mutual
/-- Looser values make a looser type. -/
theorem loosens_substitute {value? other? : String → Option JavaType}
    (values : ∀ v, Loosens ((JavaType.variable v).substitute value?)
      ((JavaType.variable v).substitute other?)) :
    ∀ t : JavaType, Loosens (t.substitute value?) (t.substitute other?)
  | .primitive p => .primitive p
  | .classType name arguments => .classType name (forall₂_loosens_substitute values arguments)
  | .array component => .array (loosens_substitute values component)
  | .variable v => values v
theorem forall₂_loosens_substitute {value? other? : String → Option JavaType}
    (values : ∀ v, Loosens ((JavaType.variable v).substitute value?)
      ((JavaType.variable v).substitute other?)) :
    ∀ ts : List JavaType,
      List.Forall₂ Loosens (JavaType.substituteAll value? ts) (JavaType.substituteAll other? ts)
  | [] => .nil
  | t :: ts => .cons (loosens_substitute values t) (forall₂_loosens_substitute values ts)
end

namespace Registry

variable {r : Registry}

/-- The supertypes of a class are looser where the values of its type parameters are. -/
theorem forall₂_loosens_directSupertypes {name : ClassName} {arguments others : List JavaType}
    (values : ∀ d, r.get? name = some d → ∀ v,
      Loosens ((JavaType.variable v).substitute (d.bindings arguments).value?)
        ((JavaType.variable v).substitute (d.bindings others).value?)) :
    List.Forall₂ Loosens (r.directSupertypes (.classType name arguments))
      (r.directSupertypes (.classType name others)) := by
  simp only [directSupertypes]
  cases found : r.get? name with
  | none => exact .nil
  | some d =>
    rw [List.forall₂_map_left_iff, List.forall₂_map_right_iff, List.forall₂_same]
    exact fun t _ => loosens_substitute (values d found) t

/-- The supertypes of a looser class type are looser, and class types themselves. -/
theorem loosensClass_directSupertypes (classes : r.HasClassSupertypes) {general special : JavaType}
    (loosens : LoosensClass general special) :
    List.Forall₂ LoosensClass (r.directSupertypes general) (r.directSupertypes special) := by
  obtain ⟨named, loosens⟩ := loosens
  have looser : List.Forall₂ Loosens (r.directSupertypes general) (r.directSupertypes special) := by
    cases loosens with
    | raw name arguments =>
      -- No parameter has a value, and a variable loosens any type.
      refine forall₂_loosens_directSupertypes fun d _ v => ?_
      have none : (d.bindings []).value? v = none := by simp [TypeDeclaration.bindings, Bindings.value?]
      rw [JavaType.substitute, none]
      exact .variable v _
    | classType name each =>
      refine forall₂_loosens_directSupertypes fun d _ v => ?_
      have values := TypeDeclaration.rel_value?_bindings (d := d) v each
      rw [JavaType.substitute, JavaType.substitute]
      generalize (d.bindings _).value? v = value at values ⊢
      generalize (d.bindings _).value? v = other at values ⊢
      cases values with
      | none => exact .variable v _
      | some loosens => exact loosens
    | _ => cases named
  have namedAbove : ∀ above ∈ r.directSupertypes general, above.rawClass?.isSome := by
    intro above direct
    obtain ⟨c, own⟩ := Option.isSome_iff_exists.mp named
    obtain ⟨_, raw, -⟩ := declaresSuper_of_mem classes own direct
    exact raw ▸ rfl
  exact ((List.forall₂_and_left _ _).mpr ⟨namedAbove, looser⟩).imp fun _ _ both => ⟨both.1, both.2⟩

/-- A looser class type has looser views. -/
theorem view?_of_loosens (classes : r.HasClassSupertypes) {general special view : JavaType}
    (loosens : LoosensClass general special) {target : ClassName}
    (viewed : r.view? special target = some view) :
    ∃ looser, r.view? general target = some looser ∧ Loosens looser view := by
  cases top : Known.isNamed Known.object target with
  | true =>
    rw [view?, ← loosens.rawClass?_eq, top, loosens.named] at viewed
    obtain rfl := Option.some.inj viewed
    refine ⟨.ofClass target, ?_, .raw target []⟩
    rw [view?, top, loosens.named]
    rfl
  | false =>
    have views := view?_related (fun _ _ => LoosensClass.rawClass?_eq)
      (fun _ _ => loosensClass_directSupertypes classes) top loosens
    rw [viewed] at views
    generalize r.view? general target = looser at views ⊢
    cases views with
    | some related => exact ⟨_, rfl, related.loosens⟩

mutual
/-- What agrees with a type argument agrees with a looser one. -/
theorem agrees_of_loosens : ∀ (target : JavaType) {general special : JavaType}, Loosens general special →
    r.agrees (fun _ _ => some true) target special = some true →
      r.agrees (fun _ _ => some true) target general = some true
  | .variable _, _, _, _, _ => by rw [agrees]
  | .primitive p, _, _, loosens, agree => by
    cases loosens with
    | primitive => exact agree
    | «variable» => exact agrees_variable _ _
    | _ => simp [agrees, JavaType.isVariable] at agree
  | .classType name arguments, _, _, loosens, agree => by
    cases loosens with
    | primitive | array => exact agree
    | «variable» => exact agrees_variable _ _
    | raw =>
      rw [agrees] at agree ⊢
      split at agree <;> simp_all
    | @classType _ gs ss each =>
      -- The lists are empty together and of the same length, so that only their types tell them apart.
      have empty : gs.isEmpty = ss.isEmpty := by cases each <;> rfl
      rw [agrees] at agree ⊢
      rw [empty, each.length_eq]
      split at agree
      · cases agree
      · next named =>
        rw [if_neg named]
        split at agree
        · next given =>
          rw [if_pos given]
        · next given =>
          rw [if_neg given]
          split at agree
          · cases agree
          · next lengths =>
            rw [if_neg lengths]
            exact agreeAll_of_loosens arguments each agree
  | .array component, _, _, loosens, agree => by
    cases loosens with
    | primitive | raw | classType => exact agree
    | «variable» => exact agrees_variable _ _
    | array loosens =>
      rw [agrees] at agree ⊢
      exact agrees_of_loosens component loosens agree
theorem agreeAll_of_loosens : ∀ (targets : List JavaType) {general special : List JavaType},
    List.Forall₂ Loosens general special →
      r.agreeAll (fun _ _ => some true) targets special = some true →
        r.agreeAll (fun _ _ => some true) targets general = some true
  | [], _, _, _, _ => by simp only [agreeAll]
  | _ :: _, _, _, .nil, agree => agree
  | target :: targets, _, _, .cons first later, agree => by
    rw [agreeAll_cons] at agree ⊢
    exact ⟨agrees_of_loosens target first agree.1, agreeAll_of_loosens targets later agree.2⟩
end

theorem isPrimitive_erasure (t : JavaType) : t.erasure.isPrimitive = t.isPrimitive := by
  cases t <;> rfl

/-- Arrays have the same primitive or two references as components. -/
theorem isAssignable_components {component other : JavaType}
    (assignable : r.isAssignable (.array component) (.array other)) :
    (∃ p, component = .primitive p ∧ other = .primitive p) ∨
      component.isPrimitive = false ∧ other.isPrimitive = false ∧ r.isAssignable component other := by
  rcases isAssignable_array assignable with rfl | references
  · cases component with
    | primitive p => exact .inl ⟨p, rfl, rfl⟩
    | _ => exact .inr ⟨rfl, rfl, r.isAssignable_refl _⟩
  · exact .inr references

/-- A class without type arguments is taken wherever it is taken with them. -/
theorem isAssignable_ofClass (classes : r.HasClassSupertypes) {name c : ClassName}
    {arguments own : List JavaType}
    (assignable : r.isAssignable (.classType name arguments) (.classType c own)) :
    r.isAssignable (.classType name arguments) (.ofClass c) := by
  refine isAssignable_classType_iff.mpr (.inr ?_)
  rcases isAssignable_classType_iff.mp assignable with same | ⟨view, viewed, agree⟩
  · obtain ⟨rfl, -⟩ := JavaType.classType.inj same
    refine ⟨.ofClass name, ?_, ?_⟩
    · rw [view?_self]
      split <;> rfl
    · simp [JavaType.ofClass, agrees]
  · obtain ⟨looser, found, loosens⟩ := view?_of_loosens classes ⟨rfl, .raw c own⟩ viewed
    exact ⟨looser, found, agrees_of_loosens _ loosens agree⟩

/-- What is taken is also taken without its type arguments. -/
theorem isAssignable_erasure_source (classes : r.HasClassSupertypes) : ∀ {target source : JavaType},
    r.isAssignable target source → r.isAssignable target source.erasure
  | _, .primitive _, assignable | _, .variable _, assignable => assignable
  | .variable _, _, _ => by simp [isAssignable, assigns]
  | .primitive p, .classType name arguments, assignable => by
    simpa [isAssignable, assigns, JavaType.erasure, JavaType.ofClass] using assignable
  | .primitive p, .array component, assignable => by simp [isAssignable, assigns] at assignable
  | .classType name arguments, .classType c own, assignable => isAssignable_ofClass classes assignable
  | .classType name arguments, .array component, assignable => by
    simpa [isAssignable, assigns, JavaType.erasure] using assignable
  | .array component, .classType c own, assignable => by simp [isAssignable, assigns] at assignable
  | .array component, .array other, assignable => by
    rcases isAssignable_components assignable with ⟨p, rfl, rfl⟩ | ⟨reference, otherReference, inner⟩
    · exact assignable
    · rw [JavaType.erasure,
        isAssignable_array_iff reference ((isPrimitive_erasure other).trans otherReference)]
      exact isAssignable_erasure_source classes inner

/-- A class without type arguments takes what it takes with them. -/
theorem isAssignable_of_classType {name : ClassName} {arguments : List JavaType} {source : JavaType}
    (assignable : r.isAssignable (.classType name arguments) source) :
    r.isAssignable (.ofClass name) source := by
  cases known : source.isVariable with
  | true =>
    cases source with
    | «variable» => simp [isAssignable, assigns, JavaType.ofClass]
    | _ => cases known
  | false =>
    rcases isAssignable_classType assignable known with rfl | ⟨array, above⟩ | ⟨view, viewed⟩
    · refine isAssignable_classType_iff.mpr (.inr ⟨_, view?_self r name arguments, ?_⟩)
      split <;> simp [JavaType.ofClass, agrees]
    · cases source with
      | array => simp [isAssignable, assigns, JavaType.ofClass, above]
      | _ => cases array
    · cases source with
      | «variable» => cases known
      | _ => simp_all [isAssignable, assigns, JavaType.ofClass]

/-- A type without its type arguments takes what it takes with them. -/
theorem isAssignable_erasure_target : ∀ {target source : JavaType},
    r.isAssignable target source → r.isAssignable target.erasure source
  | .primitive _, _, assignable | .variable _, _, assignable => assignable
  | .classType name arguments, source, assignable => isAssignable_of_classType assignable
  | .array component, source, assignable => by
    cases source with
    | array other =>
      rcases isAssignable_components assignable with ⟨p, rfl, rfl⟩ | ⟨reference, otherReference, inner⟩
      · exact assignable
      · rw [JavaType.erasure,
          isAssignable_array_iff ((isPrimitive_erasure component).trans reference) otherReference]
        exact isAssignable_erasure_target inner
    | «variable» => simp [isAssignable, assigns, JavaType.erasure]
    | _ => simp [isAssignable, assigns] at assignable

/-- Erasure of the target or of the source keeps assignability. -/
theorem isAssignable_erasure (classes : r.HasClassSupertypes) {target source : JavaType}
    (assignable : r.isAssignable target source) :
    r.isAssignable target.erasure source ∧ r.isAssignable target source.erasure :=
  ⟨isAssignable_erasure_target assignable, isAssignable_erasure_source classes assignable⟩

open InvarianceSample in
/-- An array of indexes is one of tables, whichever of the two has no type arguments. -/
theorem isAssignable_erasure_tables : types.HasClassSupertypes ∧
    types.isAssignable (.array (tableOf integer)) (.array (.classType index [integer])) ∧
    types.isAssignable (.array (.ofClass table)) (.array (.classType index [integer])) ∧
    types.isAssignable (.array (tableOf integer)) (.array (.ofClass index)) := by
  have classes : types.HasClassSupertypes := hasClassSupertypes_of_declared (by decide)
  have assignable :
      types.isAssignable (.array (tableOf integer)) (.array (.classType index [integer])) := by
    decide +kernel
  exact ⟨classes, assignable, isAssignable_erasure classes assignable⟩

end Registry
end Prewire.Types
