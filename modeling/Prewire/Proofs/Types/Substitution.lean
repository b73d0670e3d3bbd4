import Mathlib.Data.List.Forall2
import Prewire.Proofs.Types.Overriding

/-! Values for the type variables of a type, and its supertypes. Where declarations speak of their own
parameters only, it is the same to give the variables of a type their values before it is seen as one of
its supertypes or after. Two searches from types that stay related go through the same classes. -/
namespace Prewire.Java

variable {related : JavaType → JavaType → Prop}

theorem Bindings.rel_value? {bindings others : Bindings} (name : String)
    (pairs : List.Forall₂ (fun b c => b.1 = c.1 ∧ related b.2 c.2) bindings others) :
    Option.Rel related (bindings.value? name) (others.value? name) := by
  rw [value?, value?]
  have backwards := List.rel_reverse pairs
  generalize bindings.reverse = bindings at backwards ⊢
  generalize others.reverse = others at backwards ⊢
  induction backwards with
  | nil => exact .none
  | @cons b c _ _ first _ ih =>
    obtain ⟨same, values⟩ := first
    rw [List.lookup_cons, List.lookup_cons, same]
    split
    · exact .some values
    · exact ih

namespace JavaType

mutual
/-- Values one after the other are the values of the values, if that holds of the variables that occur. -/
theorem substitute_substitute {first later both : String → Option JavaType} : ∀ t : JavaType,
    (∀ v ∈ t.variableNames,
      ((JavaType.variable v).substitute first).substitute later = (JavaType.variable v).substitute both) →
      (t.substitute first).substitute later = t.substitute both
  | .primitive _, _ => rfl
  | .classType name arguments, values => by
    rw [substitute, substitute, substitute, substituteAll_substituteAll arguments values]
  | .array component, values => by
    rw [substitute, substitute, substitute, substitute_substitute component values]
  | .variable name, values => values name List.mem_cons_self
theorem substituteAll_substituteAll {first later both : String → Option JavaType} :
    ∀ ts : List JavaType, (∀ v ∈ variableNamesOfAll ts,
      ((JavaType.variable v).substitute first).substitute later = (JavaType.variable v).substitute both) →
      substituteAll later (substituteAll first ts) = substituteAll both ts
  | [], _ => rfl
  | t :: ts, values => by
    rw [substituteAll, substituteAll, substituteAll,
      substitute_substitute t fun v occurs => values v (List.mem_append_left _ occurs),
      substituteAll_substituteAll ts fun v occurs => values v (List.mem_append_right _ occurs)]
end

end JavaType
end Prewire.Java

namespace Prewire.Types

open Java

namespace TypeDeclaration

variable {d : TypeDeclaration} {arguments others : List JavaType}

theorem rel_value?_bindings {related : JavaType → JavaType → Prop} (name : String)
    (each : List.Forall₂ related arguments others) :
    Option.Rel related ((d.bindings arguments).value? name) ((d.bindings others).value? name) := by
  apply Bindings.rel_value?
  rw [bindings, bindings, each.length_eq]
  split
  · next lengths =>
    clear lengths
    generalize d.typeParameters.map TypeParameter.name = names
    induction each generalizing names with
    | nil => simp
    | cons first _ ih =>
      cases names with
      | nil => exact .nil
      | cons name names => exact .cons ⟨rfl, first⟩ (ih names)
  · exact .nil

/-- Under as many arguments as there are parameters every parameter has a value. -/
theorem exists_value?_bindings (lengths : arguments.length = d.typeParameters.length) {name : String}
    (parameter : name ∈ d.typeParameters.map TypeParameter.name) :
    ∃ t, (d.bindings arguments).value? name = some t := by
  apply Option.ne_none_iff_exists'.mp
  intro nothing
  rw [bindings, if_pos lengths, Bindings.value?, List.lookup_eq_none_iff] at nothing
  have keys : ((d.typeParameters.map TypeParameter.name).zip arguments).map Prod.fst =
      d.typeParameters.map TypeParameter.name := List.map_fst_zip (by simp [lengths])
  rw [← keys] at parameter
  obtain ⟨binding, bound, rfl⟩ := List.mem_map.mp parameter
  simpa using nothing binding (List.mem_reverse.mpr bound)

end TypeDeclaration

namespace Registry

/-- The variables in declared supertypes are type parameters of the declaring type. -/
def HasOwnVariables (r : Registry) : Prop :=
  ∀ name d, r.get? name = some d → ∀ t ∈ d.supertypes, ∀ v ∈ t.variableNames,
    v ∈ d.typeParameters.map TypeParameter.name

theorem hasOwnVariables_of_declared {r : Registry}
    (declared : ∀ d ∈ r.declarations, ∀ t ∈ d.supertypes, ∀ v ∈ t.variableNames,
      v ∈ d.typeParameters.map TypeParameter.name) : r.HasOwnVariables := by
  intro name d found t listed v occurs
  exact declared d (List.mem_of_find?_eq_some found) t listed v occurs

section
variable {r : Registry} {target : ClassName}

/-- Searches that start from related types find related types, if supertypes stay related. -/
theorem search_related {related : JavaType → JavaType → Prop}
    (named : ∀ a b, related a b → a.rawClass? = b.rawClass?)
    (above : ∀ a b, related a b → List.Forall₂ related (r.directSupertypes a) (r.directSupertypes b))
    (visited : List ClassName) {stack others : List JavaType} (alike : List.Forall₂ related stack others) :
    Option.Rel related (r.search target visited stack) (r.search target visited others) := by
  fun_induction r.search target visited stack generalizing others with
  | case1 =>
    cases alike
    rw [search]
    exact .none
  | case2 visited t rest nameless ih =>
    cases alike with
    | cons first later =>
      rw [search_unnamed (named _ _ first ▸ nameless)]
      exact ih later
  | case3 visited t rest found =>
    cases alike with
    | cons first later =>
      rw [search_found (named _ _ first ▸ found)]
      exact .some first
  | case4 visited t rest name found other seen ih =>
    cases alike with
    | cons first later =>
      rw [search_again (named _ _ first ▸ found) other seen]
      exact ih later
  | case5 visited t rest name found other fresh ih =>
    cases alike with
    | cons first later =>
      rw [search_enter (named _ _ first ▸ found) other fresh]
      exact ih (List.rel_append (above _ _ first) later)

/-- Related types have related views, apart from those as an `Object`, which take no search. -/
theorem view?_related {related : JavaType → JavaType → Prop}
    (named : ∀ a b, related a b → a.rawClass? = b.rawClass?)
    (above : ∀ a b, related a b → List.Forall₂ related (r.directSupertypes a) (r.directSupertypes b))
    (below : Known.isNamed Known.object target = false) {a b : JavaType} (alike : related a b) :
    Option.Rel related (r.view? a target) (r.view? b target) := by
  rw [view?, view?, below, Bool.false_and, if_neg Bool.false_ne_true, Bool.false_and,
    if_neg Bool.false_ne_true]
  exact search_related named above [] (.cons alike .nil)

variable {name : ClassName} {arguments : List JavaType}

/-- The supertypes of a type take on the values of the variables in its arguments. -/
theorem directSupertypes_substitute (value? : String → Option JavaType) (own : r.HasOwnVariables)
    (head : r.MatchesParameters (.classType name arguments)) :
    r.directSupertypes ((JavaType.classType name arguments).substitute value?) =
      (r.directSupertypes (.classType name arguments)).map (·.substitute value?) := by
  rw [JavaType.substitute, directSupertypes, directSupertypes]
  cases found : r.get? name with
  | none => rfl
  | some d =>
    have lengths : arguments.length = d.typeParameters.length := head name d rfl found
    have each : List.Forall₂ (fun a b => a.substitute value? = b) arguments
        (JavaType.substituteAll value? arguments) := by
      rw [JavaType.substituteAll_eq_map, List.forall₂_map_right_iff, List.forall₂_same]
      exact fun _ _ => rfl
    simp only [List.map_map]
    -- A parameter gets the same argument, with the values put into the argument before or after.
    refine List.map_congr_left fun t listed => (JavaType.substitute_substitute t fun v occurs => ?_).symm
    have values := TypeDeclaration.rel_value?_bindings (d := d) v each
    obtain ⟨a, valued⟩ := TypeDeclaration.exists_value?_bindings lengths (own name d found t listed v occurs)
    simp only [JavaType.substitute]
    rw [valued] at values ⊢
    generalize (d.bindings (JavaType.substituteAll value? arguments)).value? v = other at values ⊢
    cases values with
    | some same => exact same

/-- A class type with an argument for each parameter, and that type with values for its variables. -/
structure Instantiated (r : Registry) (value? : String → Option JavaType) (t u : JavaType) : Prop where
  named : t.rawClass?.isSome
  parameters : r.MatchesParameters t
  same : t.substitute value? = u

theorem Instantiated.rawClass?_eq {value? : String → Option JavaType} {t u : JavaType}
    (instantiated : r.Instantiated value? t u) : t.rawClass? = u.rawClass? := by
  obtain ⟨named, -, rfl⟩ := instantiated
  cases t with
  | classType => rfl
  | _ => cases named

theorem Instantiated.directSupertypes {value? : String → Option JavaType} {t u : JavaType}
    (instantiated : r.Instantiated value? t u) (classes : r.HasClassSupertypes)
    (own : r.HasOwnVariables) (matching : r.HasMatchingArguments) :
    List.Forall₂ (r.Instantiated value?) (r.directSupertypes t) (r.directSupertypes u) := by
  obtain ⟨named, parameters, rfl⟩ := instantiated
  cases t with
  | classType name arguments =>
    rw [directSupertypes_substitute value? own parameters, List.forall₂_map_right_iff,
      List.forall₂_same]
    intro above direct
    obtain ⟨_, raw, -⟩ := declaresSuper_of_mem classes rfl direct
    exact ⟨raw ▸ rfl, matchesParameters_of_direct classes matching direct, rfl⟩
  | _ => cases named

/-- The supertype views of a type take on the values of the variables in the type. -/
theorem view?_substitute (classes : r.HasClassSupertypes) (own : r.HasOwnVariables)
    (matching : r.HasMatchingArguments) (head : r.MatchesParameters (.classType name arguments))
    (target : ClassName) (value? : String → Option JavaType) :
    r.view? ((JavaType.classType name arguments).substitute value?) target =
      (r.view? (.classType name arguments) target).map (·.substitute value?) := by
  cases top : Known.isNamed Known.object target with
  | true =>
    simp [view?, top, JavaType.substitute, JavaType.substituteAll, JavaType.ofClass, JavaType.rawClass?]
  | false =>
    have start : r.Instantiated value? (.classType name arguments)
        ((JavaType.classType name arguments).substitute value?) := ⟨rfl, head, rfl⟩
    have views := view?_related (fun _ _ => Instantiated.rawClass?_eq)
      (fun _ _ related => related.directSupertypes classes own matching) top start
    generalize r.view? (.classType name arguments) target = view at views ⊢
    generalize r.view? ((JavaType.classType name arguments).substitute value?) target = other
      at views ⊢
    cases views with
    | none => rfl
    | some instantiated => exact congrArg some instantiated.same.symm

end

namespace SubstitutionSample

open ReachabilitySample

theorem hasOwnVariables : types.HasOwnVariables :=
  hasOwnVariables_of_declared (by decide)

theorem hasMatchingArguments : types.HasMatchingArguments :=
  hasMatchingArguments_of_declared (by decide)

def arguments : List JavaType := [applied "Second" (.array (.variable "T"))]

theorem matchesParameters : types.MatchesParameters (.classType (named "First") arguments) := by
  intro c d same known
  obtain rfl : named "First" = c := Option.some.inj same
  obtain rfl : expanding "First" "Second" = d := Option.some.inj known
  rfl

def value? (name : String) : Option JavaType :=
  if name = "T" then some (applied "First" (.variable "T")) else none

end SubstitutionSample

open ReachabilitySample SubstitutionSample in
/-- The variable of the type is not mistaken for that of the declarations. -/
theorem view?_substitute_expanding :
    types.HasClassSupertypes ∧ types.HasOwnVariables ∧ types.HasMatchingArguments ∧
    types.MatchesParameters (.classType (named "First") arguments) ∧
    types.view? ((JavaType.classType (named "First") arguments).substitute value?) (named "Second") =
      some (applied "Second" (applied "First" (applied "Second"
        (.array (applied "First" (.variable "T")))))) := by
  refine ⟨hasClassSupertypes, hasOwnVariables, hasMatchingArguments, matchesParameters, ?_⟩
  rw [view?_substitute hasClassSupertypes hasOwnVariables hasMatchingArguments matchesParameters]
  decide +kernel

end Registry
end Prewire.Types
