import Mathlib.Data.List.Basic
import Mathlib.Logic.Relation
import Prewire.Types.Supertypes

/-! A class is a subtype of those that its declared supertypes lead to, on any type graph. The search
for a supertype is read as a procedure that calls itself for the direct supertypes and shares the
entered classes with the calls that failed before; each call ends, since no class is entered twice. -/
namespace Prewire.Types

open Java

/-- Where each step leads to a smaller rank, nothing leads back to itself. -/
theorem not_transGen_self_of_rank {α : Type} {step : α → α → Prop} (rank : α → Nat)
    (below : ∀ a b, step a b → rank b < rank a) (a : α) : ¬ Relation.TransGen step a a := by
  intro cycle
  have smaller : Relation.TransGen (· > ·) (rank a) (rank a) := cycle.lift rank below
  rw [Relation.transGen_eq_self] at smaller
  exact Nat.lt_irrefl _ smaller

namespace Registry

def DeclaresSuper (r : Registry) (name above : ClassName) : Prop :=
  ∃ d, r.get? name = some d ∧ ∃ t ∈ d.supertypes, t.rawClass? = some above

/-- A chain of declared superclasses and interfaces, which may be empty. -/
def Reaches (r : Registry) : ClassName → ClassName → Prop := Relation.ReflTransGen r.DeclaresSuper

/-- All declared supertypes are class types; none is a variable, an array or a primitive. -/
def HasClassSupertypes (r : Registry) : Prop :=
  ∀ name d, r.get? name = some d → ∀ t ∈ d.supertypes, ∃ above, t.rawClass? = some above

theorem hasClassSupertypes_of_declared {r : Registry}
    (declared : ∀ d ∈ r.declarations, ∀ t ∈ d.supertypes, t.rawClass?.isSome) :
    r.HasClassSupertypes := by
  intro name d found t listed
  exact Option.isSome_iff_exists.mp (declared d (List.mem_of_find?_eq_some found) t listed)

mutual
/-- A run of the search on a type: the classes entered before and after it, and what it finds. -/
inductive Visits (r : Registry) (target : ClassName) :
    List ClassName → JavaType → List ClassName → Option JavaType → Prop
  | unnamed {entered : List ClassName} {t : JavaType} (nameless : t.rawClass? = none) :
    Visits r target entered t entered none
  | found {entered : List ClassName} {t : JavaType} (named : t.rawClass? = some target) :
    Visits r target entered t entered (some t)
  | again {entered : List ClassName} {t : JavaType} {name : ClassName}
    (named : t.rawClass? = some name) (other : name ≠ target) (seen : name ∈ entered) :
    Visits r target entered t entered none
  | enter {entered after : List ClassName} {t : JavaType} {name : ClassName}
    {result : Option JavaType} (named : t.rawClass? = some name) (other : name ≠ target)
    (fresh : name ∉ entered)
    (above : VisitsFirst r target (name :: entered) (r.directSupertypes t) after result) :
    Visits r target entered t after result
/-- Runs on one type after the other, up to the first that finds something. -/
inductive VisitsFirst (r : Registry) (target : ClassName) :
    List ClassName → List JavaType → List ClassName → Option JavaType → Prop
  | nil {entered : List ClassName} : VisitsFirst r target entered [] entered none
  | stop {entered after : List ClassName} {t found : JavaType} {rest : List JavaType}
    (first : Visits r target entered t after (some found)) :
    VisitsFirst r target entered (t :: rest) after (some found)
  | next {entered between after : List ClassName} {t : JavaType} {rest : List JavaType}
    {result : Option JavaType} (first : Visits r target entered t between none)
    (later : VisitsFirst r target between rest after result) :
    VisitsFirst r target entered (t :: rest) after result
end

section
variable {r : Registry} {target : ClassName}

mutual
/-- What a run finds is the answer, and after a run that finds nothing the search goes on. -/
theorem Visits.search_eq {entered after : List ClassName} {t : JavaType} {result : Option JavaType}
    (rest : List JavaType) : Visits r target entered t after result →
      r.search target entered (t :: rest) = result.or (r.search target after rest)
  | .unnamed nameless => search_unnamed nameless
  | .found named => search_found named
  | .again named other seen => search_again named other seen
  | .enter named other fresh above =>
    (search_enter named other fresh).trans (above.search_eq rest)
theorem VisitsFirst.search_eq {entered after : List ClassName} {ts : List JavaType}
    {result : Option JavaType} (rest : List JavaType) :
    VisitsFirst r target entered ts after result →
      r.search target entered (ts ++ rest) = result.or (r.search target after rest)
  | .nil => rfl
  | .stop first => first.search_eq _
  | .next first later => (first.search_eq _).trans (later.search_eq rest)
end

mutual
/-- A run enters classes that were not entered before, each once. -/
theorem Visits.enters {entered after : List ClassName} {t : JavaType} {result : Option JavaType} :
    Visits r target entered t after result → (entered.Nodup → after.Nodup) ∧
      r.edgesOutside after ≤ r.edgesOutside entered
  | .unnamed _ | .found _ | .again .. => ⟨id, Nat.le_refl _⟩
  | .enter _ _ fresh above => by
    obtain ⟨distinct, fewer⟩ := above.enters
    refine ⟨fun nodup => distinct (List.nodup_cons.mpr ⟨fresh, nodup⟩), ?_⟩
    exact Nat.le_trans fewer (r.edgesOutside_cons_le _ _)
theorem VisitsFirst.enters {entered after : List ClassName} {ts : List JavaType}
    {result : Option JavaType} : VisitsFirst r target entered ts after result →
      (entered.Nodup → after.Nodup) ∧
        r.edgesOutside after ≤ r.edgesOutside entered
  | .nil => ⟨id, Nat.le_refl _⟩
  | .stop first => first.enters
  | .next first later => by
    obtain ⟨distinct, fewer⟩ := first.enters
    obtain ⟨distinctLater, fewerLater⟩ := later.enters
    exact ⟨distinctLater ∘ distinct, Nat.le_trans fewerLater fewer⟩
end

/-- There is a run on every type, if there is one on the direct supertypes of a class that was not
entered before. -/
theorem exists_visits {entered : List ClassName} (t : JavaType)
    (above : ∀ name, t.rawClass? = some name → name ∉ entered →
      ∃ after result, VisitsFirst r target (name :: entered) (r.directSupertypes t) after result) :
    ∃ after result, Visits r target entered t after result := by
  cases named : t.rawClass? with
  | none => exact ⟨_, _, .unnamed named⟩
  | some name =>
    by_cases same : name = target
    · exact ⟨_, _, .found (same ▸ named)⟩
    · by_cases seen : name ∈ entered
      · exact ⟨_, _, .again named same seen⟩
      · obtain ⟨after, result, run⟩ := above name named seen
        exact ⟨after, result, .enter named same seen run⟩

/-- Each class that a run enters takes its supertypes off the edges that are left, so that there is a
run on any list of types. -/
theorem exists_visitsFirst (limit : Nat) : ∀ entered (ts : List JavaType),
    r.edgesOutside entered + ts.length ≤ limit →
      ∃ after result, VisitsFirst r target entered ts after result := by
  induction limit with
  | zero =>
    intro entered ts bound
    obtain rfl : ts = [] := List.length_eq_zero_iff.mp (by omega)
    exact ⟨_, _, .nil⟩
  | succ limit ih =>
    intro entered ts bound
    cases ts with
    | nil => exact ⟨_, _, .nil⟩
    | cons t rest =>
      rw [List.length_cons] at bound
      have first : ∃ between result, Visits r target entered t between result := by
        refine exists_visits t fun name named fresh => ih _ _ ?_
        have := length_directSupertypes_le r named fresh
        omega
      obtain ⟨between, result, first⟩ := first
      cases result with
      | some found => exact ⟨_, _, .stop first⟩
      | none =>
        have fewer := first.enters.2
        obtain ⟨after, result, later⟩ := ih between rest (by omega)
        exact ⟨_, _, .next first later⟩

/-- The search comes to an end, with the answer of the run that enters each class at most once. -/
theorem visits_search (t : JavaType) :
    ∃ entered, entered.Nodup ∧ Visits r target [] t entered (r.search target [] [t]) := by
  have run : ∃ entered result, Visits r target [] t entered result :=
    exists_visits t fun name _ _ => exists_visitsFirst _ _ _ (Nat.le_refl _)
  obtain ⟨entered, result, run⟩ := run
  have answer : r.search target [] [t] = result := by
    rw [run.search_eq [], search, Option.or_none]
  exact ⟨entered, run.enters.1 List.nodup_nil, answer ▸ run⟩

end

section
variable {r : Registry} {target name above : ClassName} {t view : JavaType}

/-- The direct supertypes of a type are forms of the declared ones. -/
theorem declaresSuper_of_mem (classes : r.HasClassSupertypes) (named : t.rawClass? = some name)
    {s : JavaType} (direct : s ∈ r.directSupertypes t) :
    ∃ above, s.rawClass? = some above ∧ r.DeclaresSuper name above := by
  cases t with
  | classType n arguments =>
    obtain rfl : n = name := Option.some.inj named
    rw [directSupertypes] at direct
    cases found : r.get? n with
    | none => simp [found] at direct
    | some d =>
      rw [found] at direct
      obtain ⟨declared, listed, rfl⟩ := List.mem_map.mp direct
      obtain ⟨above, raw⟩ := classes n d found declared listed
      cases declared with
      | classType m arguments => exact ⟨above, raw, d, found, _, listed, raw⟩
      | _ => cases raw
  | _ => cases named

theorem exists_mem_of_declaresSuper (named : t.rawClass? = some name)
    (declares : r.DeclaresSuper name above) :
    ∃ s ∈ r.directSupertypes t, s.rawClass? = some above := by
  obtain ⟨d, found, declared, listed, raw⟩ := declares
  cases t with
  | classType n arguments =>
    obtain rfl : n = name := Option.some.inj named
    refine ⟨declared.substitute (d.bindings arguments).value?, ?_, ?_⟩
    · rw [directSupertypes, found]
      exact List.mem_map_of_mem listed
    · cases declared with
      | classType m arguments => exact raw
      | _ => cases raw
  | _ => cases named

/-- What a search finds is a form of the class that is asked for. -/
theorem rawClass?_search {visited : List ClassName} {stack : List JavaType}
    (found : r.search target visited stack = some view) : view.rawClass? = some target := by
  fun_induction r.search target visited stack with
  | case1 => cases found
  | case2 visited t rest nameless ih => exact ih found
  | case3 visited t rest named => exact Option.some.inj found ▸ named
  | case4 visited t rest name named other seen ih => exact ih found
  | case5 visited t rest name named other fresh ih => exact ih found

theorem rawClass?_view? (viewed : r.view? t target = some view) : view.rawClass? = some target := by
  rw [view?] at viewed
  split at viewed
  · exact Option.some.inj viewed ▸ rfl
  · exact rawClass?_search viewed

/-- What a search finds is reached from a type that it was given. -/
theorem reaches_of_search (classes : r.HasClassSupertypes) {visited : List ClassName}
    {stack : List JavaType} (found : r.search target visited stack = some view) :
    ∃ t ∈ stack, ∃ name, t.rawClass? = some name ∧ r.Reaches name target := by
  fun_induction r.search target visited stack with
  | case1 => cases found
  | case2 visited t rest nameless ih =>
    obtain ⟨s, listed, reached⟩ := ih found
    exact ⟨s, List.mem_cons_of_mem _ listed, reached⟩
  | case3 visited t rest named => exact ⟨t, List.mem_cons_self, target, named, .refl⟩
  | case4 visited t rest name named other seen ih =>
    obtain ⟨s, listed, reached⟩ := ih found
    exact ⟨s, List.mem_cons_of_mem _ listed, reached⟩
  | case5 visited t rest name named other fresh ih =>
    obtain ⟨s, listed, below, raw, reached⟩ := ih found
    rcases List.mem_append.mp listed with direct | later
    · obtain ⟨above, same, declares⟩ := declaresSuper_of_mem classes named direct
      obtain rfl : above = below := Option.some.inj (same.symm.trans raw)
      exact ⟨t, List.mem_cons_self, name, named, .head declares reached⟩
    · exact ⟨s, List.mem_cons_of_mem _ later, below, raw, reached⟩

/-- A search leaves nothing behind: what an entered class declares is entered, or waits in the stack. -/
def Covers (r : Registry) (visited : List ClassName) (stack : List JavaType) : Prop :=
  ∀ name ∈ visited, ∀ above, r.DeclaresSuper name above →
    above ∈ visited ∨ above ∈ stack.filterMap JavaType.rawClass?

/-- A search that finds nothing has entered all that is reached from its types, and the class that is
asked for is not among that. -/
theorem not_reaches_of_search {visited : List ClassName} {stack : List JavaType}
    (nothing : r.search target visited stack = none) (covers : r.Covers visited stack)
    (absent : target ∉ visited) {name : ClassName}
    (started : name ∈ visited ∨ name ∈ stack.filterMap JavaType.rawClass?) :
    ¬ r.Reaches name target := by
  fun_induction r.search target visited stack generalizing name with
  | case1 visited =>
    have closed {above : ClassName} (reached : r.Reaches name above) : above ∈ visited := by
      induction reached with
      | refl => simpa using started
      | tail _ declares ih => simpa using covers _ ih _ declares
    exact fun reached => absent (closed reached)
  | case2 visited t rest nameless ih =>
    simp only [Covers, List.filterMap_cons, nameless] at covers started
    exact ih nothing covers absent started
  | case3 visited t rest named => cases nothing
  | case4 visited t rest other named different seen ih =>
    have dropped (name : ClassName) :
        name ∈ visited ∨ name ∈ (t :: rest).filterMap JavaType.rawClass? ↔
          name ∈ visited ∨ name ∈ rest.filterMap JavaType.rawClass? := by
      simp only [List.filterMap_cons, named, List.mem_cons]
      grind
    refine ih nothing (fun below entered above declares => ?_) absent ((dropped name).mp started)
    exact (dropped above).mp (covers below entered above declares)
  | case5 visited t rest other named different fresh ih =>
    have entered (name : ClassName) :
        name ∈ visited ∨ name ∈ (t :: rest).filterMap JavaType.rawClass? →
          name ∈ other :: visited ∨
            name ∈ (r.directSupertypes t ++ rest).filterMap JavaType.rawClass? := by
      simp only [List.filterMap_cons, named, List.mem_cons, List.filterMap_append, List.mem_append]
      grind
    refine ih nothing (fun below member above declares => ?_) ?_ (entered name started)
    · rcases List.mem_cons.mp member with rfl | before
      · obtain ⟨s, direct, raw⟩ := exists_mem_of_declaresSuper named declares
        have waits := List.mem_filterMap.mpr ⟨s, List.mem_append_left rest direct, raw⟩
        exact .inr waits
      · exact entered above (covers below before above declares)
    · rw [List.mem_cons]
      exact fun present => present.elim (fun same => different same.symm) absent

theorem search_isSome_iff (classes : r.HasClassSupertypes) (name target : ClassName) :
    (r.search target [] [.ofClass name]).isSome ↔ r.Reaches name target := by
  constructor
  · intro some
    obtain ⟨view, found⟩ := Option.isSome_iff_exists.mp some
    obtain ⟨t, listed, below, named, reached⟩ := reaches_of_search classes found
    obtain rfl := List.mem_singleton.mp listed
    exact Option.some.inj named ▸ reached
  · intro reached
    by_contra nothing
    rw [Option.not_isSome_iff_eq_none] at nothing
    have started : name ∈ [JavaType.ofClass name].filterMap JavaType.rawClass? := by
      simp [JavaType.ofClass, JavaType.rawClass?]
    have covers : r.Covers [] [JavaType.ofClass name] := by simp [Covers]
    exact not_reaches_of_search nothing covers List.not_mem_nil (.inr started) reached

theorem isNamed_object (name : ClassName) :
    Known.isNamed Known.object name ↔ name.canonicalName = "java.lang.Object" := by
  have known : Known.object.canonicalName = "java.lang.Object" := by decide +kernel
  simp [Known.isNamed, known]

/-- One class is a subtype of another exactly where that is `Object` or a chain of declared
superclasses and interfaces leads to it. The search behind it ends on every type, without entering a
class twice, and a view is a form of the class that is asked for. -/
theorem isSubtype_iff_reaches (classes : r.HasClassSupertypes) (name target : ClassName) :
    (r.isSubtype name target ↔
      target.canonicalName = "java.lang.Object" ∨ r.Reaches name target) ∧
    (∀ t, ∃ entered, entered.Nodup ∧ Visits r target [] t entered (r.search target [] [t])) ∧
    ∀ t view, r.view? t target = some view → view.rawClass? = some target := by
  refine ⟨?_, visits_search, fun t view => rawClass?_view?⟩
  rw [isSubtype, view?, ← isNamed_object]
  by_cases top : Known.isNamed Known.object target
  · simp [top, JavaType.ofClass, JavaType.rawClass?]
  · simp [top, search_isSome_iff classes]

end

namespace ReachabilitySample

def named (name : String) : ClassName := ⟨"com.example", [name]⟩

def expanding (name above : String) : TypeDeclaration where
  name := named name
  typeParameters := [{ name := "T" }]
  superclass := some (.classType (named above) [.classType (named name) [.variable "T"]])
  interfaces := [.ofClass (named "Unknown")]

def types : Registry := ⟨[expanding "First" "Second", expanding "Second" "First"]⟩

def applied (name : String) (argument : JavaType) : JavaType := .classType (named name) [argument]

theorem hasClassSupertypes : types.HasClassSupertypes :=
  hasClassSupertypes_of_declared (by decide)

end ReachabilitySample

open ReachabilitySample in
/-- The cycle of two classes reaches an interface that is not known, and no third class. -/
theorem isSubtype_iff_reaches_expanding : types.HasClassSupertypes ∧
    types.Reaches (named "First") (named "Unknown") ∧
    ¬ types.Reaches (named "First") (named "Third") := by
  have reached := (isSubtype_iff_reaches hasClassSupertypes (named "First") (named "Unknown")).1
  have apart := (isSubtype_iff_reaches hasClassSupertypes (named "First") (named "Third")).1
  refine ⟨hasClassSupertypes, ?_, fun third => ?_⟩
  · exact (reached.mp (by decide +kernel)).resolve_left (by decide +kernel)
  · exact absurd (apart.mpr (.inr third)) (by decide +kernel)

end Registry
end Prewire.Types
