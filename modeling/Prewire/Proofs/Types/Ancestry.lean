import Mathlib.Data.List.Chain
import Mathlib.Data.List.Nodup
import Prewire.Proofs.Types.Hierarchy
import Prewire.Proofs.Types.Reachability

/-! The types of a hierarchy. One walk goes up the superclasses and a second one takes interfaces from a
queue. Both end on any type graph, since neither comes to a type twice, and both come to all that the types
on the way declare. So a hierarchy has the registered supertypes of a class and no others. -/
namespace Prewire.Types

open Java

namespace Registry

def rawSuperclass (d : TypeDeclaration) : List ClassName :=
  (d.superclass.bind JavaType.rawClass?).toList

/-- The declaration of one type names another among those that a walk goes on to. -/
def LeadsOn (r : Registry) (onward : TypeDeclaration → List ClassName) (name above : ClassName) : Prop :=
  ∃ d, r.get? name = some d ∧ above ∈ onward d

abbrev Extends (r : Registry) : ClassName → ClassName → Prop := r.LeadsOn rawSuperclass

abbrev Implements (r : Registry) : ClassName → ClassName → Prop := r.LeadsOn rawInterfaces

def HasPlainInterfaces (r : Registry) : Prop :=
  ∀ name above d, r.Implements name above → r.get? above = some d → d.superclass = none

theorem hasPlainInterfaces_of_declared {r : Registry}
    (declared : ∀ d ∈ r.declarations, ∀ e ∈ r.declarations, e.name ∈ rawInterfaces d →
      e.superclass = none) : r.HasPlainInterfaces := by
  rintro name above e ⟨d, found, listed⟩ known
  obtain rfl := name_of_get? known
  exact declared d (List.mem_of_find?_eq_some found) e (List.mem_of_find?_eq_some known) listed

theorem declaresSuper_iff {r : Registry} {name above : ClassName} :
    r.DeclaresSuper name above ↔ r.Extends name above ∨ r.Implements name above := by
  constructor
  · rintro ⟨d, found, t, listed, named⟩
    rcases List.mem_append.mp listed with superclass | interface
    · rw [Option.mem_toList] at superclass
      exact .inl ⟨d, found, Option.mem_toList.mpr (Option.bind_eq_some_iff.mpr ⟨t, superclass, named⟩)⟩
    · exact .inr ⟨d, found, List.mem_filterMap.mpr ⟨t, interface, named⟩⟩
  · rintro (⟨d, found, superclass⟩ | ⟨d, found, interface⟩)
    · obtain ⟨t, declared, named⟩ := Option.bind_eq_some_iff.mp (Option.mem_toList.mp superclass)
      exact ⟨d, found, t, List.mem_append_left _ (Option.mem_toList.mpr declared), named⟩
    · obtain ⟨t, declared, named⟩ := List.mem_filterMap.mp interface
      exact ⟨d, found, t, List.mem_append_right _ declared, named⟩

theorem reaches_of_extends {r : Registry} {name above : ClassName}
    (chain : Relation.ReflTransGen r.Extends name above) : r.Reaches name above :=
  Relation.ReflTransGen.mono (fun _ _ step => declaresSuper_iff.mpr (.inl step)) _ _ chain

theorem reaches_of_implements {r : Registry} {name above : ClassName}
    (chain : Relation.ReflTransGen r.Implements name above) : r.Reaches name above :=
  Relation.ReflTransGen.mono (fun _ _ step => declaresSuper_iff.mpr (.inr step)) _ _ chain

/-! ### Walks -/

/-- A run over a queue of names: the names seen before, the queue, and the known types that the run comes
to. Each of them puts the names that it leads on to at the end of the queue. -/
inductive Walks (r : Registry) (onward : TypeDeclaration → List ClassName) :
    List ClassName → List ClassName → List TypeDeclaration → Prop
  | done {seen : List ClassName} : Walks r onward seen [] []
  | again {seen queue : List ClassName} {name : ClassName} {types : List TypeDeclaration}
    (before : name ∈ seen) (later : Walks r onward seen queue types) :
    Walks r onward seen (name :: queue) types
  | unknown {seen queue : List ClassName} {name : ClassName} {types : List TypeDeclaration}
    (fresh : name ∉ seen) (absent : r.get? name = none)
    (later : Walks r onward (name :: seen) queue types) : Walks r onward seen (name :: queue) types
  | known {seen queue : List ClassName} {name : ClassName} {d : TypeDeclaration}
    {types : List TypeDeclaration} (fresh : name ∉ seen) (found : r.get? name = some d)
    (later : Walks r onward (name :: seen) (queue ++ onward d) types) :
    Walks r onward seen (name :: queue) (d :: types)

def Accounted (r : Registry) (seen : List ClassName) (types : List TypeDeclaration) (name : ClassName) :
    Prop :=
  ∀ e, r.get? name = some e → name ∈ seen ∨ e ∈ types

section
variable {r : Registry} {onward : TypeDeclaration → List ClassName} {name above : ClassName}
variable {seen queue : List ClassName} {types : List TypeDeclaration} {d e : TypeDeclaration}

theorem accounted_head (found : r.get? name = some d) : r.Accounted seen (d :: types) name := by
  intro e known
  obtain rfl := Option.some.inj (found.symm.trans known)
  exact .inr List.mem_cons_self

theorem Accounted.cons (found : r.get? name = some d)
    (accounted : r.Accounted (name :: seen) types above) : r.Accounted seen (d :: types) above := by
  intro e known
  rcases accounted e known with before | later
  · rcases List.mem_cons.mp before with rfl | before
    · exact accounted_head found e known
    · exact .inl before
  · exact .inr (List.mem_cons_of_mem _ later)

theorem Accounted.skip (absent : r.get? name = none)
    (accounted : r.Accounted (name :: seen) types above) : r.Accounted seen types above := by
  intro e known
  rcases accounted e known with before | later
  · rcases List.mem_cons.mp before with rfl | before
    · cases absent.symm.trans known
    · exact .inl before
  · exact .inr later

namespace Walks

theorem known_of_mem (walks : r.Walks onward seen queue types) (listed : d ∈ types) :
    r.get? d.name = some d := by
  induction walks with
  | done => cases listed
  | again _ _ ih | unknown _ _ _ ih => exact ih listed
  | known _ found _ ih =>
    rcases List.mem_cons.mp listed with rfl | later
    · obtain rfl := name_of_get? found
      exact found
    · exact ih later

/-- A run comes to types that were not seen before, each once. -/
theorem nodup (walks : r.Walks onward seen queue types) (distinct : seen.Nodup) :
    (seen ++ types.map TypeDeclaration.name).Nodup := by
  induction walks with
  | done => simpa using distinct
  | again _ _ ih => exact ih distinct
  | unknown fresh _ _ ih => exact (ih (List.nodup_cons.mpr ⟨fresh, distinct⟩)).of_cons
  | known fresh found _ ih =>
    obtain rfl := name_of_get? found
    exact List.nodup_middle.mpr (ih (List.nodup_cons.mpr ⟨fresh, distinct⟩))

theorem exists_leadsOn (walks : r.Walks onward seen queue types) (listed : d ∈ types) :
    ∃ start ∈ queue, Relation.ReflTransGen (r.LeadsOn onward) start d.name := by
  induction walks with
  | done => cases listed
  | again _ _ ih | unknown _ _ _ ih =>
    obtain ⟨start, queued, reached⟩ := ih listed
    exact ⟨start, List.mem_cons_of_mem _ queued, reached⟩
  | @known seen queue name e _ _ found _ ih =>
    rcases List.mem_cons.mp listed with rfl | later
    · obtain rfl := name_of_get? found
      exact ⟨_, List.mem_cons_self, .refl⟩
    · obtain ⟨start, queued, reached⟩ := ih later
      rcases List.mem_append.mp queued with waiting | direct
      · exact ⟨start, List.mem_cons_of_mem _ waiting, reached⟩
      · exact ⟨name, List.mem_cons_self, .head ⟨e, found, direct⟩ reached⟩

/-- A run comes to all that is queued, at its start or on the way. -/
theorem accounts (walks : r.Walks onward seen queue types) :
    (∀ name ∈ queue, r.Accounted seen types name) ∧
      ∀ d ∈ types, ∀ above ∈ onward d, r.Accounted seen types above := by
  induction walks with
  | done => simp
  | again before _ ih =>
    exact ⟨List.forall_mem_cons.mpr ⟨fun _ _ => .inl before, ih.1⟩, ih.2⟩
  | unknown _ absent _ ih =>
    refine ⟨List.forall_mem_cons.mpr ⟨fun e known => ?_, fun name queued => ?_⟩,
      fun d listed above direct => (ih.2 d listed above direct).skip absent⟩
    · cases absent.symm.trans known
    · exact (ih.1 name queued).skip absent
  | known _ found _ ih =>
    refine ⟨List.forall_mem_cons.mpr ⟨accounted_head found, fun name queued => ?_⟩,
      List.forall_mem_cons.mpr ⟨fun above direct => ?_, fun d listed above direct => ?_⟩⟩
    · exact (ih.1 name (List.mem_append_left _ queued)).cons found
    · exact (ih.1 above (List.mem_append_right _ direct)).cons found
    · exact (ih.2 d listed above direct).cons found

end Walks

/-! ### The two walks of a hierarchy -/

theorem walks_chainFrom (seen : List ClassName) (name : ClassName) :
    r.Walks rawSuperclass seen [name] (r.chainFrom seen name) := by
  fun_induction r.chainFrom seen name with
  | case1 seen name absent =>
    by_cases before : name ∈ seen
    · exact .again before .done
    · exact .unknown before absent .done
  | case2 seen name d found before =>
    obtain rfl := name_of_get? found
    exact .again before .done
  | case3 seen name d found fresh ih =>
    obtain rfl := name_of_get? found
    refine .known fresh found ?_
    rw [List.nil_append, rawSuperclass]
    cases next : d.superclass.bind JavaType.rawClass? with
    | none => exact .done
    | some above => exact ih above

theorem walks_reachedInterfaces (seen queue : List ClassName) :
    r.Walks rawInterfaces seen queue (r.reachedInterfaces seen queue) := by
  fun_induction r.reachedInterfaces seen queue with
  | case1 => exact .done
  | case2 seen name queue before ih => exact .again before ih
  | case3 seen name queue fresh absent ih => exact .unknown fresh absent ih
  | case4 seen name queue fresh d found ih => exact .known fresh found ih

theorem get?_of_head?_chainFrom (first : d ∈ (r.chainFrom seen name).head?) : r.get? name = some d := by
  cases found : r.get? name with
  | none => simp [chainFrom_unknown found] at first
  | some e =>
    by_cases before : e.name ∈ seen
    · simp [chainFrom_again found before] at first
    · simpa [chainFrom_fresh found before] using first

theorem isChain_chainFrom (seen : List ClassName) (name : ClassName) :
    (r.chainFrom seen name).IsChain fun below above => r.Extends below.name above.name := by
  fun_induction r.chainFrom seen name with
  | case1 | case2 => exact .nil
  | case3 seen name d found fresh ih =>
    obtain rfl := name_of_get? found
    cases next : d.superclass.bind JavaType.rawClass? with
    | none => exact .singleton _
    | some above =>
      refine List.isChain_cons.mpr ⟨fun e first => ?_, ih above⟩
      obtain rfl := name_of_get? (get?_of_head?_chainFrom first)
      exact ⟨d, found, Option.mem_toList.mpr next⟩

/-! ### What a hierarchy lists -/

/-- A walk that starts afresh comes to all that the start leads to. -/
theorem Walks.accounted_of_reached (walks : r.Walks onward [] [name] types)
    (reached : Relation.ReflTransGen (r.LeadsOn onward) name above) : r.Accounted [] types above := by
  induction reached with
  | refl => exact walks.accounts.1 name (List.mem_singleton.mpr rfl)
  | tail _ leads ih =>
    obtain ⟨d, found, direct⟩ := leads
    have listed : d ∈ types := (ih d found).resolve_left List.not_mem_nil
    exact walks.accounts.2 d listed _ direct

theorem Walks.mem_iff (walks : r.Walks onward [] [name] types) (known : r.get? d.name = some d) :
    d ∈ types ↔ Relation.ReflTransGen (r.LeadsOn onward) name d.name := by
  constructor
  · intro listed
    obtain ⟨start, queued, reached⟩ := walks.exists_leadsOn listed
    exact List.mem_singleton.mp queued ▸ reached
  · intro reached
    exact (walks.accounted_of_reached reached d known).resolve_left List.not_mem_nil

/-- The superclasses of a class, itself first, and other types that these lead to over interfaces. Both are
what a walk comes to that ends. -/
structure ListsAncestors (r : Registry) (name : ClassName)
    (superclasses implemented : List TypeDeclaration) : Prop where
  first : superclasses.head? = r.get? name
  linked : superclasses.IsChain fun below above => r.Extends below.name above.name
  complete : ∀ e, r.get? e.name = some e →
    (e ∈ superclasses ↔ Relation.ReflTransGen r.Extends name e.name)
  climbed : r.Walks rawSuperclass [] [name] superclasses
  drained : r.Walks rawInterfaces (superclasses.map TypeDeclaration.name)
    (superclasses.flatMap rawInterfaces) implemented
  interfaces : ∀ e ∈ implemented, ∃ d ∈ superclasses, Relation.TransGen r.Implements d.name e.name

/-- A hierarchy is the superclass chain and what a walk over the interfaces of the chain comes to. -/
theorem exists_listsAncestors (r : Registry) (name : ClassName) :
    ∃ implemented, r.hierarchy name = r.superclassChain name ++ implemented ∧
      r.ListsAncestors name (r.superclassChain name) implemented := by
  have climbed : r.Walks rawSuperclass [] [name] (r.superclassChain name) := walks_chainFrom [] name
  have drained := walks_reachedInterfaces (r := r) ((r.superclassChain name).map TypeDeclaration.name)
    ((r.superclassChain name).flatMap rawInterfaces)
  refine ⟨_, rfl, ?_, isChain_chainFrom [] name, fun e known => climbed.mem_iff known, climbed, drained,
    fun e listed => ?_⟩
  · cases found : r.get? name with
    | none => rw [superclassChain, chainFrom_unknown found, List.head?_nil]
    | some d => rw [superclassChain, chainFrom_fresh found List.not_mem_nil, List.head?_cons]
  · obtain ⟨start, queued, further⟩ := drained.exists_leadsOn listed
    obtain ⟨d, onChain, direct⟩ := List.mem_flatMap.mp queued
    exact ⟨d, onChain, .head' ⟨d, climbed.known_of_mem onChain, direct⟩ further⟩

namespace ListsAncestors

variable {superclasses implemented : List TypeDeclaration}

theorem nodup (lists : r.ListsAncestors name superclasses implemented) :
    ((superclasses ++ implemented).map TypeDeclaration.name).Nodup := by
  rw [List.map_append]
  exact lists.drained.nodup (lists.climbed.nodup List.nodup_nil)

/-- The types are known, and declarations lead to them. -/
theorem reaches (lists : r.ListsAncestors name superclasses implemented)
    (listed : d ∈ superclasses ++ implemented) : r.get? d.name = some d ∧ r.Reaches name d.name := by
  rcases List.mem_append.mp listed with above | implementing
  · have known := lists.climbed.known_of_mem above
    exact ⟨known, reaches_of_extends ((lists.complete d known).mp above)⟩
  · obtain ⟨start, onChain, further⟩ := lists.interfaces d implementing
    have known := lists.climbed.known_of_mem onChain
    have reached := reaches_of_extends ((lists.complete start known).mp onChain)
    exact ⟨lists.drained.known_of_mem implementing,
      reached.trans (reaches_of_implements further.to_reflTransGen)⟩

/-- No declaration leads out of the list, if no interface declares a superclass. -/
theorem accounted_of_declaresSuper (lists : r.ListsAncestors name superclasses implemented)
    (plain : r.HasPlainInterfaces) (listed : d ∈ superclasses ++ implemented)
    (declares : r.DeclaresSuper d.name above) :
    r.Accounted [] (superclasses ++ implemented) above := by
  intro e known
  have found := (lists.reaches listed).1
  rcases declaresSuper_iff.mp declares with ⟨_, again, direct⟩ | ⟨_, again, direct⟩
  · obtain rfl := Option.some.inj (found.symm.trans again)
    rcases List.mem_append.mp listed with onChain | implementing
    · have next := lists.climbed.accounts.2 d onChain above direct e known
      exact .inr (List.mem_append_left _ (next.resolve_left List.not_mem_nil))
    · obtain ⟨start, -, further⟩ := lists.interfaces d implementing
      obtain ⟨below, -, last⟩ := Relation.TransGen.tail'_iff.mp further
      simp [rawSuperclass, plain below d.name d last found] at direct
  · obtain rfl := Option.some.inj (found.symm.trans again)
    have queued : r.Accounted (superclasses.map TypeDeclaration.name) implemented above := by
      rcases List.mem_append.mp listed with onChain | implementing
      · exact lists.drained.accounts.1 above (List.mem_flatMap.mpr ⟨d, onChain, direct⟩)
      · exact lists.drained.accounts.2 d implementing above direct
    rcases queued e known with before | later
    · obtain ⟨below, onChain, rfl⟩ := List.mem_map.mp before
      have same := (lists.climbed.known_of_mem onChain).symm.trans known
      exact .inr (List.mem_append_left _ (Option.some.inj same ▸ onChain))
    · exact .inr (List.mem_append_right _ later)

theorem accounted_of_reaches (lists : r.ListsAncestors name superclasses implemented)
    (plain : r.HasPlainInterfaces) (reached : r.Reaches name above) :
    r.Accounted [] (superclasses ++ implemented) above := by
  induction reached with
  | refl =>
    intro e known
    exact .inr (List.mem_append_left _ (List.mem_of_mem_head? (lists.first.trans known)))
  | tail _ declares ih =>
    have ⟨d, found, _⟩ := declares
    obtain rfl := name_of_get? found
    exact lists.accounted_of_declaresSuper plain ((ih d found).resolve_left List.not_mem_nil) declares

end ListsAncestors

theorem reaches_of_mem_hierarchy (listed : d ∈ r.hierarchy name) :
    r.get? d.name = some d ∧ r.Reaches name d.name := by
  obtain ⟨implemented, split, lists⟩ := r.exists_listsAncestors name
  exact lists.reaches (split ▸ listed)

theorem nodup_hierarchy (r : Registry) (name : ClassName) :
    ((r.hierarchy name).map TypeDeclaration.name).Nodup := by
  obtain ⟨implemented, split, lists⟩ := r.exists_listsAncestors name
  exact split ▸ lists.nodup

/-- A hierarchy is the superclass chain of a class followed by what it leads to over interfaces, with no type
twice. Apart from `Object` it has those known types that the class is a subtype of. -/
theorem mem_hierarchy_iff_isSubtype (classes : r.HasClassSupertypes) (plain : r.HasPlainInterfaces)
    (known : r.get? name = some d) :
    (∃ superclasses implemented, r.hierarchy name = d :: superclasses ++ implemented ∧
      r.superclassChain name = d :: superclasses ∧
      r.ListsAncestors name (d :: superclasses) implemented) ∧
    ((r.hierarchy name).map TypeDeclaration.name).Nodup ∧
    ∀ target e, r.get? target = some e → target.canonicalName ≠ "java.lang.Object" →
      (e ∈ r.hierarchy name ↔ r.isSubtype name target) := by
  obtain ⟨implemented, split, lists⟩ := r.exists_listsAncestors name
  refine ⟨?_, r.nodup_hierarchy name, fun target e found below => ?_⟩
  · obtain ⟨superclasses, chain⟩ := List.head?_eq_some_iff.mp (lists.first.trans known)
    exact ⟨superclasses, implemented, chain ▸ split, chain, chain ▸ lists⟩
  · obtain rfl := name_of_get? found
    rw [(isSubtype_iff_reaches classes name e.name).1, or_iff_right below]
    constructor
    · exact fun listed => (reaches_of_mem_hierarchy listed).2
    · intro reached
      rw [split]
      exact (lists.accounted_of_reaches plain reached e found).resolve_left List.not_mem_nil

end
namespace AncestrySample

def named (name : String) : ClassName := ⟨"com.example", [name]⟩

def declaration (name : String) (superclass : Option String) (interfaces : List String) :
    TypeDeclaration where
  name := named name
  superclass := superclass.map fun above => .ofClass (named above)
  interfaces := interfaces.map fun above => .ofClass (named above)

/-- Two classes that extend each other. Both lead to an interface that comes back to itself, one of them
through another interface, and one declares a type that is not known. -/
def types : Registry := ⟨[
  declaration "Row" (some "Column") ["Sized", "Unknown"],
  declaration "Column" (some "Row") ["Listed"],
  declaration "Sized" none ["Listed"],
  declaration "Listed" none ["Sized", "Listed"],
  declaration "Table" (some "Row") []]⟩

theorem hasClassSupertypes : types.HasClassSupertypes :=
  hasClassSupertypes_of_declared (by decide)

theorem hasPlainInterfaces : types.HasPlainInterfaces :=
  hasPlainInterfaces_of_declared (by decide)

end AncestrySample

open AncestrySample in
/-- The other class of the cycle comes first and each interface once. The third class, which extends one of
them, is no supertype. -/
theorem mem_hierarchy_iff_isSubtype_row :
    types.HasClassSupertypes ∧ types.HasPlainInterfaces ∧
    types.get? (named "Row") = some (declaration "Row" (some "Column") ["Sized", "Unknown"]) ∧
    (∃ implemented, types.hierarchy (named "Row") =
      [declaration "Row" (some "Column") ["Sized", "Unknown"],
        declaration "Column" (some "Row") ["Listed"]] ++ implemented) ∧
    declaration "Listed" none ["Sized", "Listed"] ∈ types.hierarchy (named "Row") ∧
    declaration "Table" (some "Row") [] ∉ types.hierarchy (named "Row") := by
  have known : types.get? (named "Row") =
      some (declaration "Row" (some "Column") ["Sized", "Unknown"]) := by decide
  obtain ⟨⟨superclasses, implemented, split, chain, -⟩, -, members⟩ :=
    mem_hierarchy_iff_isSubtype hasClassSupertypes hasPlainInterfaces known
  have climbed : types.superclassChain (named "Row") =
      [declaration "Row" (some "Column") ["Sized", "Unknown"],
        declaration "Column" (some "Row") ["Listed"]] := by decide +kernel
  refine ⟨hasClassSupertypes, hasPlainInterfaces, known, ⟨implemented, ?_⟩, ?_, ?_⟩
  · rw [split, ← chain, climbed]
  · exact (members (named "Listed") _ (by decide) (by decide +kernel)).mpr (by decide +kernel)
  · intro listed
    have below := (members (named "Table") _ (by decide) (by decide +kernel)).mp listed
    exact absurd below (by decide +kernel)

end Registry
end Prewire.Types
