import Prewire.Plan.Dependency
import Prewire.Proofs.Types.Overriding

/-! Injected members and visible methods. Injection asks of each method of a superclass whether a class below
declares its signature, while the methods that are visible on a class are collected from below, the first of
each signature. Where no type declares a signature twice, both drop the same methods of the superclasses. -/
namespace Prewire.Types

open Java

namespace Registry

/-- No known type declares two methods of one signature. -/
def DeclaresSignaturesOnce (r : Registry) : Prop :=
  ∀ name d, r.get? name = some d → d.methods.Pairwise fun a b => a.sameSignature b = false

theorem declaresSignaturesOnce_of_declared {r : Registry}
    (declared : ∀ d ∈ r.declarations, d.methods.Pairwise fun a b => a.sameSignature b = false) :
    r.DeclaresSignaturesOnce :=
  fun _ d found => declared d (List.mem_of_find?_eq_some found)

def declaredMethods (d : TypeDeclaration) : List DeclaredMethod := d.methods.map (⟨d, ·⟩)

theorem mem_firstDeclared {m : DeclaredMethod} {methods : List DeclaredMethod} :
    m ∈ firstDeclared methods ↔ methods.find? (m.method.sameSignature ·.method) = some m :=
  mem_iff_find?_eq_some (fun a b : DeclaredMethod => a.method.sameSignature b.method)
    (fun a => sameSignature_refl a.method) (fun a b => sameSignature_comm a.method b.method) rfl
    fun _ _ => rfl

section
variable {d : TypeDeclaration} {m : Executable} {before after : List TypeDeclaration}

theorem find?_declaredMethods (distinct : d.methods.Pairwise fun a b => a.sameSignature b = false)
    (listed : m ∈ d.methods) :
    (declaredMethods d).find? (m.sameSignature ·.method) = some ⟨d, m⟩ := by
  have first := mem_firstOfSignature.mp ((firstOfSignature_eq_self distinct).symm ▸ listed)
  rw [declaredMethods, List.find?_map, Function.comp_def, first, Option.map_some]

/-- A method is visible unless a type that comes before declares its signature. -/
theorem mem_firstDeclared_iff (distinct : d.methods.Pairwise fun a b => a.sameSignature b = false)
    (listed : m ∈ d.methods) (first : d ∉ before) :
    ⟨d, m⟩ ∈ firstDeclared ((before ++ d :: after).flatMap declaredMethods) ↔
      before.any (·.methods.any (·.sameSignature m)) = false := by
  rw [mem_firstDeclared, List.flatMap_append, List.flatMap_cons, List.find?_append, List.find?_append,
    find?_declaredMethods distinct listed]
  cases found : (before.flatMap declaredMethods).find? (m.sameSignature ·.method) with
  | none =>
    have apart : ∀ e ∈ before, ∀ n ∈ e.methods, n.sameSignature m = false := by
      intro e earlier n declared
      have other := List.find?_eq_none.mp found ⟨e, n⟩
        (List.mem_flatMap.mpr ⟨e, earlier, List.mem_map_of_mem declared⟩)
      rw [sameSignature_comm]
      simpa using other
    simpa using apart
  | some other =>
    obtain ⟨e, earlier, declared⟩ := List.mem_flatMap.mp (List.mem_of_find?_eq_some found)
    obtain ⟨n, own, rfl⟩ := List.mem_map.mp declared
    have same : n.sameSignature m := by
      rw [sameSignature_comm]
      simpa using List.find?_some found
    have differ : e ≠ d := fun equal => first (equal ▸ earlier)
    have hidden : before.any (·.methods.any (·.sameSignature m)) = true :=
      List.any_eq_true.mpr ⟨e, earlier, List.any_eq_true.mpr ⟨n, own, same⟩⟩
    simp [differ, hidden]

end

theorem declared_of_mem_visibleMethods {r : Registry} {name : ClassName} {m : DeclaredMethod}
    (visible : m ∈ r.visibleMethods name) : m.method ∈ m.type.methods := by
  have listed := List.mem_of_find?_eq_some (mem_firstDeclared.mp visible)
  obtain ⟨d, -, declared⟩ := List.mem_flatMap.mp listed
  obtain ⟨n, own, rfl⟩ := List.mem_map.mp declared
  exact own

theorem nodup_visibleMethods (r : Registry) (name : ClassName) : (r.visibleMethods name).Nodup := by
  apply List.Nodup.of_map DeclaredMethod.method
  rw [map_method_visibleMethods]
  exact nodup_firstOfSignature _

theorem mem_visibleMethods_iff {r : Registry} {name : ClassName} {d : TypeDeclaration} {m : Executable}
    {before after : List TypeDeclaration} (once : r.DeclaresSignaturesOnce)
    (split : r.hierarchy name = before ++ d :: after) (listed : m ∈ d.methods) :
    ⟨d, m⟩ ∈ r.visibleMethods name ↔ before.any (·.methods.any (·.sameSignature m)) = false := by
  have known : d ∈ r.hierarchy name := split ▸ List.mem_append_right _ List.mem_cons_self
  have types := (split ▸ r.nodup_hierarchy name).of_map
  have first : d ∉ before := fun earlier =>
    (List.nodup_append.mp types).2.2 d earlier d List.mem_cons_self rfl
  rw [visibleMethods, split]
  exact mem_firstDeclared_iff (once _ d (reaches_of_mem_hierarchy known).1) listed first

end Registry
end Prewire.Types

namespace Prewire.Plan

open Java Types

namespace InjectedMember

def method? : InjectedMember → Option Executable
  | .method m => some m
  | _ => none

def field? : InjectedMember → Option Field
  | .field f => some f
  | _ => none

end InjectedMember

namespace Dependency

/-- Whether a field is one of an object that the container has to set. -/
def isInjectedField (f : Field) : Bool := !f.isStatic && (marker? f.annotations Known.autowired).isSome

/-- Whether a method is one of an object that the container has to call, other than what creates it. -/
def isInjectedMethod (creator m : Executable) : Bool :=
  !m.isStatic && m ≠ creator && m.isAnnotated Known.autowired

/-- The injected fields of a type, then those of its injected methods that are visible on a class, as they
are declared. -/
def membersOf (r : Registry) (name : ClassName) (creator : Executable) (d : TypeDeclaration) :
    List InjectedMember :=
  (d.fields.filter isInjectedField).map .field ++
    (d.methods.filter fun m => ⟨d, m⟩ ∈ r.visibleMethods name && isInjectedMethod creator m).map .method

section
variable {r : Registry} {name : ClassName} {creator : Executable}

/-- What is hidden or carries no marker is not injected, and all else is, as the member it is. -/
theorem member_unless (hidden : Bool) (annotations : List Annotation) (member : InjectedMember)
    (type : JavaType) :
    (if hidden then none else (marker? annotations Known.autowired).map fun autowired =>
      of r member type (asksFor autowired)).map Dependency.member =
        if !hidden && (marker? annotations Known.autowired).isSome then some member else none := by
  cases hidden with
  | true => rfl
  | false => cases marker? annotations Known.autowired <;> rfl

theorem map_member_ofField? (fields : List Field) :
    (fields.filterMap (ofField? r)).map Dependency.member =
      (fields.filter isInjectedField).map .field := by
  rw [List.map_filterMap, ← List.filterMap_eq_map, List.filterMap_filter]
  apply List.filterMap_congr
  intro f _
  exact member_unless f.isStatic f.annotations (.field f) f.type

theorem map_member_ofMethod? (below : List TypeDeclaration) (methods : List Executable) :
    (methods.filterMap (ofMethod? r creator below)).map Dependency.member =
      (methods.filter fun m => !below.any (·.methods.any (·.sameSignature m)) &&
        isInjectedMethod creator m).map .method := by
  rw [List.map_filterMap, ← List.filterMap_eq_map, List.filterMap_filter]
  apply List.filterMap_congr
  intro m _
  rw [ofMethod?, member_unless]
  congr 2
  simp only [isInjectedMethod, Executable.isAnnotated, Bool.not_or, ne_eq, decide_not]
  ac_rfl

/-- The members of one class are those that the walk up the chain takes from it. -/
theorem membersOf_eq (once : r.DeclaresSignaturesOnce) {d : TypeDeclaration}
    {below rest : List TypeDeclaration} (split : r.hierarchy name = below ++ d :: rest) :
    (d.fields.filterMap (ofField? r) ++ d.methods.filterMap (ofMethod? r creator below)).map
      Dependency.member = membersOf r name creator d := by
  rw [List.map_append, map_member_ofField?, map_member_ofMethod?, membersOf]
  congr 2
  apply List.filter_congr
  intro m listed
  congr 1
  rw [Bool.eq_iff_iff, decide_eq_true_iff, Registry.mem_visibleMethods_iff once split listed,
    Bool.not_eq_true']

theorem map_member_ofChain (once : r.DeclaresSignaturesOnce) (below chain rest : List TypeDeclaration)
    (split : r.hierarchy name = below ++ chain ++ rest) :
    (ofChain r creator below chain).map Dependency.member =
      chain.reverse.flatMap (membersOf r name creator) := by
  induction chain generalizing below with
  | nil => rfl
  | cons d above ih =>
    have here : r.hierarchy name = below ++ d :: (above ++ rest) := by simpa using split
    rw [ofChain, List.append_assoc, List.map_append, ih (below ++ [d]) (by simpa using split),
      membersOf_eq once here]
    simp

def methodsAmong (dependencies : List Dependency) : List Executable :=
  (dependencies.map Dependency.member).filterMap InjectedMember.method?

def fieldsAmong (dependencies : List Dependency) : List Field :=
  (dependencies.map Dependency.member).filterMap InjectedMember.field?

theorem filterMap_method?_membersOf (d : TypeDeclaration) :
    (membersOf r name creator d).filterMap InjectedMember.method? =
      d.methods.filter fun m => ⟨d, m⟩ ∈ r.visibleMethods name && isInjectedMethod creator m := by
  simp [membersOf, List.filterMap_map, Function.comp_def, InjectedMember.method?]

theorem filterMap_field?_membersOf (d : TypeDeclaration) :
    (membersOf r name creator d).filterMap InjectedMember.field? = d.fields.filter isInjectedField := by
  simp [membersOf, List.filterMap_map, Function.comp_def, InjectedMember.field?]

/-- The visible methods that come from some types, type by type. -/
theorem perm_visibleMethods (once : r.DeclaresSignaturesOnce) {types : List TypeDeclaration}
    (known : ∀ d ∈ types, r.get? d.name = some d) (distinct : types.Nodup) (p : Executable → Bool) :
    (types.flatMap fun d => d.methods.filter fun m => ⟨d, m⟩ ∈ r.visibleMethods name && p m).Perm
      (((r.visibleMethods name).filter fun m => m.type ∈ types && p m.method).map
        DeclaredMethod.method) := by
  have declared : (types.flatMap fun d => d.methods.filter fun m =>
      ⟨d, m⟩ ∈ r.visibleMethods name && p m) =
        (types.flatMap fun d => (Registry.declaredMethods d).filter fun m =>
          m ∈ r.visibleMethods name && p m.method).map DeclaredMethod.method := by
    simp [List.map_flatMap, Registry.declaredMethods, List.filter_map, Function.comp_def]
  rw [declared]
  refine List.Perm.map _ ((List.perm_ext_iff_of_nodup ?_ ?_).mpr fun m => ?_)
  · refine List.nodup_flatMap.mpr ⟨fun d listed => ?_, distinct.imp fun apart => ?_⟩
    · have methods := Registry.nodup_of_signatures (once _ d (known d listed))
      exact (methods.map fun a b same => (DeclaredMethod.mk.inj same).2).filter _
    · intro m first second
      obtain ⟨a, -, rfl⟩ := List.mem_map.mp (List.mem_of_mem_filter first)
      obtain ⟨b, -, same⟩ := List.mem_map.mp (List.mem_of_mem_filter second)
      exact apart (DeclaredMethod.mk.inj same).1.symm
  · exact (r.nodup_visibleMethods name).filter _
  · simp only [List.mem_flatMap, List.mem_filter, Bool.and_eq_true, decide_eq_true_eq]
    constructor
    · rintro ⟨d, listed, own, visible, holds⟩
      obtain ⟨a, -, rfl⟩ := List.mem_map.mp own
      exact ⟨visible, listed, holds⟩
    · rintro ⟨visible, listed, holds⟩
      have own := Registry.declared_of_mem_visibleMethods visible
      exact ⟨m.type, listed, List.mem_map.mpr ⟨m.method, own, rfl⟩, visible, holds⟩

/-- Injection takes the autowired instance methods that are visible on a class and come from its superclass
chain, and the autowired instance fields of the chain, each once, class by class from the top down. -/
theorem members_injectedInto (once : r.DeclaresSignaturesOnce) (name : ClassName) (creator : Executable) :
    (methodsAmong (injectedInto r name creator)).Perm
      (((r.visibleMethods name).filter fun m =>
        m.type ∈ r.superclassChain name && isInjectedMethod creator m.method).map DeclaredMethod.method) ∧
    (methodsAmong (injectedInto r name creator)).Nodup ∧
    (r.visibleMethods name).map DeclaredMethod.method = r.methodsOf name ∧
    (fieldsAmong (injectedInto r name creator)).Perm
      (((r.superclassChain name).flatMap TypeDeclaration.fields).filter isInjectedField) ∧
    (injectedInto r name creator).map Dependency.member =
      (r.superclassChain name).reverse.flatMap (membersOf r name creator) := by
  have members : (injectedInto r name creator).map Dependency.member =
      (r.superclassChain name).reverse.flatMap (membersOf r name creator) :=
    map_member_ofChain once [] _ _ rfl
  obtain ⟨implemented, split, lists⟩ := r.exists_listsAncestors name
  have distinct : (r.superclassChain name).Nodup :=
    (lists.climbed.nodup List.nodup_nil).of_map TypeDeclaration.name
  have methods : (methodsAmong (injectedInto r name creator)).Perm
      (((r.visibleMethods name).filter fun m =>
        m.type ∈ r.superclassChain name && isInjectedMethod creator m.method).map
          DeclaredMethod.method) := by
    rw [methodsAmong, members, List.filterMap_flatMap]
    simp only [filterMap_method?_membersOf]
    refine ((List.reverse_perm _).flatMap_right _).trans ?_
    exact perm_visibleMethods once (fun d => lists.climbed.known_of_mem) distinct _
  refine ⟨methods, methods.nodup_iff.mpr ?_, r.map_method_visibleMethods name, ?_, members⟩
  · refine List.Nodup.sublist (List.filter_sublist.map _) ?_
    rw [Registry.map_method_visibleMethods]
    exact Registry.nodup_firstOfSignature _
  · rw [fieldsAmong, members, List.filterMap_flatMap, List.filter_flatMap]
    simp only [filterMap_field?_membersOf]
    exact (List.reverse_perm _).flatMap_right _

end

namespace InjectedSample

def named (name : String) : ClassName := ⟨"com.example", [name]⟩

def autowired : List Annotation := [{ type := Known.autowired }]

def method (declaring name : String) (annotations : List Annotation) (isStatic : Bool) : Executable where
  declaringClass := named declaring
  kind := .method name none isStatic
  parameters := [{ name := "value", type := .ofClass Known.string }]
  annotations := annotations

def field (declaring name : String) : Field where
  declaringClass := named declaring
  name := name
  type := .ofClass Known.string
  annotations := autowired

def top : TypeDeclaration where
  name := named "Top"
  superclass := some (.ofClass (named "Bottom"))
  fields := [field "Top" "clock"]
  methods := [method "Top" "rename" autowired false, method "Top" "resize" autowired false,
    method "Top" "reset" autowired true]

def middle : TypeDeclaration where
  name := named "Middle"
  superclass := some (.ofClass top.name)
  methods := [method "Middle" "resize" [] false]

def bottom : TypeDeclaration where
  name := named "Bottom"
  superclass := some (.ofClass middle.name)
  interfaces := [.ofClass (named "Sized")]
  fields := [field "Bottom" "cache"]
  methods := [method "Bottom" "create" autowired false]

def sized : TypeDeclaration where
  name := named "Sized"
  kind := .interfaceKind
  methods := [method "Sized" "measure" autowired false]

def types : Registry := ⟨[top, middle, bottom, sized]⟩

theorem declaresSignaturesOnce : types.DeclaresSignaturesOnce :=
  Registry.declaresSignaturesOnce_of_declared (by decide)

end InjectedSample

open InjectedSample in
/-- In a cycle of three classes, of which the middle one overrides a method without annotation, one method
and two fields are injected. -/
theorem members_injectedInto_bottom : types.DeclaresSignaturesOnce ∧
    methodsAmong (injectedInto types bottom.name (method "Bottom" "create" autowired false)) =
      [method "Top" "rename" autowired false] ∧
    (injectedInto types bottom.name (method "Bottom" "create" autowired false)).map Dependency.member =
      [.field (field "Top" "clock"), .method (method "Top" "rename" autowired false),
        .field (field "Bottom" "cache")] := by
  obtain ⟨methods, -, -, -, members⟩ := members_injectedInto declaresSignaturesOnce bottom.name
    (method "Bottom" "create" autowired false)
  refine ⟨declaresSignaturesOnce, ?_, members.trans ?_⟩
  · apply List.perm_singleton.mp
    refine methods.trans (.of_eq ?_)
    decide +kernel
  · decide +kernel

end Dependency
end Prewire.Plan
