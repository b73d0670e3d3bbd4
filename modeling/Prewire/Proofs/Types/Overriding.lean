import Prewire.Proofs.Types.Ancestry
import Prewire.Proofs.Types.Conversion

/-! Overriding in generic hierarchies. A class inherits a method under the type arguments that it passes
up to the declaring type. There a method overrides those of its name and erased parameter types that are
inherited after it. The methods that are visible on a class differ in the erasures of what they declare,
so an overridden one is visible beside the one that overrides it only where a type variable stands for a
type with another erasure. -/
namespace Prewire.Java.JavaType

def innermost : JavaType → JavaType
  | .array component => component.innermost
  | t => t

/-- Erasure sees the value of a variable only where the variable is not a type argument. -/
theorem erasure_substitute_eq {value? : String → Option JavaType} {t : JavaType}
    (kept : ∀ v s, t.innermost = .variable v → value? v = some s → s.erasure = .variable v) :
    (t.substitute value?).erasure = t.erasure := by
  induction t using JavaType.innermost.induct with
  | case1 component ih =>
    rw [substitute, erasure, erasure, ih kept]
  | case2 t other =>
    cases t with
    | primitive | classType => rfl
    | array component => exact absurd rfl (other component)
    | «variable» v =>
      rw [substitute]
      cases found : value? v with
      | none => rfl
      | some s => exact kept v s rfl found

end Prewire.Java.JavaType

namespace Prewire.Types

open Java

structure DeclaredMethod where
  type : TypeDeclaration
  method : Executable
  deriving DecidableEq

namespace DeclaredMethod

def isInstance (m : DeclaredMethod) : Bool := !m.method.isConstructor && !m.method.isStatic

end DeclaredMethod

namespace Registry

def firstDeclared : List DeclaredMethod → List DeclaredMethod
  | [] => []
  | m :: rest => m :: (firstDeclared rest).filter (!m.method.sameSignature ·.method)

/-- The methods that are visible on a class, with the types that declare them. -/
def visibleMethods (r : Registry) (name : ClassName) : List DeclaredMethod :=
  firstDeclared ((r.hierarchy name).flatMap fun d => d.methods.map fun m => ⟨d, m⟩)

def genericOf (r : Registry) (name : ClassName) : JavaType :=
  ((r.get? name).map TypeDeclaration.genericType).getD (.ofClass name)

/-- What the type variables of a declaration stand for in a class that inherits from it. -/
def inheritedBindings (r : Registry) (name : ClassName) (d : TypeDeclaration) : Bindings :=
  d.bindings (((r.view? (r.genericOf name) d.name).map JavaType.arguments).getD [])

/-- A parameter type of a method as a class inherits it. -/
def memberType (r : Registry) (name : ClassName) (m : DeclaredMethod) (t : JavaType) : JavaType :=
  t.substitute (r.inheritedBindings name m.type).value?

def memberTypes (r : Registry) (name : ClassName) (m : DeclaredMethod) : List JavaType :=
  m.method.parameterTypes.map (r.memberType name m)

/-- A class inherits a method that another one, which comes before it, overrides. -/
structure Overridden (r : Registry) (name : ClassName) (earlier later : DeclaredMethod) : Prop where
  inherited : later.type.name ≠ name
  earlier_instance : earlier.isInstance
  later_instance : later.isInstance
  names : earlier.method.methodName? = later.method.methodName?
  erasures : (r.memberTypes name earlier).map JavaType.erasure =
    (r.memberTypes name later).map JavaType.erasure

/-- No visible method is overridden by one that is listed before it. -/
def HidesOverridden (r : Registry) (name : ClassName) : Prop :=
  (r.visibleMethods name).Pairwise fun earlier later => ¬ r.Overridden name earlier later

/-- A parameter type is a type variable, or an array of one, which the class gives a value of another
erasure. -/
def Rebinds (r : Registry) (name : ClassName) (m : DeclaredMethod) (t : JavaType) : Prop :=
  ∃ v s, t.innermost = .variable v ∧ (r.inheritedBindings name m.type).value? v = some s ∧
    s.erasure ≠ .variable v

/-- At some position two methods declare parameters of different erasures, and one of the parameters is
given its type by the class. -/
def RebindsApart (r : Registry) (name : ClassName) (earlier later : DeclaredMethod) : Prop :=
  ∃ (i : Nat) (t u : JavaType), earlier.method.parameterTypes[i]? = some t ∧
    later.method.parameterTypes[i]? = some u ∧ t.erasure ≠ u.erasure ∧
    (r.Rebinds name earlier t ∨ r.Rebinds name later u)

/-- Declared supertypes have one type argument for each type parameter of the class. -/
def HasMatchingArguments (r : Registry) : Prop :=
  ∀ name d, r.get? name = some d → ∀ t ∈ d.supertypes, ∀ above e, t.rawClass? = some above →
    r.get? above = some e → t.arguments.length = e.typeParameters.length

theorem hasMatchingArguments_of_declared {r : Registry}
    (declared : ∀ d ∈ r.declarations, ∀ t ∈ d.supertypes, ∀ e ∈ r.declarations,
      t.rawClass? = some e.name → t.arguments.length = e.typeParameters.length) :
    r.HasMatchingArguments := by
  intro name d found t listed above e named known
  obtain rfl := name_of_get? known
  exact declared d (List.mem_of_find?_eq_some found) t listed e (List.mem_of_find?_eq_some known) named

section
variable {r : Registry} {name : ClassName}

theorem map_method_firstDeclared (methods : List DeclaredMethod) :
    (firstDeclared methods).map DeclaredMethod.method =
      firstOfSignature (methods.map DeclaredMethod.method) := by
  induction methods with
  | nil => rfl
  | cons m rest ih =>
    rw [firstDeclared, List.map_cons, List.map_cons, firstOfSignature, ← ih, List.filter_map]
    rfl

theorem map_method_visibleMethods (r : Registry) (name : ClassName) :
    (r.visibleMethods name).map DeclaredMethod.method = r.methodsOf name := by
  rw [visibleMethods, map_method_firstDeclared, methodsOf, List.map_flatMap]
  simp only [List.map_map, Function.comp_def, List.map_id']

theorem pairwise_visibleMethods (r : Registry) (name : ClassName) :
    (r.visibleMethods name).Pairwise fun a b => a.method.sameSignature b.method = false := by
  have apart := pairwise_firstOfSignature ((r.hierarchy name).flatMap TypeDeclaration.methods)
  rw [← methodsOf, ← map_method_visibleMethods, List.pairwise_map] at apart
  exact apart

/-! ### The view of a class as what it inherits from -/

def MatchesParameters (r : Registry) (t : JavaType) : Prop :=
  ∀ c d, t.rawClass? = some c → r.get? c = some d → t.arguments.length = d.typeParameters.length

theorem rawClass?_genericOf (r : Registry) (name : ClassName) :
    (r.genericOf name).rawClass? = some name := by
  rw [genericOf]
  cases known : r.get? name with
  | none => rfl
  | some d => simp [TypeDeclaration.genericType, JavaType.rawClass?, name_of_get? known]

theorem matchesParameters_genericOf (r : Registry) (name : ClassName) :
    r.MatchesParameters (r.genericOf name) := by
  intro c d named known
  obtain rfl : name = c := Option.some.inj ((r.rawClass?_genericOf name).symm.trans named)
  simp [genericOf, known, TypeDeclaration.genericType, JavaType.arguments]

/-- The values of variables change no number of type arguments. -/
theorem matchesParameters_of_direct (classes : r.HasClassSupertypes)
    (matching : r.HasMatchingArguments) {t s : JavaType} (direct : s ∈ r.directSupertypes t) :
    r.MatchesParameters s := by
  cases t with
  | classType n own =>
    rw [directSupertypes] at direct
    cases found : r.get? n with
    | none => simp [found] at direct
    | some e =>
      rw [found] at direct
      obtain ⟨declared, listed, rfl⟩ := List.mem_map.mp direct
      obtain ⟨above, raw⟩ := classes n e found declared listed
      cases declared with
      | classType m arguments =>
        intro c d named known
        have lengths := matching n e found _ listed c d named known
        simpa [JavaType.substitute, JavaType.arguments, JavaType.substituteAll_eq_map] using lengths
      | _ => cases raw
  | _ => simp [directSupertypes] at direct

theorem matchesParameters_of_superChain (classes : r.HasClassSupertypes)
    (matching : r.HasMatchingArguments) {t view : JavaType} (chain : r.SuperChain t view)
    (start : r.MatchesParameters t) : r.MatchesParameters view := by
  rcases Relation.ReflTransGen.cases_tail chain with rfl | ⟨below, -, direct⟩
  · exact start
  · exact matchesParameters_of_direct classes matching direct

/-- A class is seen as each type of its hierarchy, with one type argument for each type parameter. -/
theorem view?_of_mem_hierarchy (classes : r.HasClassSupertypes)
    (matching : r.HasMatchingArguments) {d : TypeDeclaration} (listed : d ∈ r.hierarchy name) :
    Known.isNamed Known.object d.name ∨ ∃ arguments,
      r.view? (r.genericOf name) d.name = some (.classType d.name arguments) ∧
        arguments.length = d.typeParameters.length := by
  by_cases top : Known.isNamed Known.object d.name
  · exact .inl top
  · obtain ⟨known, reached⟩ := reaches_of_mem_hierarchy listed
    have started : name ∈ [r.genericOf name].filterMap JavaType.rawClass? := by
      simp [rawClass?_genericOf]
    have searched : r.search d.name [] [r.genericOf name] ≠ none := fun nothing =>
      not_reaches_of_search nothing (by simp [Covers]) List.not_mem_nil (.inr started) reached
    obtain ⟨view, found⟩ := Option.ne_none_iff_exists'.mp searched
    obtain ⟨t, given, chain⟩ := superChain_of_search found
    obtain rfl := List.mem_singleton.mp given
    have named := rawClass?_search found
    have lengths := matchesParameters_of_superChain classes matching chain
      (r.matchesParameters_genericOf name) d.name d named known
    cases view with
    | classType n arguments =>
      obtain rfl : n = d.name := Option.some.inj named
      exact .inr ⟨arguments, by simpa [view?, top] using found, lengths⟩
    | _ => cases named

/-! ### Where an overridden method is visible -/

theorem erasure_memberType {m : DeclaredMethod} {t : JavaType} (kept : ¬ r.Rebinds name m t) :
    (r.memberType name m t).erasure = t.erasure := by
  apply JavaType.erasure_substitute_eq
  intro v s bottom found
  by_contra apart
  exact kept ⟨v, s, bottom, found, apart⟩

/-- Methods of different signatures can only be the same in a class that gives a parameter its type. -/
theorem rebindsApart_of_overridden {earlier later : DeclaredMethod}
    (overridden : r.Overridden name earlier later)
    (apart : earlier.method.sameSignature later.method = false) :
    r.RebindsApart name earlier later := by
  by_contra nowhere
  have same (i : Nat) : (earlier.method.parameterTypes.map JavaType.erasure)[i]? =
      (later.method.parameterTypes.map JavaType.erasure)[i]? := by
    have member := congrArg (·[i]?) overridden.erasures
    simp only [memberTypes, List.getElem?_map] at member ⊢
    cases first : earlier.method.parameterTypes[i]? with
    | none => cases second : later.method.parameterTypes[i]? <;> simp_all
    | some t =>
      cases second : later.method.parameterTypes[i]? with
      | none => simp_all
      | some u =>
        by_contra differ
        have erasures : t.erasure ≠ u.erasure := by simpa using differ
        have kept : ¬ (r.Rebinds name earlier t ∨ r.Rebinds name later u) := fun rebinds =>
          nowhere ⟨i, t, u, first, second, erasures, rebinds⟩
        rw [not_or] at kept
        apply erasures
        rw [← erasure_memberType kept.1, ← erasure_memberType kept.2]
        simpa [first, second] using member
  have equal := List.ext_getElem? same
  simp [Executable.sameSignature, overridden.names, equal] at apart

/-- A class has a view as each type that it inherits from, and its visible methods are those declared
there first of their signature. No overridden one is among them exactly where that holds of the methods
whose signatures differ at a parameter that the class gives its type. -/
theorem hidesOverridden_iff (classes : r.HasClassSupertypes) (matching : r.HasMatchingArguments)
    (name : ClassName) :
    (∀ d ∈ r.hierarchy name, Known.isNamed Known.object d.name ∨ ∃ arguments,
      r.view? (r.genericOf name) d.name = some (.classType d.name arguments) ∧
        arguments.length = d.typeParameters.length) ∧
    (r.visibleMethods name).map DeclaredMethod.method = r.methodsOf name ∧
    (r.HidesOverridden name ↔ (r.visibleMethods name).Pairwise fun earlier later =>
      r.RebindsApart name earlier later → ¬ r.Overridden name earlier later) := by
  refine ⟨fun d listed => view?_of_mem_hierarchy classes matching listed,
    r.map_method_visibleMethods name, ?_⟩
  constructor
  · intro hides
    apply hides.imp
    intro earlier later kept _
    exact kept
  · intro kept
    refine (kept.and (r.pairwise_visibleMethods name)).imp ?_
    rintro earlier later ⟨kept, apart⟩ overridden
    exact kept (rebindsApart_of_overridden overridden apart) overridden

end

namespace OverridingSample

def named (name : String) : ClassName := ⟨"com.example", [name]⟩

def takes (declaring : ClassName) (type : JavaType) : Executable where
  declaringClass := declaring
  kind := .method "handle" none false
  parameters := [{ name := "value", type := type }]

def handler : TypeDeclaration where
  name := named "Handler"
  kind := .interfaceKind
  typeParameters := [{ name := "T" }]
  methods := [takes (named "Handler") (.variable "T")]

def textHandler : TypeDeclaration where
  name := named "TextHandler"
  interfaces := [.classType handler.name [.ofClass Known.string]]
  methods := [takes (named "TextHandler") (.ofClass Known.string)]

def loudHandler : TypeDeclaration where
  name := named "LoudHandler"
  superclass := some (.ofClass textHandler.name)

def types : Registry := ⟨[loudHandler, textHandler, handler]⟩

theorem hasClassSupertypes : types.HasClassSupertypes :=
  hasClassSupertypes_of_declared (by decide)

theorem hasMatchingArguments : types.HasMatchingArguments :=
  hasMatchingArguments_of_declared (by decide)

end OverridingSample

open OverridingSample in
/-- Two steps up, the variable of the interface stands for `String`. -/
theorem hidesOverridden_iff_loudHandler :
    types.HasClassSupertypes ∧ types.HasMatchingArguments ∧
    (∃ arguments, types.view? (types.genericOf loudHandler.name) handler.name =
      some (.classType handler.name arguments) ∧ arguments.length = 1) ∧
    (types.visibleMethods loudHandler.name).map DeclaredMethod.method =
      types.methodsOf loudHandler.name ∧
    (types.HidesOverridden loudHandler.name ↔
      (types.visibleMethods loudHandler.name).Pairwise fun earlier later =>
        types.RebindsApart loudHandler.name earlier later →
          ¬ types.Overridden loudHandler.name earlier later) := by
  obtain ⟨views, visible, hides⟩ :=
    hidesOverridden_iff hasClassSupertypes hasMatchingArguments loudHandler.name
  have listed : handler ∈ types.hierarchy loudHandler.name := by decide +kernel
  have below : ¬ Known.isNamed Known.object handler.name := by decide +kernel
  exact ⟨hasClassSupertypes, hasMatchingArguments, (views handler listed).resolve_left below, visible,
    hides⟩

open OverridingSample in
/-- The method of the interface is visible beside the one that implements it for strings. -/
theorem not_hidesOverridden_textHandler :
    types.methodsOf textHandler.name = textHandler.methods ++ handler.methods ∧
    ¬ types.HidesOverridden textHandler.name := by
  have visible : types.visibleMethods textHandler.name =
      [⟨textHandler, takes (named "TextHandler") (.ofClass Known.string)⟩,
        ⟨handler, takes (named "Handler") (.variable "T")⟩] := by
    decide +kernel
  refine ⟨by decide +kernel, fun hides => ?_⟩
  rw [HidesOverridden, visible, List.pairwise_pair] at hides
  apply hides
  exact {
    inherited := by decide
    earlier_instance := rfl
    later_instance := rfl
    names := rfl
    erasures := by decide +kernel }

end Registry
end Prewire.Types
