import Prewire.Proofs.Types.Reachability
import Prewire.Types.Assignable

/-! The conversions that a call applies to its arguments, by the rules of the language and apart from how
assignability is decided: widening, boxing and then widening to a supertype, unboxing and then widening,
never narrowing. Type arguments are invariant; only a raw type is taken for any. -/
namespace Prewire.Java

/-- The type of an argument. What a call of a collection's factory returns depends on the parameter, so
that its elements are kept. -/
inductive PassedType where
  | null
  | of (type : JavaType)
  | collection (factory : ClassName) (elements : List PassedType)

namespace JavaType

mutual
theorem substitute_none : ∀ t : JavaType, t.substitute (fun _ => none) = t
  | .primitive _ => rfl
  | .classType name arguments => by rw [substitute, substituteAll_none]
  | .array component => by rw [substitute, component.substitute_none]
  | .variable _ => rfl
theorem substituteAll_none : ∀ ts : List JavaType, substituteAll (fun _ => none) ts = ts
  | [] => rfl
  | t :: ts => by rw [substituteAll, t.substitute_none, substituteAll_none]
end

end JavaType
end Prewire.Java

namespace Prewire.Types.Registry

open Java

def SuperChain (r : Registry) : JavaType → JavaType → Prop :=
  Relation.ReflTransGen fun t above => above ∈ r.directSupertypes t

/-- A class with type parameters without arguments for them. -/
def IsRaw (r : Registry) (t : JavaType) : Prop :=
  ∃ name d, t = .ofClass name ∧ r.get? name = some d ∧ d.typeParameters ≠ []

/-- Widening of reference types, and what is unchecked: the supertypes of a raw type are raw, and a raw
type is taken for any of its class. -/
inductive Widens (r : Registry) : JavaType → JavaType → Prop
  | refl {t : JavaType} (reference : t.isPrimitive = false) : Widens r t t
  | object {t : JavaType} {name : ClassName} (reference : t.isPrimitive = false)
    (top : Known.isNamed Known.object name) : Widens r t (.ofClass name)
  | supertype {t : JavaType} {name : ClassName} {viewed arguments : List JavaType}
    (chain : r.SuperChain t (.classType name viewed))
    (agree : arguments = [] ∨ viewed = [] ∨ r.IsRaw t ∨ arguments = viewed) :
    Widens r t (.classType name arguments)
  | arrayClass {component : JavaType} {name : ClassName} (above : isArraySupertype name) :
    Widens r (.array component) (.ofClass name)
  | array {component other : JavaType} (widens : Widens r component other) :
    Widens r (.array component) (.array other)

/-- The conversions of an argument to the type of a parameter. A factory takes elements of any type that
all its arguments convert to. -/
inductive Converts (r : Registry) : PassedType → JavaType → Prop
  | null {target : JavaType} (reference : target.isPrimitive = false) : Converts r .null target
  | widening {p q : Primitive} (wider : p.widensTo q) : Converts r (.of (.primitive p)) (.primitive q)
  | boxing {p : Primitive} {target : JavaType} (widens : r.Widens (.ofClass p.boxed) target) :
    Converts r (.of (.primitive p)) target
  | unboxing {name : ClassName} {arguments : List JavaType} {p q : Primitive}
    (wraps : Primitive.unboxed? name = some p) (wider : p.widensTo q) :
    Converts r (.of (.classType name arguments)) (.primitive q)
  | reference {t target : JavaType} (widens : r.Widens t target) : Converts r (.of t) target
  | collection {factory : ClassName} {elements : List PassedType} {element target : JavaType}
    (reference : element.isPrimitive = false) (fit : ∀ e ∈ elements, Converts r e element)
    (widens : r.Widens (.classType factory [element]) target) :
    Converts r (.collection factory elements) target

/-- A type with references in the place of its variables, each within its bound. -/
def IsInstance (r : Registry) (bounds : Bindings) (target t : JavaType) : Prop :=
  ∃ value? : String → Option JavaType, t = target.substitute value? ∧
    (∀ name t, value? name = some t → t.isPrimitive = false) ∧
    ∀ name ∈ target.variableNames, ∀ bound, bounds.value? name = some bound →
      ∃ t, value? name = some t ∧ r.Widens t (bound.substitute value?)

/-- A parameter takes an argument that converts to an instance of its type. -/
def Takes (r : Registry) (bounds : Bindings) (target : JavaType) (argument : PassedType) : Prop :=
  ∃ t, r.IsInstance bounds target t ∧ r.Converts argument t

def WidensToInstance (r : Registry) (bounds : Bindings) (target t : JavaType) : Prop :=
  ∃ above, r.IsInstance bounds target above ∧ r.Widens t above

section
variable {r : Registry} {t view target : JavaType} {name above : ClassName}

theorem Widens.to_reference (widens : r.Widens t view) : view.isPrimitive = false := by
  cases widens with
  | refl reference => exact reference
  | _ => rfl

/-- What a search finds is a supertype of a type that it was given. -/
theorem superChain_of_search {visited : List ClassName} {stack : List JavaType}
    (found : r.search name visited stack = some view) : ∃ t ∈ stack, r.SuperChain t view := by
  fun_induction r.search name visited stack with
  | case1 => cases found
  | case2 visited t rest nameless ih =>
    obtain ⟨s, listed, chain⟩ := ih found
    exact ⟨s, List.mem_cons_of_mem _ listed, chain⟩
  | case3 visited t rest named => exact ⟨t, List.mem_cons_self, Option.some.inj found ▸ .refl⟩
  | case4 visited t rest other named different seen ih =>
    obtain ⟨s, listed, chain⟩ := ih found
    exact ⟨s, List.mem_cons_of_mem _ listed, chain⟩
  | case5 visited t rest other named different fresh ih =>
    obtain ⟨s, listed, chain⟩ := ih found
    rcases List.mem_append.mp listed with direct | later
    · exact ⟨t, List.mem_cons_self, .head direct chain⟩
    · exact ⟨s, List.mem_cons_of_mem _ later, chain⟩

/-- A chain of supertypes is one of declarations. -/
theorem SuperChain.reaches (chain : r.SuperChain t view) (classes : r.HasClassSupertypes)
    (named : t.rawClass? = some name) (viewed : view.rawClass? = some above) :
    r.Reaches name above := by
  induction chain using Relation.ReflTransGen.head_induction_on generalizing name with
  | refl => exact Option.some.inj (named.symm.trans viewed) ▸ .refl
  | head direct _ ih =>
    obtain ⟨next, raw, declares⟩ := declaresSuper_of_mem classes named direct
    exact .head declares (ih raw)

/-- What is declared of a class holds under any type arguments. -/
theorem superChain_of_reaches (reached : r.Reaches name above) (named : t.rawClass? = some name) :
    ∃ viewed, r.SuperChain t (.classType above viewed) := by
  induction reached using Relation.ReflTransGen.head_induction_on generalizing t with
  | refl =>
    cases t with
    | classType n arguments =>
      obtain rfl : n = above := Option.some.inj named
      exact ⟨arguments, .refl⟩
    | _ => cases named
  | head declares _ ih =>
    obtain ⟨s, direct, raw⟩ := exists_mem_of_declaresSuper named declares
    obtain ⟨viewed, chain⟩ := ih raw
    exact ⟨viewed, .head direct chain⟩

theorem widens_erasure_self : ∀ {t : JavaType}, t.isPrimitive = false → r.Widens t.erasure t
  | .primitive _, reference => by cases reference
  | .classType _ _, _ => .supertype .refl (.inr (.inl rfl))
  | .array component, _ => by
    rw [JavaType.erasure]
    cases component with
    | primitive => exact .refl rfl
    | _ => exact .array (widens_erasure_self rfl)
  | .variable _, _ => .refl rfl

/-- A class without its type arguments widens to all that it widens to with them. -/
theorem widens_of_arguments (classes : r.HasClassSupertypes) {arguments viewed : List JavaType}
    {other : List JavaType} (chain : r.SuperChain (.classType name arguments) (.classType above viewed))
    (agree : other = [] ∨ viewed = [] ∨ r.IsRaw (.classType name arguments) ∨ other = viewed) :
    r.Widens (.ofClass name) (.classType above other) := by
  rcases Relation.ReflTransGen.cases_head chain with same | ⟨next, direct, rest⟩
  · cases same
    exact .supertype .refl (.inr (.inl rfl))
  · have declared : ∃ d, r.get? name = some d := by
      rw [directSupertypes] at direct
      cases found : r.get? name with
      | none => simp [found] at direct
      | some d => exact ⟨d, rfl⟩
    obtain ⟨d, found⟩ := declared
    by_cases parameters : d.typeParameters = []
    · -- Without parameters the arguments play no part.
      have none (arguments : List JavaType) : d.bindings arguments = [] := by
        simp [TypeDeclaration.bindings, parameters]
      have same : r.directSupertypes (.ofClass name) = r.directSupertypes (.classType name arguments) := by
        simp [directSupertypes, JavaType.ofClass, found, none]
      refine .supertype (.head (same ▸ direct) rest) (agree.imp_right (.imp_right (.imp_left ?_)))
      rintro ⟨n, other, form, known, some⟩
      obtain ⟨rfl, rfl⟩ := JavaType.classType.inj form
      exact absurd parameters (Option.some.inj (found.symm.trans known) ▸ some)
    · obtain ⟨raw, chain⟩ := superChain_of_reaches (chain.reaches classes rfl rfl)
        (t := .ofClass name) rfl
      exact .supertype chain (.inr (.inr (.inl ⟨name, d, rfl, found, parameters⟩)))

/-- Only classes have supertypes. -/
theorem exists_class_of_superChain {viewed : List JavaType}
    (chain : r.SuperChain t (.classType above viewed)) : ∃ n arguments, t = .classType n arguments := by
  rcases Relation.ReflTransGen.cases_head chain with rfl | ⟨next, direct, -⟩
  · exact ⟨_, _, rfl⟩
  · cases t with
    | classType n arguments => exact ⟨n, arguments, rfl⟩
    | _ => simp [directSupertypes] at direct

theorem Widens.from_reference (widens : r.Widens t view) : t.isPrimitive = false := by
  cases widens with
  | refl reference => exact reference
  | object reference => exact reference
  | supertype chain =>
    obtain ⟨n, own, rfl⟩ := exists_class_of_superChain chain
    rfl
  | _ => rfl

/-- A type without type arguments widens to all that it widens to with them. -/
theorem Widens.of_erasure (classes : r.HasClassSupertypes) (widens : r.Widens t target) :
    r.Widens t.erasure target := by
  induction widens with
  | refl reference => exact widens_erasure_self reference
  | @object t _ reference top =>
    refine .object ?_ top
    cases t <;> first | rfl | cases reference
  | supertype chain agree =>
    obtain ⟨n, own, rfl⟩ := exists_class_of_superChain chain
    exact widens_of_arguments classes chain agree
  | arrayClass above => exact .arrayClass above
  | array _ ih => exact .array ih

variable {bounds : Bindings}

def Unbounded (bounds : Bindings) (t : JavaType) : Prop :=
  ∀ name ∈ t.variableNames, bounds.value? name = none

theorem isInstance_self (unbounded : Unbounded bounds t) : r.IsInstance bounds t t := by
  refine ⟨fun _ => none, t.substitute_none.symm, fun _ _ found => (nomatch found), ?_⟩
  intro name occurs bound found
  cases found.symm.trans (unbounded name occurs)

theorem IsInstance.array (instantiated : r.IsInstance bounds target t) :
    r.IsInstance bounds (.array target) (.array t) := by
  obtain ⟨value?, rfl, references, within⟩ := instantiated
  exact ⟨value?, rfl, references, within⟩

theorem isInstance_variable {variableName : String} (unbounded : bounds.value? variableName = none)
    (reference : t.isPrimitive = false) : r.IsInstance bounds (.variable variableName) t := by
  refine ⟨fun _ => some t, rfl, fun _ _ same => Option.some.inj same ▸ reference, ?_⟩
  intro name occurs bound found
  obtain rfl := List.mem_singleton.mp occurs
  cases found.symm.trans unbounded

theorem isAssignable_refl (r : Registry) (t : JavaType) : r.isAssignable t t := by
  cases t <;> simp [isAssignable, assigns]

theorem isAssignable_array {component other : JavaType}
    (assignable : r.isAssignable (.array component) (.array other)) :
    component = other ∨
      component.isPrimitive = false ∧ other.isPrimitive = false ∧ r.isAssignable component other := by
  rw [isAssignable, assigns] at assignable
  split at assignable
  · next same => exact .inl (JavaType.array.inj same)
  · split at assignable
    · exact .inl (by simpa using assignable)
    · next none =>
      simp only [Bool.or_eq_true, not_or, Bool.not_eq_true] at none
      exact .inr ⟨none.1, none.2, assignable⟩

theorem isAssignable_classType {arguments : List JavaType}
    (assignable : r.isAssignable (.classType name arguments) t) (closed : t.isVariable = false) :
    t = .classType name arguments ∨ (t.isArray ∧ isArraySupertype name) ∨
      ∃ view, r.view? t.boxed name = some view := by
  cases t with
  | «variable» => cases closed
  | array component =>
    rw [isAssignable, assigns] at assignable
    exact .inr (.inl ⟨rfl, by simpa using assignable⟩)
  | _ =>
    simp only [isAssignable, assigns] at assignable
    split at assignable
    · next same => exact .inl same.symm
    · split at assignable
      · simp at assignable
      · next found => exact .inr (.inr ⟨_, found⟩)

/-- Where a class is viewed as another, it widens to that one without type arguments. -/
theorem widens_of_view? (viewed : r.view? t name = some view) (reference : t.isPrimitive = false) :
    r.Widens t (.ofClass name) := by
  rw [view?] at viewed
  split at viewed
  · next top =>
    rw [Bool.and_eq_true] at top
    exact .object reference top.1
  · obtain ⟨s, listed, chain⟩ := superChain_of_search viewed
    obtain rfl := List.mem_singleton.mp listed
    have raw := rawClass?_search viewed
    cases view with
    | classType n arguments =>
      obtain rfl : n = name := Option.some.inj raw
      exact .supertype chain (.inl rfl)
    | _ => cases raw

/-- What is assignable widens to an instance of the target, where the target has no type arguments. -/
theorem widensToInstance_of_isAssignable : ∀ {target t : JavaType}, r.isAssignable target t →
    target.erasure = target → Unbounded bounds target → target.isPrimitive = false →
      t.isPrimitive = false → t.variableNames = [] → r.WidensToInstance bounds target t
  | .primitive _, _, _, _, _, reference, _, _ => by cases reference
  | .classType name arguments, t, assignable, plain, unbounded, _, reference, closed => by
    obtain rfl : [] = arguments := by simpa [JavaType.erasure, JavaType.ofClass] using plain
    have fixed : t.isVariable = false := by
      cases t <;> first | rfl | simp [JavaType.variableNames] at closed
    refine ⟨_, isInstance_self unbounded, ?_⟩
    rcases isAssignable_classType assignable fixed with rfl | ⟨array, above⟩ | ⟨view, viewed⟩
    · exact .refl rfl
    · cases t with
      | array => exact .arrayClass above
      | _ => cases array
    · have boxed : t.boxed = t := by cases t <;> first | rfl | cases reference
      exact widens_of_view? (boxed ▸ viewed) reference
  | .array component, t, assignable, plain, unbounded, _, _, closed => by
    cases t with
    | array other =>
      rcases isAssignable_array assignable with rfl | ⟨reference, otherReference, inner⟩
      · exact ⟨_, isInstance_self unbounded, .refl rfl⟩
      · obtain ⟨above, instantiated, widens⟩ := widensToInstance_of_isAssignable inner
          (JavaType.array.inj plain) unbounded reference otherReference closed
        exact ⟨_, instantiated.array, .array widens⟩
    | «variable» => simp [JavaType.variableNames] at closed
    | primitive | classType => simp [isAssignable, assigns] at assignable
  | .variable _, t, _, _, unbounded, _, reference, _ =>
    ⟨t, isInstance_variable (unbounded _ List.mem_cons_self) reference, .refl reference⟩

theorem isNamed_object_self : Known.isNamed Known.object Known.object := by simp [Known.isNamed]

/-- Widening to a class without type arguments only depends on the class. -/
theorem widens_any_arguments (classes : r.HasClassSupertypes) {c above : ClassName}
    {arguments : List JavaType} (widens : r.Widens (.classType c arguments) (.ofClass above))
    (other : List JavaType) : r.Widens (.classType c other) (.ofClass above) := by
  cases widens with
  | refl => exact .supertype .refl (.inl rfl)
  | object _ top => exact .object rfl top
  | supertype chain =>
    obtain ⟨viewed, chain⟩ := superChain_of_reaches (chain.reaches classes rfl rfl)
      (t := .classType c other) rfl
    exact .supertype chain (.inl rfl)

theorem isAssignable_primitive {q : Primitive} (assignable : r.isAssignable (.primitive q) t)
    (known : t.isPrimitive = false) (closed : t.isVariable = false) :
    ∃ name arguments p, t = .classType name arguments ∧ Primitive.unboxed? name = some p ∧
      p.widensTo q := by
  cases t with
  | primitive => cases known
  | «variable» => cases closed
  | array => simp [isAssignable, assigns] at assignable
  | classType name arguments =>
    simp only [isAssignable, assigns, reduceCtorEq, if_false] at assignable
    cases wraps : Primitive.unboxed? name with
    | none => simp [wraps] at assignable
    | some p => exact ⟨name, arguments, p, rfl, wraps, by simpa [wraps] using assignable⟩

theorem widens_of_isAssignable {c n : ClassName} {own arguments : List JavaType}
    (assignable : r.isAssignable (.classType n arguments) (.classType c own)) :
    r.Widens (.classType c own) (.ofClass n) := by
  rcases isAssignable_classType assignable rfl with same | ⟨array, -⟩ | ⟨view, viewed⟩
  · obtain ⟨rfl, rfl⟩ := JavaType.classType.inj same
    exact .supertype .refl (.inl rfl)
  · cases array
  · exact widens_of_view? viewed rfl

end
end Prewire.Types.Registry
