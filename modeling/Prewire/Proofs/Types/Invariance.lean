import Prewire.Proofs.Types.TypeArguments

/-! Type arguments are invariant. Where no variable occurs and every class has one number of type
arguments, types agree as type arguments only if they are equal; so a type with arguments takes exactly
what is seen as that type. -/
namespace Prewire.Java.JavaType

mutual
/-- Every class that occurs has as many type arguments as are fixed for it. -/
def hasArity (arity : ClassName → Nat) : JavaType → Bool
  | .primitive _ | .variable _ => true
  | .classType name arguments => arguments.length = arity name && allHaveArity arity arguments
  | .array component => component.hasArity arity
def allHaveArity (arity : ClassName → Nat) : List JavaType → Bool
  | [] => true
  | t :: ts => t.hasArity arity && allHaveArity arity ts
end

end Prewire.Java.JavaType

namespace Prewire.Types.Registry

open Java JavaType

section
variable {r : Registry} {arity : ClassName → Nat}

/-- Classes with the same number of type arguments agree through these, whether there are any or not. -/
theorem agrees_classType (accepts : String → JavaType → Option Bool) {name other : ClassName}
    {arguments others : List JavaType} (lengths : arguments.length = others.length) :
    r.agrees accepts (.classType name arguments) (.classType other others) = some true ↔
      name = other ∧ r.agreeAll accepts arguments others = some true := by
  by_cases same : name = other
  · cases arguments with
    | nil =>
      obtain rfl : others = [] := List.length_eq_zero_iff.mp lengths.symm
      simp [agrees, agreeAll, same]
    | cons t ts =>
      obtain ⟨u, us, rfl⟩ := List.exists_cons_of_length_eq_add_one lengths.symm
      simp [agrees, same, lengths]
  · simp [agrees, same]

theorem agreeAll_cons (accepts : String → JavaType → Option Bool) {target source : JavaType}
    {targets sources : List JavaType} :
    r.agreeAll accepts (target :: targets) (source :: sources) = some true ↔
      r.agrees accepts target source = some true ∧ r.agreeAll accepts targets sources = some true := by
  rw [agreeAll]
  split
  · next agree => simp [agree]
  · next disagree => exact iff_of_false disagree fun both => disagree both.1

/-- A class type takes another one that is seen as its class with type arguments that agree. -/
theorem assigns_classType_iff (accepts : String → JavaType → Option Bool) {name c : ClassName}
    {arguments own : List JavaType} :
    r.assigns accepts (.classType name arguments) (.classType c own) = some true ↔
      JavaType.classType name arguments = .classType c own ∨
        ∃ view, r.view? (.classType c own) name = some view ∧
          r.agrees accepts (.classType name arguments) view = some true := by
  by_cases same : JavaType.classType name arguments = .classType c own
  · simp [assigns, same]
  · simp only [assigns, same, if_false, false_or, JavaType.boxed]
    cases viewed : r.view? (.classType c own) name with
    | none => simp
    | some view =>
      have named := rawClass?_view? viewed
      cases view with
      | classType other others =>
        obtain rfl : other = name := Option.some.inj named
        simp only [agrees, JavaType.arguments, ne_self_iff_false, if_false, Option.some.injEq,
          exists_eq_left']
        exact Iff.rfl
      | _ => cases named

theorem isAssignable_classType_iff {name c : ClassName} {arguments own : List JavaType} :
    r.isAssignable (.classType name arguments) (.classType c own) ↔
      JavaType.classType name arguments = .classType c own ∨
        ∃ view, r.view? (.classType c own) name = some view ∧
          r.agrees (fun _ _ => some true) (.classType name arguments) view = some true := by
  rw [isAssignable, beq_iff_eq, assigns_classType_iff]

mutual
/-- Agreement of type arguments is equality on types without variables. -/
theorem agrees_iff_eq (accepts : String → JavaType → Option Bool) : ∀ target source : JavaType,
    target.mentionsVariable = false → source.mentionsVariable = false →
      target.hasArity arity → source.hasArity arity →
        (r.agrees accepts target source = some true ↔ target = source)
  | .variable _, _, closed, _, _, _ => by cases closed
  | target, .variable _, _, closed, _, _ => by cases closed
  | .primitive p, source, _, closed, _, _ => by
    have plain : source.isVariable = false := by
      cases source <;> first | rfl | cases closed
    simp [agrees, plain]
  | .classType name arguments, source, closed, closedSource, fixed, fixedSource => by
    cases source with
    | classType other others =>
      rw [hasArity, Bool.and_eq_true, decide_eq_true_eq] at fixed fixedSource
      rw [JavaType.classType.injEq]
      by_cases same : name = other
      · subst same
        have lengths : arguments.length = others.length := fixed.1.trans fixedSource.1.symm
        rw [agrees_classType accepts lengths, agreeAll_iff_eq accepts arguments others lengths
          closed closedSource fixed.2 fixedSource.2]
      · simp [agrees, same]
    | «variable» => cases closedSource
    | primitive | array => simp [agrees]
  | .array component, source, closed, closedSource, fixed, fixedSource => by
    cases source with
    | array other =>
      rw [agrees, JavaType.array.injEq]
      exact agrees_iff_eq accepts component other closed closedSource fixed fixedSource
    | «variable» => cases closedSource
    | primitive | classType => simp [agrees]
theorem agreeAll_iff_eq (accepts : String → JavaType → Option Bool) :
    ∀ targets sources : List JavaType, targets.length = sources.length →
      anyMentionsVariable targets = false → anyMentionsVariable sources = false →
        allHaveArity arity targets → allHaveArity arity sources →
          (r.agreeAll accepts targets sources = some true ↔ targets = sources)
  | [], sources, lengths, _, _, _, _ => by
    obtain rfl : sources = [] := List.length_eq_zero_iff.mp lengths.symm
    simp [agreeAll]
  | target :: targets, [], lengths, _, _, _, _ => by cases lengths
  | target :: targets, source :: sources, lengths, closed, closedSources, fixed, fixedSources => by
    rw [anyMentionsVariable, Bool.or_eq_false_iff] at closed closedSources
    rw [allHaveArity, Bool.and_eq_true] at fixed fixedSources
    rw [agreeAll_cons, List.cons.injEq,
      agrees_iff_eq accepts target source closed.1 closedSources.1 fixed.1 fixedSources.1,
      agreeAll_iff_eq accepts targets sources (Nat.succ.inj lengths) closed.2 closedSources.2 fixed.2
        fixedSources.2]
end

variable {name : ClassName} {arguments : List JavaType} {source view : JavaType}

/-- A view with type arguments is one of a class, as another class than `Object`, which has none. -/
theorem view?_of_arguments (viewed : r.view? source name = some view)
    (parameterized : view.arguments ≠ []) :
    Known.isNamed Known.object name = false ∧ view = .classType name view.arguments ∧
      ∃ c own, source = .classType c own := by
  rw [view?] at viewed
  split at viewed
  · obtain rfl := Option.some.inj viewed
    exact absurd rfl parameterized
  · next below =>
    have isClass : ∃ c own, source = .classType c own := by
      cases source with
      | classType c own => exact ⟨c, own, rfl⟩
      | _ =>
        rw [search_unnamed rfl, search] at viewed
        cases viewed
    obtain ⟨c, own, rfl⟩ := isClass
    have raw := rawClass?_search viewed
    cases view with
    | classType other others =>
      obtain rfl : other = name := Option.some.inj raw
      exact ⟨by simpa [JavaType.rawClass?] using below, rfl, c, own, rfl⟩
    | _ => cases raw

/-- A type with type arguments takes a class type exactly where that is seen as the very type. -/
theorem isAssignable_iff_view_eq (viewed : r.view? source name = some view)
    (parameterized : view.arguments ≠ [])
    (closed : (JavaType.classType name arguments).mentionsVariable = false)
    (closedView : view.mentionsVariable = false)
    (fixed : (JavaType.classType name arguments).hasArity arity) (fixedView : view.hasArity arity) :
    r.isAssignable (.classType name arguments) source ↔ view = .classType name arguments := by
  obtain ⟨below, form, c, own, rfl⟩ := view?_of_arguments viewed parameterized
  generalize view.arguments = viewArguments at form parameterized
  subst form
  rw [hasArity, Bool.and_eq_true, decide_eq_true_eq] at fixed fixedView
  have lengths : arguments.length = viewArguments.length := fixed.1.trans fixedView.1.symm
  have nonempty : arguments ≠ [] := fun none => parameterized (by simpa [none] using lengths.symm)
  by_cases same : JavaType.classType name arguments = .classType c own
  · -- A type is seen as itself, and it is always taken for itself.
    rw [← same] at viewed ⊢
    rw [view?_self, below] at viewed
    refine iff_of_true (r.isAssignable_refl _) ?_
    simpa using viewed.symm
  · have agree : r.isAssignable (.classType name arguments) (.classType c own) ↔
        r.agreeAll (fun _ _ => some true) arguments viewArguments = some true := by
      simp [isAssignable, assigns, same, JavaType.boxed, viewed, JavaType.arguments, nonempty, parameterized,
        lengths]
    rw [agree, agreeAll_iff_eq _ arguments viewArguments lengths closed closedView fixed.2 fixedView.2,
      JavaType.classType.injEq, eq_comm]
    simp

end

namespace InvarianceSample

def table : ClassName := ⟨"com.example", ["Table"]⟩
def index : ClassName := ⟨"com.example", ["Index"]⟩

def tableOf (element : JavaType) : JavaType :=
  .classType table [.ofClass Known.string, .array (.classType Known.list [element])]

def types : Registry where
  declarations := [
    { name := index, typeParameters := [{ name := "E" }], interfaces := [tableOf (.variable "E")] }]

def integer : JavaType := .ofClass Primitive.int.boxed
def number : JavaType := .ofClass Known.number

def arity (name : ClassName) : Nat :=
  if name = table then 2 else if name = Known.list || name = index then 1 else 0

end InvarianceSample

open InvarianceSample in
/-- An index of integers is a table of these, but none of numbers. -/
theorem isAssignable_iff_view_eq_table :
    types.view? (.classType index [integer]) table = some (tableOf integer) ∧
      types.isAssignable (tableOf integer) (.classType index [integer]) ∧
      ¬ types.isAssignable (tableOf number) (.classType index [integer]) := by
  have viewed : types.view? (.classType index [integer]) table = some (tableOf integer) := by
    decide +kernel
  have fixed : (tableOf integer).hasArity arity ∧ (tableOf number).hasArity arity := by decide +kernel
  have parameterized : (tableOf integer).arguments ≠ [] := by simp [tableOf, JavaType.arguments]
  have same : types.isAssignable (tableOf integer) (.classType index [integer]) ↔ _ :=
    isAssignable_iff_view_eq viewed parameterized rfl rfl fixed.1 fixed.1
  have other : types.isAssignable (tableOf number) (.classType index [integer]) ↔ _ :=
    isAssignable_iff_view_eq viewed parameterized rfl rfl fixed.2 fixed.1
  refine ⟨viewed, same.mpr rfl, fun assignable => ?_⟩
  exact absurd (other.mp assignable) (by decide +kernel)

end Prewire.Types.Registry
