import Prewire.Proofs.Registration.NamedClasses
import Prewire.Proofs.Registration.WrittenValues

/-! The classes that the source form of a value names. They are those of the value and of its elements
at any depth, some of the container, and whatever the definitions of inner beans bring along. -/
namespace Prewire.Beans.BeanValue

open Java

/-- The classes that are configured as a value or as the type of its elements. -/
def ownClasses : BeanValue → List ClassName
  | .enumConstant type _ => [type]
  | .classLiteral type => type.erasure.classes
  | .array component _ => component.erasure.classes
  | _ => []

def constantClasses (format : Decimal.BinaryFormat) (p : Primitive) (bits : Nat) : List ClassName :=
  match format.magnitude bits with
  | .finite .. => []
  | _ => [p.boxed]

def libraryClasses : BeanValue → List ClassName
  | .float bits => constantClasses .single .float bits.toNat
  | .double bits => constantClasses .double .double bits.toNat
  | .list elements => [if elements.isEmpty then Known.collections else Known.list]
  | .set elements => [if elements.isEmpty then Known.collections else Known.set]
  | .reference _ => [Known.runtimeBeanReference]
  | _ => []

/-- Whether a value names a class, given the classes that the definitions of inner beans name. -/
def Names (definitionNames : BeanDefinition → ClassName → Prop) (v : BeanValue) (c : ClassName) :
    Prop :=
  ∃ part ∈ v.parts, c ∈ part.ownClasses ∨ c ∈ part.libraryClasses ∨
    ∃ d, part = .inner d ∧ definitionNames d c

end Prewire.Beans.BeanValue

namespace Prewire.Registration

open Java Beans Plan BeanValue

def Outcome.Exact {m : Type → Type} [Monad m] [MonadExceptOf Failure m] (o : Outcome m)
    (innerBean : BeanDefinition → m Expression)
    (definitionNames : BeanDefinition → ClassName → Prop) : Prop :=
  ∀ d e, o.Yields (innerBean d) e → ∀ c, c ∈ e.code.classes ↔ definitionNames d c

def Outcome.ofWriting : Outcome Writing where
  Yields action a := ∃ p q, action.run.run p = (.ok a, q)
  eq_of_pure := fun ⟨_, _, ran⟩ => Except.ok.inj (Prod.mk.inj ran).1
  of_bind := fun ⟨p, r, ran⟩ => by
    obtain ⟨a, q, first, second⟩ := run_bind_ok ran
    exact ⟨a, ⟨p, q, first⟩, q, r, second⟩
  not_throw := fun ⟨_, _, ran⟩ => nomatch (Prod.mk.inj ran).1

section
variable {definitionNames : BeanDefinition → ClassName → Prop} {c : ClassName}

theorem names_of_elements {v : BeanValue} {elements : List BeanValue}
    (known : v.elements? = some elements) :
    v.Names definitionNames c ↔
      (c ∈ v.ownClasses ∨ c ∈ v.libraryClasses) ∨ ∃ e ∈ elements, e.Names definitionNames c := by
  simp only [Names, parts_of_elements known, List.mem_cons, mem_partsOfAll]
  constructor
  · rintro ⟨part, rfl | ⟨e, listed, within⟩, named⟩
    · rcases named with own | library | ⟨d, rfl, -⟩
      · exact .inl (.inl own)
      · exact .inl (.inr library)
      · cases known
    · exact .inr ⟨e, listed, part, within, named⟩
  · rintro (own | ⟨e, listed, part, within, named⟩)
    · exact ⟨v, .inl rfl, own.imp_right .inl⟩
    · exact ⟨part, .inr ⟨e, listed, within⟩, named⟩

theorem names_inner {d : BeanDefinition} :
    (BeanValue.inner d).Names definitionNames c ↔ definitionNames d c := by
  simp [Names, parts, ownClasses, libraryClasses]

theorem classes_floating (format : Decimal.BinaryFormat) (p : Primitive) (bits : Nat)
    (literal : NumberLiteral) :
    (floating format p bits literal).code.classes = constantClasses format p bits := by
  rw [floating.eq_def, constantClasses.eq_def]
  cases format.magnitude bits <;> simp [constantOf]

theorem mem_classesOfCode_iff {vs : List BeanValue} {es : List Expression}
    (each : List.Forall₂ (fun v e => c ∈ e.code.classes ↔ v.Names definitionNames c) vs es) :
    c ∈ classesOfCode es ↔ ∃ v ∈ vs, v.Names definitionNames c := by
  induction each with
  | nil => simp
  | cons one _ ih => simp [one, ih]

/-- An expression names the classes that its value does. -/
theorem mem_classes_value {m : Type → Type} [Monad m] [LawfulMonad m] [MonadExceptOf Failure m]
    {o : Outcome m} {innerBean : BeanDefinition → m Expression} (exact : o.Exact innerBean definitionNames)
    (v : BeanValue) (type : Option JavaType) (e : Expression)
    (yields : o.Yields (valueExpression innerBean v type) e) (c : ClassName) :
    c ∈ e.code.classes ↔ v.Names definitionNames c := by
  refine o.value_induction (motive := fun v _ e => c ∈ e.code.classes ↔ v.Names definitionNames c)
    (fun v _ elements es known each => ?_) (fun v _ e single yields => ?_) yields
  · rw [names_of_elements known, ← mem_classesOfCode_iff each]
    cases v with
    | array | list | set =>
      obtain rfl := Option.some.inj known
      cases each <;> simp [collected, ownClasses, libraryClasses, emptyCollection, classes_restCode]
    | _ => cases known
  · cases v with
    | array | list | set => cases single
    | inner d =>
      rw [valueExpression] at yields
      rw [names_inner, exact d e yields c]
    | opaqueInstance =>
      rw [valueExpression] at yields
      exact absurd yields o.not_throw
    | _ =>
      rw [valueExpression] at yields
      obtain rfl := o.eq_of_pure yields
      simp [Names, parts, ownClasses, libraryClasses, classes_floating, whole, beanReference]

end
end Prewire.Registration
