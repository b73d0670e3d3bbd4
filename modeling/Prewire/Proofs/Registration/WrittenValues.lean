import Mathlib.Data.List.Forall2
import Prewire.Proofs.Beans.Values
import Prewire.Proofs.Failure
import Prewire.Registration.ValueExpression

/-! How values are written. The elements of an array, a list or a set are written one by one, all for the
same type, and one expression takes them up. So whatever holds of written values is proved by induction
over elements, and the same for all that writes. -/
namespace Prewire.Registration

open Java Beans BeanValue

def collected : BeanValue → List Expression → Expression
  | .array component _, es => .createArray component.erasure es
  | .list _, [] => emptyCollection "emptyList"
  | .list _, e :: es => .staticCall Known.list "of" (e :: es)
  | .set _, [] => emptyCollection "emptySet"
  | .set _, e :: es => .staticCall Known.set "of" (e :: es)
  | _, _ => .nullLiteral

def elementTarget : BeanValue → Option JavaType → Option JavaType
  | .array component _, _ => some component
  | _, type => type.bind (·.arguments.head?)

section
variable {m : Type → Type} [Monad m] [LawfulMonad m] [MonadExceptOf Failure m]
variable {innerBean : BeanDefinition → m Expression} {v : BeanValue} {elements : List BeanValue}

theorem valueExpressions_eq_mapM (vs : List BeanValue) (type : Option JavaType) :
    valueExpressions innerBean vs type = vs.mapM (valueExpression innerBean · type) := by
  induction vs with
  | nil => rw [valueExpressions, List.mapM_nil]
  | cons v rest ih => rw [valueExpressions, List.mapM_cons, ih]

theorem valueExpression_of_elements (known : v.elements? = some elements) (type : Option JavaType) :
    valueExpression innerBean v type =
      elements.mapM (valueExpression innerBean · (elementTarget v type)) >>=
        fun es => pure (collected v es) := by
  cases v with
  | array component =>
    obtain rfl := Option.some.inj known
    rw [valueExpression, valueExpressions_eq_mapM]
    rfl
  | list elements | set elements =>
    obtain rfl := Option.some.inj known
    cases elements with
    | nil =>
      rw [valueExpression, List.mapM_nil, pure_bind]
      rfl
    | cons =>
      rw [valueExpression]
      · simp only [valueExpressions_eq_mapM, List.mapM_cons, bind_assoc, pure_bind]
        rfl
      · simp
  | _ => cases known

end

/-- What the actions of a writer come to where they succeed. -/
structure Outcome (m : Type → Type) [Monad m] [MonadExceptOf Failure m] where
  Yields : {α : Type} → m α → α → Prop
  eq_of_pure : ∀ {α : Type} {a b : α}, Yields (pure a) b → a = b
  of_bind : ∀ {α β : Type} {action : m α} {next : α → m β} {b : β},
    Yields (action >>= next) b → ∃ a, Yields action a ∧ Yields (next a) b
  not_throw : ∀ {α : Type} {failure : Failure} {a : α}, ¬ Yields (throw failure) a

namespace Outcome

def ofExcept : Outcome (Except Failure) where
  Yields result a := result = .ok a
  eq_of_pure := Except.ok.inj
  of_bind := eq_ok_of_bind
  not_throw := nofun

section
variable {m : Type → Type} [Monad m] [LawfulMonad m] [MonadExceptOf Failure m] (o : Outcome m)

/-- Where one action after another succeeds, each one yields its result. -/
theorem of_mapM {α β : Type} {action : α → m β} {list : List α} {results : List β}
    (yields : o.Yields (list.mapM action) results) :
    List.Forall₂ (fun a b => o.Yields (action a) b) list results := by
  induction list generalizing results with
  | nil =>
    obtain rfl := o.eq_of_pure yields
    exact .nil
  | cons a rest ih =>
    rw [List.mapM_cons] at yields
    obtain ⟨b, one, yields⟩ := o.of_bind yields
    obtain ⟨later, others, yields⟩ := o.of_bind yields
    obtain rfl := o.eq_of_pure yields
    exact .cons one (ih others)

variable {innerBean : BeanDefinition → m Expression} {v : BeanValue} {type : Option JavaType} {e : Expression}

theorem of_elements {elements : List BeanValue} (known : v.elements? = some elements)
    (yields : o.Yields (valueExpression innerBean v type) e) :
    ∃ es, List.Forall₂ (fun x e => o.Yields (valueExpression innerBean x (elementTarget v type)) e)
      elements es ∧ e = collected v es := by
  rw [valueExpression_of_elements known] at yields
  obtain ⟨es, written, yields⟩ := o.of_bind yields
  exact ⟨es, o.of_mapM written, (o.eq_of_pure yields).symm⟩

/-- Induction over written values. -/
theorem value_induction {motive : BeanValue → Option JavaType → Expression → Prop}
    (collection : ∀ v type elements es, v.elements? = some elements →
      List.Forall₂ (fun x e => motive x (elementTarget v type) e) elements es →
        motive v type (collected v es))
    (single : ∀ v type e, v.elements? = none → o.Yields (valueExpression innerBean v type) e →
      motive v type e)
    (yields : o.Yields (valueExpression innerBean v type) e) : motive v type e := by
  induction v using elements_induction generalizing type e with
  | collection v elements known ih =>
    obtain ⟨es, written, rfl⟩ := o.of_elements known yields
    have each := (List.forall₂_and_left elements es).mpr ⟨ih, written⟩
    exact collection v type elements es known (each.imp fun _ _ ⟨holds, one⟩ => holds one)
  | single v none => exact single v type e none yields

end
end Outcome
end Prewire.Registration
