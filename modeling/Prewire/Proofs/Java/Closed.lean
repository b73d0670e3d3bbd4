import Mathlib.Data.List.Basic
import Mathlib.Data.List.Induction
import Prewire.Proofs.Java.Code

/-! Code in which no type variable occurs. Whether it is closed is decided by the types that it names,
so it is closed when all that it is put together from is. -/
namespace Prewire.Java

def JavaType.IsClosed (type : JavaType) : Prop := type.mentionsVariable = false

namespace JavaType

instance (type : JavaType) : Decidable type.IsClosed :=
  inferInstanceAs (Decidable (type.mentionsVariable = false))

@[simp] theorem closed_ofClass (name : ClassName) : (ofClass name).IsClosed := rfl

theorem closed_array {component : JavaType} : (array component).IsClosed ↔ component.IsClosed := by
  rw [IsClosed, mentionsVariable]
  rfl

/-- Without type arguments a variable remains only where the type is one, or an array of it. -/
theorem closed_erasure : ∀ {type : JavaType}, type.IsClosed → type.erasure.IsClosed
  | .primitive _, _ => rfl
  | .classType name _, _ => closed_ofClass name
  | .array _, closed => closed_array.mpr (closed_erasure (closed_array.mp closed))

end JavaType

namespace Code

def Part.type? : Part → Option JavaType
  | .type reference => some reference
  | _ => none

def types (code : Code) : List JavaType := code.parts.filterMap Part.type?

def IsClosed (code : Code) : Prop := ∀ type ∈ code.types, type.IsClosed

theorem types_append (a b : Code) : (a ++ b).types = a.types ++ b.types := by
  simp only [types, List.filterMap_eq_flatMap_toList]
  exact flatMap_joinParts (fun _ _ => rfl) a.parts b.parts

@[simp] theorem closed_append {a b : Code} : (a ++ b).IsClosed ↔ a.IsClosed ∧ b.IsClosed := by
  rw [IsClosed, types_append, List.forall_mem_append]
  rfl

@[simp] theorem closed_empty : empty.IsClosed := nofun

@[simp] theorem closed_text (content : String) : (text content).IsClosed := by
  rw [text]
  split
  · exact closed_empty
  · simp [IsClosed, types, Part.type?]

@[simp] theorem closed_type {reference : JavaType} : (type reference).IsClosed ↔ reference.IsClosed := by
  simp [IsClosed, types, type, Part.type?]

@[simp] theorem closed_indent : indent.IsClosed := nofun

@[simp] theorem closed_unindent : unindent.IsClosed := nofun

theorem closed_concat {blocks : List Code} :
    (concat blocks).IsClosed ↔ ∀ block ∈ blocks, block.IsClosed := by
  induction blocks using List.reverseRecOn with
  | nil => simp [concat]
  | append_singleton blocks last ih => simp [concat_concat, ih, or_imp, forall_and]

end Code

theorem closed_restCode {separator : String} {expressions : List Expression} :
    (restCode separator expressions).IsClosed ↔ ∀ e ∈ expressions, e.code.IsClosed := by
  induction expressions with
  | nil => simp [restCode]
  | cons e rest ih => simp [restCode, ih]

@[simp] theorem closed_argumentsCode {separator : String} {expressions : List Expression} :
    (argumentsCode separator expressions).IsClosed ↔ ∀ e ∈ expressions, e.code.IsClosed := by
  cases expressions with
  | nil => simp [argumentsCode]
  | cons e rest => simp [argumentsCode, closed_restCode]

@[simp] theorem closed_callsCode {calls : List Call} :
    (callsCode calls).IsClosed ↔ ∀ call ∈ calls, ∀ e ∈ call.arguments, e.code.IsClosed := by
  induction calls with
  | nil => simp [callsCode]
  | cons call rest ih =>
    cases call
    simp [callsCode, ih]

@[simp] theorem closed_statementsCode {statements : List Statement} :
    (statementsCode statements).IsClosed ↔ ∀ s ∈ statements, s.code.IsClosed := by
  induction statements with
  | nil => simp [statementsCode]
  | cons s rest ih => simp [statementsCode, ih]

@[simp] theorem closed_parameterList (parameters : List String) :
    (parameterList parameters).IsClosed := Code.closed_text _

@[simp] theorem closed_classOf (name : ClassName) : (Expression.classOf name).code.IsClosed := by
  simp [Expression.classOf]

@[simp] theorem closed_staticCall {name : ClassName} {method : String} {arguments : List Expression} :
    (Expression.staticCall name method arguments).code.IsClosed ↔
      ∀ e ∈ arguments, e.code.IsClosed := by
  simp [Expression.staticCall]

@[simp] theorem closed_call {receiver : Expression} {method : String} {arguments : List Expression} :
    (receiver.call method arguments).code.IsClosed ↔
      receiver.code.IsClosed ∧ ∀ e ∈ arguments, e.code.IsClosed := by
  simp [Expression.call]

end Prewire.Java
