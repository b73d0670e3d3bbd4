import Mathlib.Data.List.Induction
import Prewire.Java.Expression

/-! Fragments of code form a monoid, and the classes that a fragment names are those of its parts.
Both hold although texts that meet become one. Expressions and calls stand in the code of what they are
parts of. -/
namespace Prewire.Java

namespace Code

theorem joinParts_nil (a : List Part) : joinParts a [] = a := by
  induction a with
  | nil => rfl
  | cons p a ih => simp only [joinParts, ih]

/-- Only a last text can become one with what follows. -/
theorem joinParts_cons {p : Part} {a : List Part} (apart : a ≠ [] ∨ ∀ s, p ≠ .text s)
    (b : List Part) : joinParts (p :: a) b = p :: joinParts a b := by
  cases p <;> cases a <;> simp_all [joinParts]

theorem last_or_apart (p : Part) (a : List Part) :
    (a = [] ∧ ∃ s, p = .text s) ∨ (a ≠ [] ∨ ∀ s, p ≠ .text s) := by
  cases a <;> cases p <;> simp

theorem joinParts_ne_nil {a : List Part} (nonempty : a ≠ []) (b : List Part) :
    joinParts a b ≠ [] := by
  cases a with
  | nil => exact absurd rfl nonempty
  | cons p a =>
    rcases last_or_apart p a with ⟨rfl, s, rfl⟩ | apart
    · cases b with
      | nil => simp [joinParts]
      | cons q b => cases q <;> simp [joinParts]
    · simp [joinParts_cons apart]

theorem joinParts_text_assoc (s : String) (b c : List Part) :
    joinParts (joinParts [.text s] b) c = joinParts [.text s] (joinParts b c) := by
  cases b with
  | nil => rfl
  | cons q b =>
    cases q with
    | text t =>
      cases b with
      | nil =>
        cases c with
        | nil => rfl
        | cons r c => cases r <;> simp [joinParts, String.append_assoc]
      | cons r b => simp [joinParts]
    | _ => simp [joinParts]

theorem joinParts_assoc (a b c : List Part) :
    joinParts (joinParts a b) c = joinParts a (joinParts b c) := by
  induction a with
  | nil => rfl
  | cons p a ih =>
    rcases last_or_apart p a with ⟨rfl, s, rfl⟩ | apart
    · exact joinParts_text_assoc s b c
    · have apart' := apart.imp_left fun nonempty => joinParts_ne_nil nonempty b
      rw [joinParts_cons apart, joinParts_cons apart', joinParts_cons apart, ih]

theorem append_assoc (a b c : Code) : a ++ b ++ c = a ++ (b ++ c) :=
  congrArg Code.mk (joinParts_assoc a.parts b.parts c.parts)

@[simp] theorem empty_append (a : Code) : empty ++ a = a := rfl

@[simp] theorem append_empty (a : Code) : a ++ empty = a :=
  congrArg Code.mk (joinParts_nil a.parts)

theorem append_eq_empty {a b : Code} : a ++ b = empty ↔ a = empty ∧ b = empty := by
  constructor
  · intro nothing
    have none : joinParts a.parts b.parts = [] := congrArg parts nothing
    obtain ⟨first⟩ := a
    cases first with
    | nil => exact ⟨rfl, nothing⟩
    | cons p rest => exact absurd none (joinParts_ne_nil (List.cons_ne_nil p rest) b.parts)
  · rintro ⟨rfl, rfl⟩
    rfl

theorem isEmpty_iff {code : Code} : code.isEmpty ↔ code = empty := by
  obtain ⟨parts⟩ := code
  simp [isEmpty, empty]

theorem concat_concat (blocks : List Code) (last : Code) :
    concat (blocks ++ [last]) = concat blocks ++ last := by
  simp [concat]

theorem text_append (s t : String) : text s ++ text t = text (s ++ t) := by
  by_cases first : s = ""
  · simp [text, first]
  · by_cases second : t = ""
    · simp [text, second]
    · simp only [text, first, second, if_false, String.append_eq_empty_iff, false_and]
      rfl

theorem text_append_append (s t : String) (code : Code) :
    text s ++ (text t ++ code) = text (s ++ t) ++ code := by
  rw [← append_assoc, text_append]

/-- A type and a text after it are told apart. -/
theorem type_text_inj {a b : JavaType} {s t : String} (some : s ≠ "") (other : t ≠ "")
    (same : type a ++ text s = type b ++ text t) : a = b ∧ s = t := by
  simp only [text, some, other, if_false] at same
  have parts : [Part.type a, .text s] = [.type b, .text t] := congrArg Code.parts same
  simpa using parts

/-- The parts are one after the other, unless two texts meet. -/
theorem joinParts_cases (a b : List Part) : joinParts a b = a ++ b ∨
    ∃ first s t rest, a = first ++ [.text s] ∧ b = .text t :: rest ∧
      joinParts a b = first ++ .text (s ++ t) :: rest := by
  induction a with
  | nil => exact .inl rfl
  | cons p a ih =>
    rcases last_or_apart p a with ⟨rfl, s, rfl⟩ | apart
    · cases b with
      | nil => exact .inl rfl
      | cons q b =>
        cases q with
        | text t => exact .inr ⟨[], s, t, b, rfl, rfl, rfl⟩
        | _ => exact .inl rfl
    · rw [joinParts_cons apart]
      rcases ih with same | ⟨first, s, t, rest, rfl, rfl, joined⟩
      · exact .inl (by rw [same, List.cons_append])
      · exact .inr ⟨p :: first, s, t, rest, rfl, rfl, by rw [joined, List.cons_append]⟩

/-- What is read off the parts one after the other stays, if a text may be cut anywhere. -/
theorem flatMap_joinParts {β : Type} {g : Part → List β}
    (additive : ∀ s t, g (.text (s ++ t)) = g (.text s) ++ g (.text t)) (a b : List Part) :
    (joinParts a b).flatMap g = a.flatMap g ++ b.flatMap g := by
  rcases joinParts_cases a b with same | ⟨first, s, t, rest, rfl, rfl, joined⟩
  · rw [same, List.flatMap_append]
  · rw [joined]
    simp [additive]

@[simp] theorem classes_append (a b : Code) : (a ++ b).classes = a.classes ++ b.classes :=
  flatMap_joinParts (fun _ _ => rfl) a.parts b.parts

@[simp] theorem classes_empty : empty.classes = [] := rfl

@[simp] theorem classes_text (content : String) : (text content).classes = [] := by
  rw [text]
  split <;> rfl

@[simp] theorem classes_type (reference : JavaType) : (type reference).classes = reference.classes := by
  simp [type, classes, Part.classes]

@[simp] theorem classes_indent : indent.classes = [] := rfl

@[simp] theorem classes_unindent : unindent.classes = [] := rfl

end Code

attribute [simp] Expression.code Statement.code

def classesOfCode (expressions : List Expression) : List ClassName :=
  expressions.flatMap fun e => e.code.classes

@[simp] theorem classesOfCode_nil : classesOfCode [] = [] := rfl

@[simp] theorem classesOfCode_cons (e : Expression) (rest : List Expression) :
    classesOfCode (e :: rest) = e.code.classes ++ classesOfCode rest := rfl

theorem classes_restCode (separator : String) (expressions : List Expression) :
    (restCode separator expressions).classes = classesOfCode expressions := by
  induction expressions with
  | nil => simp [restCode]
  | cons e rest ih => simp [restCode, ih]

@[simp] theorem classes_argumentsCode (separator : String) (expressions : List Expression) :
    (argumentsCode separator expressions).classes = classesOfCode expressions := by
  cases expressions with
  | nil => simp [argumentsCode]
  | cons e rest => simp [argumentsCode, classes_restCode]

@[simp] theorem classes_callsCode (calls : List Call) :
    (callsCode calls).classes = calls.flatMap fun call => classesOfCode call.arguments := by
  induction calls with
  | nil => simp [callsCode]
  | cons call rest ih =>
    cases call
    simp [callsCode, ih]

@[simp] theorem classes_statementsCode (statements : List Statement) :
    (statementsCode statements).classes = statements.flatMap fun s => s.code.classes := by
  induction statements with
  | nil => simp [statementsCode]
  | cons s rest ih => simp [statementsCode, ih]

@[simp] theorem classes_parameterList (parameters : List String) :
    (parameterList parameters).classes = [] := Code.classes_text _

theorem classes_openChainCode (receiver : Expression) (calls : List Call) :
    (openChainCode receiver calls).classes =
      receiver.code.classes ++ calls.flatMap fun call => classesOfCode call.arguments := by
  simp [openChainCode]

theorem restCode_eq {separator : String} {es : List Expression} (nonempty : es ≠ []) :
    restCode separator es = Code.text separator ++ argumentsCode separator es := by
  cases es with
  | nil => exact absurd rfl nonempty
  | cons e rest => rw [restCode, argumentsCode, Code.append_assoc]

/-- Arguments are written as nothing only where there are none. -/
theorem isEmpty_argumentsCode {separator : String} {es : List Expression}
    (written : ∀ e ∈ es, e.code ≠ .empty) : (argumentsCode separator es).isEmpty = es.isEmpty := by
  cases es with
  | nil => rfl
  | cons e rest =>
    rw [Bool.eq_iff_iff, Code.isEmpty_iff, argumentsCode, Code.append_eq_empty]
    simp [written e List.mem_cons_self]

theorem join_codes (separator : String) : ∀ es : List Expression,
    Code.join separator (es.map Expression.code) = argumentsCode separator es
  | [] => rfl
  | [e] => (Code.append_empty e.code).symm
  | e :: next :: rest => by
    have later := join_codes separator (next :: rest)
    simp only [List.map_cons, Code.join, argumentsCode, restCode] at later ⊢
    rw [later, Code.append_assoc, Code.append_assoc]

theorem callsCode_append (first rest : List Call) :
    callsCode (first ++ rest) = callsCode first ++ callsCode rest := by
  induction first with
  | nil => rfl
  | cons call first ih =>
    obtain ⟨method, arguments⟩ := call
    rw [List.cons_append, callsCode, callsCode, ih]
    simp only [Code.append_assoc]

theorem statementsCode_append (first rest : List Statement) :
    statementsCode (first ++ rest) = statementsCode first ++ statementsCode rest := by
  induction first with
  | nil => rfl
  | cons s first ih => rw [List.cons_append, statementsCode, statementsCode, ih, Code.append_assoc]

theorem statementsCode_eq_concat (statements : List Statement) :
    statementsCode statements = Code.concat (statements.map Statement.code) := by
  induction statements using List.reverseRecOn with
  | nil => rfl
  | append_singleton statements s ih =>
    rw [statementsCode_append, List.map_append, List.map_singleton, Code.concat_concat, ih, statementsCode,
      statementsCode, Code.append_empty]

/-- The code of a chain goes on where that of its first call ends. -/
theorem code_brokenChain (receiver : Expression) (call : Call) (calls : List Call) :
    ∃ rest, (Statement.brokenChain receiver (call :: calls)).code =
      openChainCode receiver [call] ++ rest := by
  cases call
  refine ⟨callsCode calls ++ Code.text ";\n" ++ Code.unindent ++ Code.unindent, ?_⟩
  simp only [Statement.code, openChainCode, callsCode, Code.append_empty, Code.append_assoc]

/-- A fragment stands in a longer one. -/
def Code.Within (part whole : Code) : Prop := ∃ before after, whole = before ++ part ++ after

/-- A call as it is spelled, with commas between the arguments. -/
def Call.spelling (call : Call) : Code :=
  Code.text ("." ++ call.method ++ "(") ++ Code.join ", " (call.arguments.map Expression.code)
    ++ Code.text ")"

section
variable {part whole : Code}

theorem Code.Within.refl (code : Code) : code.Within code :=
  ⟨.empty, .empty, by rw [Code.empty_append, Code.append_empty]⟩

theorem Code.Within.trans {between : Code} (inner : part.Within between)
    (outer : between.Within whole) : part.Within whole := by
  obtain ⟨before, after, rfl⟩ := inner
  obtain ⟨first, last, rfl⟩ := outer
  exact ⟨first ++ before, after ++ last, by simp only [Code.append_assoc]⟩

theorem Code.Within.append_left (within : part.Within whole) (code : Code) :
    part.Within (code ++ whole) := by
  obtain ⟨before, after, rfl⟩ := within
  exact ⟨code ++ before, after, by simp only [Code.append_assoc]⟩

theorem Code.Within.append_right (within : part.Within whole) (code : Code) :
    part.Within (whole ++ code) := by
  obtain ⟨before, after, rfl⟩ := within
  exact ⟨before, after ++ code, by simp only [Code.append_assoc]⟩

end

theorem callsCode_eq_concat (calls : List Call) :
    callsCode calls = Code.concat (calls.map Call.spelling) := by
  induction calls using List.reverseRecOn with
  | nil => rfl
  | append_singleton calls call ih =>
    obtain ⟨method, arguments⟩ := call
    rw [callsCode_append, List.map_append, List.map_singleton, Code.concat_concat, ih, callsCode,
      callsCode, Code.append_empty, Call.spelling, join_codes]

theorem within_chain (receiver : Expression) (calls : List Call) :
    (callsCode calls).Within (Expression.chain receiver calls).code := by
  rw [Expression.code]
  exact (Code.Within.refl _).append_left _

theorem within_brokenChain (receiver : Expression) (calls : List Call) :
    (callsCode calls).Within (Statement.brokenChain receiver calls).code := by
  rw [Statement.code]
  exact (((Code.Within.refl _).append_left _).append_right _ |>.append_right _).append_right _

theorem within_restCode {e : Expression} {es : List Expression} (listed : e ∈ es)
    (separator : String) : e.code.Within (restCode separator es) := by
  induction es with
  | nil => cases listed
  | cons first rest ih =>
    rw [restCode]
    rcases List.mem_cons.mp listed with rfl | later
    · exact ((Code.Within.refl _).append_left _).append_right _
    · exact (ih later).append_left _

theorem within_argumentsCode {e : Expression} {es : List Expression} (listed : e ∈ es)
    (separator : String) : e.code.Within (argumentsCode separator es) := by
  cases es with
  | nil => cases listed
  | cons first rest =>
    rw [argumentsCode]
    rcases List.mem_cons.mp listed with rfl | later
    · exact (Code.Within.refl _).append_right _
    · exact (within_restCode later separator).append_left _

end Prewire.Java
