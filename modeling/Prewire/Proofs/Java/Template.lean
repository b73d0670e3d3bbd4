import Prewire.Java.Code.Template
import Prewire.Proofs.Java.Code

/-! What templates stand for. A template that fits its arguments appends the code that it stands for to
whatever was written before, and so do steps one after the other. -/
namespace Prewire.Java

def Code.chars (cs : List Char) : Code := .text (String.ofList cs)

namespace Template

/-- The code that the rest of a template stands for; there is none where it does not fit its
arguments. -/
def meaning? : List Char → List Argument → Option Code
  | [], arguments => if arguments.isEmpty then some .empty else none
  | ['$'], _ => none
  | '$' :: letter :: rest, arguments =>
    match letter with
    | '$' => (meaning? rest arguments).map (Code.chars ['$'] ++ ·)
    | '>' => (meaning? rest arguments).map (Code.indent ++ ·)
    | '<' => (meaning? rest arguments).map (Code.unindent ++ ·)
    | letter =>
      match Placeholder.ofLetter? letter, arguments with
      | some placeholder, argument :: arguments =>
        (placeholder.bind? argument).bind fun bound => (meaning? rest arguments).map (bound ++ ·)
      | _, _ => none
  | c :: rest, arguments => (meaning? rest arguments).map (Code.chars [c] ++ ·)

end Template

def CodeStep.meaning? : CodeStep → Option Code
  | .add format arguments => Template.meaning? format.toList arguments
  | .statement format arguments =>
    (Template.meaning? format.toList arguments).map (· ++ Code.text ";\n")
  | .beginBlock format arguments =>
    (Template.meaning? format.toList arguments).map (· ++ (Code.text " \x7b\n" ++ Code.indent))
  | .endBlock => some (Code.unindent ++ Code.text "\x7d\n")
  | .indent => some .indent
  | .unindent => some .unindent
  | .append block => some block

def Code.ofSteps? : List CodeStep → Option Code
  | [] => some .empty
  | step :: steps => step.meaning?.bind fun first => (ofSteps? steps).map (first ++ ·)

namespace Code

theorem text_eq_chars (s : String) : text s = chars s.toList := by
  rw [chars, String.ofList_toList]

theorem chars_append (a b : List Char) : chars a ++ chars b = chars (a ++ b) := by
  rw [chars, chars, chars, text_append, String.ofList_append]

theorem chars_append_append (a b : List Char) (c : Code) :
    chars a ++ (chars b ++ c) = chars (a ++ b) ++ c := by
  rw [← append_assoc, chars_append]

theorem type_ne_empty (reference : JavaType) : type reference ≠ empty := by
  simp [type, empty]

theorem chars_eq_empty {cs : List Char} : chars cs = empty ↔ cs = [] := by
  cases cs <;> simp [chars, text, empty]

theorem text_push (s : String) (c : Char) : text (s.push c) = text s ++ chars [c] := by
  rw [text_eq_chars, String.toList_push, ← chars_append, ← text_eq_chars]

end Code

namespace Template

/-- Filling a template that fits appends what it stands for, after the text that is pending. -/
theorem fillFrom_of_meaning (format : String) {arguments : List Argument} {rest : List Char}
    {added : Code} (fits : meaning? rest arguments = some added) (code : Code) (pending : String) :
    fillFrom format code pending arguments rest = ⟨code ++ (Code.text pending ++ added), none⟩ := by
  fun_induction meaning? rest arguments generalizing code pending added with
  | case1 arguments spent =>
    obtain rfl := Option.some.inj fits
    rw [fillFrom, if_pos spent, Code.append_empty]
  | case2 | case3 | case8 => cases fits
  | case4 rest arguments ih =>
    obtain ⟨later, follows, rfl⟩ := Option.map_eq_some_iff.mp fits
    rw [fillFrom, ih follows, Code.text_push, Code.append_assoc]
  | case5 rest arguments ih | case6 rest arguments ih =>
    obtain ⟨later, follows, rfl⟩ := Option.map_eq_some_iff.mp fits
    rw [fillFrom, ih follows]
    simp [Code.text, Code.append_assoc]
  | case7 rest letter noDollar noIndent noUnindent placeholder argument arguments known ih =>
    obtain ⟨bound, binds, fits⟩ := Option.bind_eq_some_iff.mp fits
    obtain ⟨later, follows, rfl⟩ := Option.map_eq_some_iff.mp fits
    have opened : fillFrom format code pending (argument :: arguments) ('$' :: letter :: rest) =
        fillFrom format (code ++ Code.text pending ++ bound) "" arguments rest := by
      rw [fillFrom.eq_def]
      simp [known, binds]
    rw [opened, ih follows]
    simp [Code.text, Code.append_assoc]
  | case9 c rest arguments noEnd noLetter ih =>
    obtain ⟨later, follows, rfl⟩ := Option.map_eq_some_iff.mp fits
    rw [fillFrom, ih follows, Code.text_push, Code.append_assoc]
    · exact noEnd
    · exact noLetter

end Template

namespace Code

theorem apply_of_meaning {step : CodeStep} {added : Code} (fits : step.meaning? = some added)
    (code : Code) : code.apply step = ⟨code ++ added, none⟩ := by
  have filled {format : String} {arguments : List Argument} {added : Code}
      (fits : Template.meaning? format.toList arguments = some added) :
      code.add format arguments = ⟨code ++ added, none⟩ := by
    rw [add, Template.fillFrom_of_meaning format fits code ""]
    simp [text]
  cases step with
  | add format arguments => exact filled fits
  | statement format arguments | beginBlock format arguments =>
    obtain ⟨first, template, rfl⟩ := Option.map_eq_some_iff.mp fits
    simp [apply, filled template, append_assoc]
  | endBlock | indent | unindent | append block =>
    obtain rfl := Option.some.inj fits
    simp [apply, append_assoc]

/-- Steps that fit append the code that they stand for. -/
theorem applyAll_of_ofSteps {steps : List CodeStep} {added : Code} (fits : ofSteps? steps = some added)
    (code : Code) : code.applyAll steps = ⟨code ++ added, none⟩ := by
  induction steps generalizing code added with
  | nil =>
    obtain rfl := Option.some.inj fits
    rw [applyAll, append_empty]
  | cons step steps ih =>
    obtain ⟨first, one, fits⟩ := Option.bind_eq_some_iff.mp fits
    obtain ⟨later, others, rfl⟩ := Option.map_eq_some_iff.mp fits
    rw [applyAll, apply_of_meaning one]
    simp only [ih others, append_assoc]

theorem ofSteps_append {a b : List CodeStep} {first later : Code} (one : ofSteps? a = some first)
    (other : ofSteps? b = some later) : ofSteps? (a ++ b) = some (first ++ later) := by
  induction a generalizing first with
  | nil =>
    obtain rfl := Option.some.inj one
    exact other
  | cons step a ih =>
    obtain ⟨start, fits, rest⟩ := Option.bind_eq_some_iff.mp one
    obtain ⟨middle, follows, rfl⟩ := Option.map_eq_some_iff.mp rest
    simp [ofSteps?, fits, ih follows, append_assoc]

end Code
end Prewire.Java
