import Prewire.Proofs.Java.NormalForm
import Prewire.Proofs.Java.Template

/-! What templates denote, said apart from how they are filled. A template is spelled by tokens, and its
placeholders take the arguments one by one. Filling fails exactly where that is not so, and code that is
put together by steps is the normal form of what the steps denote. -/
namespace Prewire.Java

open Code (Atom textAtoms)

namespace Template

/-- A word of a template: an ordinary character, or what follows a dollar sign. -/
inductive Token where
  | char (c : Char) (ordinary : c ≠ '$')
  | dollar
  | indent
  | unindent
  | placeholder (kind : Placeholder)
  deriving DecidableEq

namespace Token

def spelling : Token → List Char
  | char c _ => [c]
  | dollar => ['$', '$']
  | indent => ['$', '>']
  | unindent => ['$', '<']
  | placeholder kind => ['$', kind.letter]

def placeholder? : Token → Option Placeholder
  | placeholder kind => some kind
  | _ => none

end Token

def Spells (tokens : List Token) (format : String) : Prop :=
  tokens.flatMap Token.spelling = format.toList

/-- The arguments that may stand for a placeholder. -/
inductive Takes : Placeholder → Argument → Prop
  | type (reference : JavaType) : Takes .type (.type reference)
  | string (content : String) : Takes .string (.text content)
  | literalType (reference : JavaType) : Takes .literal (.type reference)
  | literalText (content : String) : Takes .literal (.text content)
  | literalCode (block : Code) : Takes .literal (.code block)
  | name (content : String) : Takes .name (.text content)

/-- The placeholders take the arguments one by one, and none is left over. -/
def Fits (tokens : List Token) (arguments : List Argument) : Prop :=
  List.Forall₂ Takes (tokens.filterMap Token.placeholder?) arguments

/-- What an argument stands for, whatever characters it has. -/
def argumentAtoms : Argument → List Atom
  | .type reference => [.type reference]
  | .text content => textAtoms content
  | .code block => block.atoms

/-- Only a string is quoted; any other argument stands for itself. -/
def placeholderAtoms : Placeholder → Argument → List Atom
  | .string, .text content => textAtoms (Literal.string content)
  | _, argument => argumentAtoms argument

/-- The pieces that tokens denote with arguments that fit. -/
def denotation : List Token → List Argument → List Atom
  | .char c _ :: tokens, arguments => .char c :: denotation tokens arguments
  | .dollar :: tokens, arguments => .char '$' :: denotation tokens arguments
  | .indent :: tokens, arguments => .indent :: denotation tokens arguments
  | .unindent :: tokens, arguments => .unindent :: denotation tokens arguments
  | .placeholder kind :: tokens, argument :: arguments =>
    placeholderAtoms kind argument ++ denotation tokens arguments
  | _, _ => []

end Template

def CodeStep.blocks : CodeStep → List Code
  | .add _ arguments | .statement _ arguments | .beginBlock _ arguments =>
    arguments.filterMap fun
      | .code block => some block
      | _ => none
  | .append block => [block]
  | .endBlock | .indent | .unindent => []

/-- The pieces that a step denotes. -/
inductive CodeStep.Denotes : CodeStep → List Atom → Prop
  | add {tokens : List Template.Token} {format : String} {arguments : List Argument}
    (spelled : Template.Spells tokens format) (fits : Template.Fits tokens arguments) :
    Denotes (.add format arguments) (Template.denotation tokens arguments)
  | statement {tokens : List Template.Token} {format : String} {arguments : List Argument}
    (spelled : Template.Spells tokens format) (fits : Template.Fits tokens arguments) :
    Denotes (.statement format arguments) (Template.denotation tokens arguments ++ textAtoms ";\n")
  | beginBlock {tokens : List Template.Token} {format : String} {arguments : List Argument}
    (spelled : Template.Spells tokens format) (fits : Template.Fits tokens arguments) :
    Denotes (.beginBlock format arguments)
      (Template.denotation tokens arguments ++ textAtoms " \x7b\n" ++ [.indent])
  | endBlock : Denotes .endBlock (.unindent :: textAtoms "\x7d\n")
  | indent : Denotes .indent [.indent]
  | unindent : Denotes .unindent [.unindent]
  | append (block : Code) : Denotes (.append block) block.atoms

/-- The code that there can be: nothing, what steps make of it, and fragments that are joined. The
fragments that a step or a join is given are such code as well. -/
inductive Code.IsBuilt : Code → Prop
  | empty : IsBuilt .empty
  | step {code after : Code} (step : CodeStep) (built : IsBuilt code)
    (blocks : ∀ block ∈ step.blocks, IsBuilt block) (applied : code.apply step = ⟨after, none⟩) :
    IsBuilt after
  | join (separator : String) {blocks : List Code} (built : ∀ block ∈ blocks, IsBuilt block) :
    IsBuilt (.join separator blocks)

namespace Template

variable {tokens : List Token} {arguments : List Argument} {format : String} {rest : List Char}

theorem atoms_chars (c : Char) : (Code.chars [c]).atoms = [.char c] := by
  simp [Code.chars, textAtoms]

theorem letter_of_ofLetter {letter : Char} {kind : Placeholder}
    (known : Placeholder.ofLetter? letter = some kind) : kind.letter = letter := by
  rw [Placeholder.ofLetter?.eq_def] at known
  split at known <;> first | (obtain rfl := Option.some.inj known; rfl) | cases known

theorem takes_iff_bind {kind : Placeholder} {argument : Argument} :
    Takes kind argument ↔ ∃ bound, kind.bind? argument = some bound := by
  constructor
  · rintro (_ | _ | _ | _ | _ | _) <;> exact ⟨_, rfl⟩
  · rintro ⟨bound, binds⟩
    cases kind <;> cases argument <;> first | constructor | cases binds

theorem atoms_of_bind {kind : Placeholder} {argument : Argument} {bound : Code}
    (binds : kind.bind? argument = some bound) : bound.atoms = placeholderAtoms kind argument := by
  cases kind <;> cases argument <;>
    first
      | (obtain rfl := Option.some.inj binds; simp [placeholderAtoms, argumentAtoms])
      | cases binds

/-- Tokens that fit their arguments have a meaning, and its pieces are what they denote. -/
theorem meaning_of_fits (fits : Fits tokens arguments) :
    ∃ added, meaning? (tokens.flatMap Token.spelling) arguments = some added ∧
      added.atoms = denotation tokens arguments := by
  induction tokens generalizing arguments with
  | nil =>
    cases fits
    exact ⟨.empty, rfl, rfl⟩
  | cons token tokens ih =>
    cases token with
    | char c ordinary =>
      obtain ⟨later, follows, atoms⟩ := ih fits
      refine ⟨Code.chars [c] ++ later, ?_, ?_⟩
      · rw [List.flatMap_cons, Token.spelling, List.singleton_append, meaning?, follows]
        · rfl
        · rintro rfl
          exact absurd rfl ordinary
        · rintro _ _ rfl
          exact absurd rfl ordinary
      · rw [Code.atoms_append, atoms_chars, atoms]
        rfl
    | dollar | indent | unindent =>
      obtain ⟨later, follows, atoms⟩ := ih fits
      refine ⟨_, congrArg (Option.map _) follows, ?_⟩
      rw [Code.atoms_append, atoms]
      rfl
    | placeholder kind =>
      cases fits with
      | @cons _ argument _ arguments takes others =>
        obtain ⟨bound, binds⟩ := takes_iff_bind.mp takes
        obtain ⟨later, follows, atoms⟩ := ih others
        refine ⟨bound ++ later, ?_, ?_⟩
        · cases kind <;>
            simp [Token.spelling, Placeholder.letter, meaning?, Placeholder.ofLetter?, binds, follows]
        · rw [Code.atoms_append, atoms_of_bind binds, atoms]
          rfl

/-- What has a meaning is spelled by tokens that fit the arguments. -/
theorem fits_of_meaning {added : Code} (fits : meaning? rest arguments = some added) :
    ∃ tokens, tokens.flatMap Token.spelling = rest ∧ Fits tokens arguments := by
  fun_induction meaning? rest arguments generalizing added with
  | case1 arguments spent =>
    rw [List.isEmpty_iff.mp spent]
    exact ⟨[], rfl, .nil⟩
  | case2 | case3 | case8 => cases fits
  | case4 rest arguments ih =>
    obtain ⟨later, follows, -⟩ := Option.map_eq_some_iff.mp fits
    obtain ⟨tokens, rfl, others⟩ := ih follows
    exact ⟨.dollar :: tokens, rfl, others⟩
  | case5 rest arguments ih =>
    obtain ⟨later, follows, -⟩ := Option.map_eq_some_iff.mp fits
    obtain ⟨tokens, rfl, others⟩ := ih follows
    exact ⟨.indent :: tokens, rfl, others⟩
  | case6 rest arguments ih =>
    obtain ⟨later, follows, -⟩ := Option.map_eq_some_iff.mp fits
    obtain ⟨tokens, rfl, others⟩ := ih follows
    exact ⟨.unindent :: tokens, rfl, others⟩
  | case7 rest letter noDollar noIndent noUnindent kind argument arguments known ih =>
    obtain ⟨bound, binds, fits⟩ := Option.bind_eq_some_iff.mp fits
    obtain ⟨later, follows, -⟩ := Option.map_eq_some_iff.mp fits
    obtain ⟨tokens, rfl, others⟩ := ih follows
    refine ⟨.placeholder kind :: tokens, ?_, .cons (takes_iff_bind.mpr ⟨bound, binds⟩) others⟩
    rw [List.flatMap_cons, Token.spelling, letter_of_ofLetter known]
    rfl
  | case9 c rest arguments noEnd noLetter ih =>
    obtain ⟨later, follows, -⟩ := Option.map_eq_some_iff.mp fits
    obtain ⟨tokens, rfl, others⟩ := ih follows
    -- a dollar sign that is last or has a letter after it was a case of its own
    have ordinary : c ≠ '$' := by
      rintro rfl
      cases spelled : tokens.flatMap Token.spelling with
      | nil => exact noEnd rfl spelled
      | cons letter rest => exact noLetter letter rest rfl spelled
    exact ⟨.char c ordinary :: tokens, rfl, others⟩

/-- A template that was filled has a meaning. -/
theorem meaning_of_filled {code : Code} {pending : String}
    (filled : (fillFrom format code pending arguments rest).fault = none) :
    ∃ added, meaning? rest arguments = some added := by
  fun_induction fillFrom format code pending arguments rest with
  | case1 code pending arguments =>
    cases arguments with
    | nil => exact ⟨.empty, rfl⟩
    | cons argument arguments => cases filled
  | case2 | case6 | case7 | case9 => cases filled
  | case3 code pending arguments rest ih | case4 code pending arguments rest ih
  | case5 code pending arguments rest ih =>
    obtain ⟨added, follows⟩ := ih filled
    exact ⟨_, congrArg (Option.map _) follows⟩
  | case8 code pending rest letter noDollar noIndent noUnindent kind argument arguments known bound binds
      ih =>
    obtain ⟨added, follows⟩ := ih filled
    rw [meaning?.eq_def]
    simp [known, binds, follows]
  | case10 code pending arguments c rest noEnd noLetter ih =>
    obtain ⟨added, follows⟩ := ih filled
    rw [meaning?, follows]
    · exact ⟨_, rfl⟩
    · exact noEnd
    · exact noLetter

end Template

namespace Code

variable {code after : Code} {steps : List CodeStep}

theorem add_of_fits {format : String} {tokens : List Template.Token} {arguments : List Argument}
    (spelled : Template.Spells tokens format) (fits : Template.Fits tokens arguments) (code : Code) :
    ∃ added, code.add format arguments = ⟨code ++ added, none⟩ ∧
      added.atoms = Template.denotation tokens arguments := by
  obtain ⟨added, means, atoms⟩ := Template.meaning_of_fits fits
  rw [Template.Spells] at spelled
  rw [spelled] at means
  have fills : (CodeStep.add format arguments).meaning? = some added := means
  exact ⟨added, apply_of_meaning fills code, atoms⟩

theorem fits_of_add {format : String} {arguments : List Argument}
    (filled : (code.add format arguments).fault = none) :
    ∃ tokens, Template.Spells tokens format ∧ Template.Fits tokens arguments := by
  obtain ⟨added, means⟩ := Template.meaning_of_filled filled
  exact Template.fits_of_meaning means

/-- A step that succeeds stands for some code, whatever was written before. -/
theorem meaning_of_apply {step : CodeStep} (applied : code.apply step = ⟨after, none⟩) :
    ∃ added, step.meaning? = some added := by
  cases step with
  | add format arguments => exact Template.meaning_of_filled (congrArg Filled.fault applied)
  | statement format arguments | beginBlock format arguments =>
    have filled : (code.add format arguments).fault = none := by
      rw [apply] at applied
      split at applied
      · next filled => rw [filled]
      · exact congrArg Filled.fault applied
    obtain ⟨added, means⟩ := Template.meaning_of_filled filled
    exact ⟨_, congrArg (Option.map _) means⟩
  | endBlock | indent | unindent | append block => exact ⟨_, rfl⟩

theorem ofSteps_of_applyAll (applied : code.applyAll steps = ⟨after, none⟩) :
    ∃ added, ofSteps? steps = some added := by
  induction steps generalizing code with
  | nil => exact ⟨.empty, rfl⟩
  | cons step steps ih =>
    rcases taken : code.apply step with ⟨next, _ | fault⟩
    · simp only [applyAll, taken] at applied
      obtain ⟨first, means⟩ := meaning_of_apply taken
      obtain ⟨later, follows⟩ := ih applied
      exact ⟨first ++ later, by simp [ofSteps?, means, follows]⟩
    · simp [applyAll, taken] at applied

theorem denotes_of_meaning {step : CodeStep} {added : Code} (means : step.meaning? = some added) :
    step.Denotes added.atoms := by
  have template {format : String} {arguments : List Argument} {added : Code}
      (means : Template.meaning? format.toList arguments = some added) :
      ∃ tokens, Template.Spells tokens format ∧ Template.Fits tokens arguments ∧
        added.atoms = Template.denotation tokens arguments := by
    obtain ⟨tokens, spelled, fits⟩ := Template.fits_of_meaning means
    obtain ⟨same, again, atoms⟩ := Template.meaning_of_fits fits
    rw [spelled, means] at again
    obtain rfl := Option.some.inj again
    exact ⟨tokens, spelled, fits, atoms⟩
  cases step with
  | add format arguments =>
    obtain ⟨tokens, spelled, fits, atoms⟩ := template means
    rw [atoms]
    exact .add spelled fits
  | statement format arguments =>
    obtain ⟨first, filled, rfl⟩ := Option.map_eq_some_iff.mp means
    obtain ⟨tokens, spelled, fits, atoms⟩ := template filled
    rw [atoms_append, atoms, atoms_text]
    exact .statement spelled fits
  | beginBlock format arguments =>
    obtain ⟨first, filled, rfl⟩ := Option.map_eq_some_iff.mp means
    obtain ⟨tokens, spelled, fits, atoms⟩ := template filled
    rw [atoms_append, atoms_append, atoms, atoms_text, atoms_indent, ← List.append_assoc]
    exact .beginBlock spelled fits
  | endBlock | indent | unindent | append block =>
    obtain rfl := Option.some.inj means
    constructor

/-- A placeholder stands for nothing but the fragments that it is given, texts and types. -/
theorem isNormal_of_bind {kind : Placeholder} {argument : Argument} {bound : Code}
    (normal : ∀ block, argument = .code block → block.IsNormal)
    (binds : kind.bind? argument = some bound) : bound.IsNormal := by
  cases kind <;> cases argument <;>
    first
      | (obtain rfl := Option.some.inj binds; first | exact normal _ rfl | simp)
      | cases binds

theorem isNormal_of_template {rest : List Char} {arguments : List Argument} {added : Code}
    (normal : ∀ block, .code block ∈ arguments → block.IsNormal)
    (means : Template.meaning? rest arguments = some added) : added.IsNormal := by
  fun_induction Template.meaning? rest arguments generalizing added with
  | case1 arguments spent =>
    obtain rfl := Option.some.inj means
    exact isNormal_empty
  | case2 | case3 | case8 => cases means
  | case4 rest arguments ih | case9 c rest arguments noEnd noLetter ih =>
    obtain ⟨later, follows, rfl⟩ := Option.map_eq_some_iff.mp means
    exact (isNormal_text _).append (ih normal follows)
  | case5 rest arguments ih =>
    obtain ⟨later, follows, rfl⟩ := Option.map_eq_some_iff.mp means
    exact isNormal_indent.append (ih normal follows)
  | case6 rest arguments ih =>
    obtain ⟨later, follows, rfl⟩ := Option.map_eq_some_iff.mp means
    exact isNormal_unindent.append (ih normal follows)
  | case7 rest letter noDollar noIndent noUnindent kind argument arguments known ih =>
    obtain ⟨bound, binds, fits⟩ := Option.bind_eq_some_iff.mp means
    obtain ⟨later, follows, rfl⟩ := Option.map_eq_some_iff.mp fits
    refine (isNormal_of_bind (fun block is => normal block (is ▸ List.mem_cons_self)) binds).append ?_
    exact ih (fun block member => normal block (List.mem_cons_of_mem _ member)) follows

theorem isNormal_of_meaning {step : CodeStep} {added : Code}
    (normal : ∀ block ∈ step.blocks, block.IsNormal) (means : step.meaning? = some added) :
    added.IsNormal := by
  have template (format : String) (arguments : List Argument) {added : Code}
      (normal : ∀ block ∈ (CodeStep.add format arguments).blocks, block.IsNormal)
      (means : Template.meaning? format.toList arguments = some added) : added.IsNormal :=
    isNormal_of_template
      (fun block member => normal block (List.mem_filterMap.mpr ⟨_, member, rfl⟩)) means
  cases step with
  | add format arguments => exact template format arguments normal means
  | statement format arguments =>
    obtain ⟨first, filled, rfl⟩ := Option.map_eq_some_iff.mp means
    exact (template format arguments normal filled).append (isNormal_text _)
  | beginBlock format arguments =>
    obtain ⟨first, filled, rfl⟩ := Option.map_eq_some_iff.mp means
    exact (template format arguments normal filled).append ((isNormal_text _).append isNormal_indent)
  | endBlock =>
    obtain rfl := Option.some.inj means
    exact isNormal_unindent.append (isNormal_text _)
  | indent | unindent =>
    obtain rfl := Option.some.inj means
    simp
  | append block =>
    obtain rfl := Option.some.inj means
    exact normal block (List.mem_singleton_self block)

/-- Code that is put together by steps and joins is in normal form. -/
theorem IsBuilt.isNormal (built : code.IsBuilt) : code.IsNormal := by
  induction built with
  | empty => exact isNormal_empty
  | step step built blocks applied normal normals =>
    obtain ⟨added, means⟩ := meaning_of_apply applied
    rw [apply_of_meaning means] at applied
    obtain rfl := congrArg Filled.code applied
    exact normal.append (isNormal_of_meaning normals means)
  | join separator built normals => exact isNormal_join separator normals

/-- A run of steps leaves built code, and its pieces are those of the steps. -/
theorem isBuilt_applyAll (built : code.IsBuilt)
    (blocks : ∀ step ∈ steps, ∀ block ∈ step.blocks, block.IsBuilt)
    (applied : code.applyAll steps = ⟨after, none⟩) :
    after.IsBuilt ∧ ∃ pieces, List.Forall₂ CodeStep.Denotes steps pieces ∧
      after.atoms = code.atoms ++ pieces.flatten := by
  induction steps generalizing code with
  | nil =>
    obtain rfl := congrArg Filled.code applied
    exact ⟨built, [], .nil, by simp [applyAll]⟩
  | cons step steps ih =>
    obtain ⟨given, others⟩ := List.forall_mem_cons.mp blocks
    rcases taken : code.apply step with ⟨next, _ | fault⟩
    · simp only [applyAll, taken] at applied
      obtain ⟨first, means⟩ := meaning_of_apply taken
      obtain ⟨done, pieces, denote, atoms⟩ := ih (.step step built given taken) others applied
      refine ⟨done, first.atoms :: pieces, .cons (denotes_of_meaning means) denote, ?_⟩
      rw [apply_of_meaning means] at taken
      obtain rfl := congrArg Filled.code taken
      simp [atoms]
    · simp [applyAll, taken] at applied

theorem ofSteps_split {a b : List CodeStep} {added : Code} (fits : ofSteps? (a ++ b) = some added) :
    ∃ first later, ofSteps? a = some first ∧ ofSteps? b = some later ∧ added = first ++ later := by
  induction a generalizing added with
  | nil => exact ⟨.empty, added, rfl, fits, rfl⟩
  | cons step a ih =>
    obtain ⟨start, means, rest⟩ := Option.bind_eq_some_iff.mp fits
    obtain ⟨others, follows, rfl⟩ := Option.map_eq_some_iff.mp rest
    obtain ⟨middle, later, one, two, rfl⟩ := ih follows
    exact ⟨start ++ middle, later, by simp [ofSteps?, means, one], two, (append_assoc ..).symm⟩

def grouped (group : List CodeStep) : CodeStep := .append (empty.applyAll group).code

theorem ofSteps_grouped {groups : List (List CodeStep)} {added : Code}
    (fits : ofSteps? groups.flatten = some added) : ofSteps? (groups.map grouped) = some added := by
  induction groups generalizing added with
  | nil => exact fits
  | cons group groups ih =>
    obtain ⟨first, later, one, others, rfl⟩ := ofSteps_split fits
    simp [ofSteps?, grouped, CodeStep.meaning?, applyAll_of_ofSteps one, ih others]

/-- A template is filled exactly where tokens spell it that fit the arguments, and what they denote is
appended. Whatever is put together by steps and joins is the one normal form of the pieces that its
steps denote, so steps may be grouped in any way. -/
theorem templates_denotation :
    (∀ (code : Code) (format : String) (arguments : List Argument),
      ((code.add format arguments).fault = none ↔
        ∃ tokens, Template.Spells tokens format ∧ Template.Fits tokens arguments) ∧
      ∀ tokens, Template.Spells tokens format → Template.Fits tokens arguments →
        (code.add format arguments).code.atoms = code.atoms ++ Template.denotation tokens arguments) ∧
    (∀ (code after : Code) (steps : List CodeStep), code.IsBuilt →
      (∀ step ∈ steps, ∀ block ∈ step.blocks, block.IsBuilt) → code.applyAll steps = ⟨after, none⟩ →
      after.IsBuilt ∧ ∃ pieces, List.Forall₂ CodeStep.Denotes steps pieces ∧
        ∀ other, other.IsNormal ∧ other.atoms = code.atoms ++ pieces.flatten ↔ other = after) ∧
    (∀ (separator : String) (blocks : List Code), (∀ block ∈ blocks, block.IsBuilt) →
      ∀ other, other.IsNormal ∧ other.atoms = (textAtoms separator).intercalate (blocks.map atoms) ↔
        other = join separator blocks) ∧
    (∀ (code after : Code) (groups : List (List CodeStep)),
      code.applyAll groups.flatten = ⟨after, none⟩ →
      code.applyAll (groups.map grouped) = ⟨after, none⟩) := by
  have unique {after : Code} {atoms : List Atom} (normal : after.IsNormal) (has : after.atoms = atoms)
      (other : Code) : other.IsNormal ∧ other.atoms = atoms ↔ other = after := by
    rw [isNormal_iff_eq_ofAtoms, ← has, normal.ofAtoms_atoms]
  refine ⟨fun code format arguments => ⟨⟨fits_of_add, ?_⟩, ?_⟩, ?_, ?_, ?_⟩
  · rintro ⟨tokens, spelled, fits⟩
    obtain ⟨added, filled, -⟩ := add_of_fits spelled fits code
    rw [filled]
  · intro tokens spelled fits
    obtain ⟨added, filled, atoms⟩ := add_of_fits spelled fits code
    rw [filled, atoms_append, atoms]
  · intro code after steps built blocks applied
    obtain ⟨done, pieces, denote, atoms⟩ := isBuilt_applyAll built blocks applied
    exact ⟨done, pieces, denote, unique done.isNormal atoms⟩
  · intro separator blocks built
    exact unique (isNormal_join separator fun block member => (built block member).isNormal)
      (atoms_join separator blocks)
  · intro code after groups applied
    obtain ⟨added, fits⟩ := ofSteps_of_applyAll applied
    rw [applyAll_of_ofSteps fits] at applied
    rw [applyAll_of_ofSteps (ofSteps_grouped fits), applied]

namespace DenotationSample

def tokens : List Template.Token :=
  [.placeholder .type, .char ' ' (by decide), .placeholder .name, .dollar]

def arguments : List Argument := [.type (.primitive .int), .text "a$Tb"]

def opening : List CodeStep := [.beginBlock "$T $N$$" arguments, .statement "return $S" [.text "\n"]]

def closing : List CodeStep := [.endBlock, .add "$L" [.code (.text "next")]]

end DenotationSample

open DenotationSample in
theorem templates_denotation_verbatim :
    (empty.add "$T $N$$" arguments).fault = none ∧
    (empty.add "$T $N$$" arguments).code.atoms = .type (.primitive .int) :: textAtoms " a$Tb$" ∧
    (∃ after, empty.applyAll (opening ++ closing) = ⟨after, none⟩ ∧
      (∃ pieces, List.Forall₂ CodeStep.Denotes (opening ++ closing) pieces ∧
        after.atoms = pieces.flatten) ∧
      empty.applyAll [grouped opening, grouped closing] = ⟨after, none⟩) ∧
    (∀ other, other.IsNormal ∧ other.atoms = textAtoms ", " ↔ other = join ", " [empty, empty]) := by
  obtain ⟨filled, run, joined, grouping⟩ := templates_denotation
  have spelled : Template.Spells tokens "$T $N$$" := rfl
  have fits : Template.Fits tokens arguments := .cons (.type _) (.cons (.name _) .nil)
  have blocks : ∀ step ∈ opening ++ closing, ∀ block ∈ step.blocks, block.IsBuilt := by
    have next : (text "next").IsBuilt :=
      .step (.add "next" []) .empty nofun (by decide +kernel)
    simp [opening, closing, arguments, CodeStep.blocks, next]
  have applied : empty.applyAll (opening ++ closing) =
      ⟨(empty.applyAll (opening ++ closing)).code, none⟩ := by decide +kernel
  obtain ⟨-, pieces, denote, unique⟩ := run empty _ _ .empty blocks applied
  refine ⟨(filled empty "$T $N$$" arguments).1.mpr ⟨tokens, spelled, fits⟩, ?_, ?_, ?_⟩
  · rw [(filled empty "$T $N$$" arguments).2 tokens spelled fits]
    rfl
  · exact ⟨_, applied, ⟨pieces, denote, ((unique _).mpr rfl).2⟩,
      grouping empty _ [opening, closing] applied⟩
  · exact joined ", " [empty, empty] (by simpa using Code.IsBuilt.empty)

end Code
end Prewire.Java
