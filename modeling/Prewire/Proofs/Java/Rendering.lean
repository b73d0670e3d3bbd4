import Prewire.Java.Layout
import Prewire.Proofs.Java.NormalForm
import Prewire.Proofs.Text.Split

/-! What writing code inserts. The text of the code comes out unchanged but for the indentation, which
stands at the first character of each line that has one, at the level of that character. Where texts
are cut makes no difference. -/
namespace Prewire.Java

open Code (Atom Part)

namespace Code

def Part.chars (style : Layout.Style) : Part → List Char
  | .text content => content.toList
  | .type reference => (Layout.typeText style reference).toList
  | .indent | .unindent => []

/-- The indents that are open after a part. -/
def Part.shift (level : Nat) : Part → Nat
  | .indent => level + 1
  | .unindent => level - 1
  | .text _ | .type _ => level

end Code

namespace Layout

/-- The characters that parts write, each with the indents that are open at it. -/
def levelled (style : Style) : Nat → List Part → List (Char × Nat)
  | _, [] => []
  | level, part :: parts =>
    (part.chars style).map (·, level) ++ levelled style (part.shift level) parts

/-- The lines of characters; there is always a last one. -/
def linesOf (characters : List (Char × Nat)) : List (List (Char × Nat)) :=
  characters.splitOnP (·.1 = '\n')

/-- The line with its indentation; an empty line has none. -/
def indentedLine (style : Style) : List (Char × Nat) → List Char
  | [] => []
  | (c, level) :: rest => (indentation style level).toList ++ c :: rest.map Prod.fst

/-- The lines with their indentation, the first of them only where a line begins. -/
def indentedLines (style : Style) (atLineStart : Bool) : List (List (Char × Nat)) → List (List Char)
  | [] => []
  | line :: lines =>
    (if atLineStart then indentedLine style line else line.map Prod.fst) ::
      lines.map (indentedLine style)

def breakLine (layout : Layout) : Layout :=
  { layout with written := layout.written.push '\n', atLineStart := true }

def writeLine (style : Style) (layout : Layout) (line : List Char) : Layout :=
  if line.isEmpty then layout
  else if layout.atLineStart then
    { layout with
      written := layout.written ++ indentation style layout.level ++ String.ofList line
      atLineStart := false }
  else { layout with written := layout.written ++ String.ofList line }

def writeCut (style : Style) (layout : Layout) : List (List Char) → Layout
  | [] => layout
  | line :: lines =>
    lines.foldl (fun layout line => layout.breakLine.writeLine style line) (layout.writeLine style line)

def writeAtom (style : Style) (layout : Layout) : Atom → Layout
  | .char c => layout.put style c
  | .type reference => layout.write style (typeText style reference)
  | .indent => layout.indent
  | .unindent => layout.unindent

def startsLine (atLineStart : Bool) (characters : List Char) : Bool :=
  characters.getLast?.elim atLineStart (· = '\n')

/-- The characters with the indentation, which goes before the next one that does not end a line. -/
def inserted (style : Style) : Bool → List (Char × Nat) → List Char
  | _, [] => []
  | atLineStart, (c, level) :: rest =>
    if c = '\n' then c :: inserted style true rest
    else if atLineStart then (indentation style level).toList ++ c :: inserted style false rest
    else c :: inserted style false rest

section
variable {style : Style} {layout : Layout} {parts : List Part} {c : Char} {cs : List Char}

theorem put_lineEnd : layout.put style '\n' = layout.breakLine := by
  rw [put, if_pos rfl, breakLine]

theorem put_eq_writeLine (within : c ≠ '\n') : layout.put style c = layout.writeLine style [c] := by
  simp [put, within, writeLine]

theorem writeLine_append {a b : List Char} (written : a ≠ []) :
    (layout.writeLine style a).writeLine style b = layout.writeLine style (a ++ b) := by
  cases b with
  | nil => simp [writeLine]
  | cons c b =>
    rcases layout with ⟨text, level, _ | _⟩ <;> simp [writeLine, written, String.append_assoc]

/-- A text is written line by line. -/
theorem write_eq_writeCut (text : String) :
    layout.write style text = layout.writeCut style (Text.splitChars '\n' text.toList) := by
  rw [write]
  induction text.toList generalizing layout with
  | nil => simp [Text.splitChars, writeCut, writeLine]
  | cons c cs ih =>
    by_cases lineEnd : c = '\n'
    · subst lineEnd
      rw [List.foldl_cons, put_lineEnd, ih, Text.splitChars_cons_sep]
      cases cut : Text.splitChars '\n' cs with
      | nil => exact absurd cut (Text.splitChars_ne_nil '\n' cs)
      | cons line lines => simp [writeCut, writeLine]
    · obtain ⟨line, lines, cut, first⟩ := Text.splitChars_cons lineEnd cs
      rw [List.foldl_cons, ih, put_eq_writeLine lineEnd, cut, first, writeCut, writeCut,
        writeLine_append (List.cons_ne_nil c []), List.singleton_append]

theorem writePart_eq_foldl (part : Part) :
    layout.writePart style part = part.atoms.foldl (writeAtom style) layout := by
  cases part with
  | text content => simp [writePart, write, Part.atoms, Code.textAtoms, List.foldl_map, writeAtom]
  | _ => rfl

/-- What code is written as is known by its pieces. -/
theorem writeCode_eq_foldl (code : Code) :
    layout.writeCode style code = code.atoms.foldl (writeAtom style) layout := by
  rw [writeCode, Code.atoms, List.foldl_flatMap]
  congr
  funext layout part
  exact writePart_eq_foldl part

theorem writeCode_append (style : Style) (layout : Layout) (a b : Code) :
    layout.writeCode style (a ++ b) = (layout.writeCode style a).writeCode style b := by
  rw [writeCode_eq_foldl, Code.atoms_append, List.foldl_append, writeCode_eq_foldl, writeCode_eq_foldl]

theorem startsLine_cons (atLineStart : Bool) (c : Char) (cs : List Char) :
    startsLine atLineStart (c :: cs) = startsLine (c = '\n') cs := by
  rw [startsLine, startsLine, List.getLast?_cons]
  cases cs.getLast? <;> rfl

theorem startsLine_append (atLineStart : Bool) (a b : List Char) :
    startsLine atLineStart (a ++ b) = startsLine (startsLine atLineStart a) b := by
  induction a generalizing atLineStart with
  | nil => rfl
  | cons c a ih => rw [List.cons_append, startsLine_cons, ih, startsLine_cons]

theorem inserted_append (atLineStart : Bool) (a b : List (Char × Nat)) :
    inserted style atLineStart (a ++ b) =
      inserted style atLineStart a ++ inserted style (startsLine atLineStart (a.map Prod.fst)) b := by
  induction a generalizing atLineStart with
  | nil => rfl
  | cons first a ih =>
    obtain ⟨c, level⟩ := first
    rw [List.cons_append, inserted, inserted, List.map_cons, startsLine_cons, ih, ih]
    by_cases lineEnd : c = '\n'
    · simp [lineEnd]
    · cases atLineStart <;> simp [lineEnd]

theorem put_inserted (c : Char) : layout.put style c =
    { layout with
      written := layout.written ++ String.ofList (inserted style layout.atLineStart [(c, layout.level)])
      atLineStart := c = '\n' } := by
  rcases layout with ⟨text, level, _ | _⟩ <;> by_cases lineEnd : c = '\n' <;>
    simp [put, inserted, lineEnd, ← String.toList_inj]

theorem foldl_put_inserted (cs : List Char) : cs.foldl (put style) layout =
    { layout with
      written := layout.written ++
        String.ofList (inserted style layout.atLineStart (cs.map (·, layout.level)))
      atLineStart := startsLine layout.atLineStart cs } := by
  induction cs generalizing layout with
  | nil => simp [inserted, startsLine]
  | cons c cs ih =>
    have first : inserted style layout.atLineStart ((c :: cs).map (·, layout.level)) =
        inserted style layout.atLineStart [(c, layout.level)] ++
          inserted style (c = '\n') (cs.map (·, layout.level)) :=
      inserted_append layout.atLineStart [(c, layout.level)] _
    rw [List.foldl_cons, ih, put_inserted, first]
    simp [startsLine_cons, String.append_assoc]

theorem writePart_inserted (part : Part) : layout.writePart style part =
    { written := layout.written ++
        String.ofList (inserted style layout.atLineStart ((part.chars style).map (·, layout.level)))
      level := part.shift layout.level
      atLineStart := startsLine layout.atLineStart (part.chars style) } := by
  cases part with
  | text content => exact foldl_put_inserted content.toList
  | type reference => exact foldl_put_inserted (typeText style reference).toList
  | indent | unindent =>
    simp [writePart, Layout.indent, Layout.unindent, Part.shift, Part.chars, inserted, startsLine]

/-- Code is written with the indentation inserted, whatever was written before. -/
theorem writeCode_inserted (style : Style) (layout : Layout) (parts : List Part) :
    layout.writeCode style ⟨parts⟩ =
      { written := layout.written ++
          String.ofList (inserted style layout.atLineStart (levelled style layout.level parts))
        level := parts.foldl (fun level part => part.shift level) layout.level
        atLineStart := startsLine layout.atLineStart (parts.flatMap (Part.chars style)) } := by
  induction parts generalizing layout with
  | nil => simp [writeCode, levelled, inserted, startsLine]
  | cons part parts ih =>
    have first : layout.writeCode style ⟨part :: parts⟩ =
        (layout.writePart style part).writeCode style ⟨parts⟩ := rfl
    rw [first, ih, writePart_inserted, levelled, inserted_append, List.flatMap_cons, startsLine_append]
    simp [Function.comp_def, String.append_assoc]

theorem map_fst_levelled (style : Style) (level : Nat) (parts : List Part) :
    (levelled style level parts).map Prod.fst = parts.flatMap (Part.chars style) := by
  induction parts generalizing level with
  | nil => rfl
  | cons part parts ih => simp [levelled, ih, Function.comp_def]

theorem intercalate_append_head (sep a line : List Char) (lines : List (List Char)) :
    sep.intercalate ((a ++ line) :: lines) = a ++ sep.intercalate (line :: lines) := by
  cases lines with
  | nil => simp
  | cons next lines => simp [List.intercalate_cons_cons]

/-- The inserted indentation is that of the lines. -/
theorem inserted_eq_lines (atLineStart : Bool) (characters : List (Char × Nat)) :
    inserted style atLineStart characters =
      ['\n'].intercalate (indentedLines style atLineStart (linesOf characters)) := by
  induction characters generalizing atLineStart with
  | nil => cases atLineStart <;> simp [inserted, linesOf, indentedLines, indentedLine]
  | cons first rest ih =>
    obtain ⟨c, level⟩ := first
    rw [linesOf] at ih
    rw [inserted, linesOf, List.splitOnP_cons_eq_if_modifyHead]
    cases cut : rest.splitOnP (·.1 = '\n') with
    | nil => exact absurd cut (List.splitOnP_ne_nil _ rest)
    | cons line lines =>
      by_cases lineEnd : c = '\n'
      · simp [lineEnd, ih, cut, indentedLines, indentedLine, List.intercalate_cons_cons]
      · cases atLineStart <;>
          simp [lineEnd, ih, cut, indentedLines, indentedLine, intercalate_append_head]

theorem not_mem_linesOf {characters line : List (Char × Nat)} (member : line ∈ linesOf characters) :
    ∀ c ∈ line, c.1 ≠ '\n' := by
  induction characters generalizing line with
  | nil => simp_all [linesOf]
  | cons first rest ih =>
    rw [linesOf] at ih
    rw [linesOf, List.splitOnP_cons_eq_if_modifyHead] at member
    cases cut : rest.splitOnP (·.1 = '\n') with
    | nil => exact absurd cut (List.splitOnP_ne_nil _ rest)
    | cons next lines =>
      rw [cut] at ih member
      split at member
      · rcases List.mem_cons.mp member with rfl | member
        · exact nofun
        · exact ih member
      · next within =>
        rcases List.mem_cons.mp member with rfl | member
        · exact List.forall_mem_cons.mpr ⟨by simpa using within, ih List.mem_cons_self⟩
        · exact ih (List.mem_cons_of_mem _ member)

/-- Indentation without line ends leaves the lines apart. -/
theorem not_mem_indentedLine (flat : '\n' ∉ style.unit.toList) {line : List (Char × Nat)}
    (whole : ∀ c ∈ line, c.1 ≠ '\n') : '\n' ∉ indentedLine style line := by
  cases line with
  | nil => exact List.not_mem_nil
  | cons first rest =>
    obtain ⟨c, level⟩ := first
    have within : '\n' ∉ ((c, level) :: rest).map Prod.fst := fun member => by
      obtain ⟨c, one, lineEnd⟩ := List.mem_map.mp member
      exact whole c one lineEnd
    intro member
    rcases List.mem_append.mp member with indents | member
    · have copied : ¬ level = 0 ∧ '\n' ∈ style.unit.toList := by
        simpa [indentation, String.toList_join] using indents
      exact flat copied.2
    · exact within member

theorem splitChars_written (flat : '\n' ∉ style.unit.toList) (characters : List (Char × Nat)) :
    Text.splitChars '\n' (['\n'].intercalate ((linesOf characters).map (indentedLine style))) =
      (linesOf characters).map (indentedLine style) := by
  refine Text.splitChars_intercalate (List.map_eq_nil_iff.not.mpr (List.splitOnP_ne_nil _ characters)) ?_
  intro piece member
  obtain ⟨line, one, rfl⟩ := List.mem_map.mp member
  exact not_mem_indentedLine flat (not_mem_linesOf one)

/-- Rendering inserts the indentation of each line at its first character, and nothing else. An empty
line stays empty, how texts are cut makes no difference, and a text is written line by line. -/
theorem writeCode_indents (style : Style) (parts : List Part) :
    (levelled style 0 parts).map Prod.fst = parts.flatMap (Part.chars style) ∧
    (writeCode style {} ⟨parts⟩).written = String.ofList
      (['\n'].intercalate ((linesOf (levelled style 0 parts)).map (indentedLine style))) ∧
    ('\n' ∉ style.unit.toList →
      Text.splitChars '\n' (writeCode style {} ⟨parts⟩).written.toList =
        (linesOf (levelled style 0 parts)).map (indentedLine style)) ∧
    (∀ (layout : Layout) (others : List Part), Code.atoms ⟨others⟩ = Code.atoms ⟨parts⟩ →
      layout.writeCode style ⟨others⟩ = layout.writeCode style ⟨parts⟩) ∧
    (∀ (layout : Layout) (before after : List Part) (s t : String),
      parts = before ++ .text (s ++ t) :: after →
      layout.writeCode style ⟨before ++ .text s :: .text t :: after⟩ = layout.writeCode style ⟨parts⟩) ∧
    (∀ (layout : Layout) (text : String),
      layout.write style text = layout.writeCut style (Text.splitChars '\n' text.toList)) := by
  have lines : (writeCode style {} ⟨parts⟩).written = String.ofList
      (['\n'].intercalate ((linesOf (levelled style 0 parts)).map (indentedLine style))) := by
    have all (lines : List (List (Char × Nat))) :
        indentedLines style true lines = lines.map (indentedLine style) := by
      cases lines <;> rfl
    rw [writeCode_inserted, inserted_eq_lines, all, String.empty_append]
  have cut (layout : Layout) (others : List Part) (same : Code.atoms ⟨others⟩ = Code.atoms ⟨parts⟩) :
      layout.writeCode style ⟨others⟩ = layout.writeCode style ⟨parts⟩ := by
    rw [writeCode_eq_foldl, same, writeCode_eq_foldl]
  refine ⟨map_fst_levelled style 0 parts, lines, fun flat => ?_, cut, ?_, fun _ => write_eq_writeCut⟩
  · rw [lines, String.toList_ofList, splitChars_written flat]
  · rintro layout before after s t rfl
    exact cut layout _ (by simp [Code.atoms, Part.atoms])

end

namespace RenderingSample

def style : Style := ⟨"  ", Imports.ofReferenced "" none []⟩

def opening : List Part := [.text "a \x7b\n\n", .indent, .type (.primitive .int)]

def closing : List Part := [.unindent, .text ";\n", .unindent, .text "\x7d\n"]

def parts : List Part := opening ++ .text (" b" ++ " = 0") :: closing

end RenderingSample

open RenderingSample in
theorem writeCode_indents_mid_line :
    '\n' ∉ style.unit.toList ∧
    Text.splitChars '\n' (writeCode style {} ⟨parts⟩).written.toList =
      ["a \x7b".toList, [], "  int b = 0;".toList, "\x7d".toList, []] ∧
    (∀ layout : Layout, layout.writeCode style ⟨opening ++ .text " b" :: .text " = 0" :: closing⟩ =
      layout.writeCode style ⟨parts⟩) ∧
    ∀ layout : Layout, layout.writeCode style ⟨.text "" :: parts⟩ = layout.writeCode style ⟨parts⟩ := by
  have flat : '\n' ∉ style.unit.toList := by decide +kernel
  obtain ⟨-, -, lines, cut, split, -⟩ := writeCode_indents style parts
  refine ⟨flat, ?_, fun layout => split layout opening closing " b" " = 0" rfl,
    fun layout => cut layout (.text "" :: parts) rfl⟩
  rw [lines flat]
  decide +kernel

end Layout
end Prewire.Java
