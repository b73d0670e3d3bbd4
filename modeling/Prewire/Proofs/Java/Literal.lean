import Prewire.Proofs.Java.LiteralReader

/-! Literals denote what they were written for. A character is written in one of three ways, and none
of them leaves a backslash behind that could change how the next one is read; so the text of a
literal is read back character by character. -/
namespace Prewire.Java.Literal

/-- How a character is written between quotes of a kind: by an escape sequence, by a Unicode escape,
or by itself. -/
inductive Written (quote c : Char) : List Char → Prop
  | sequence (letter : Char) (means : sequenceValue? letter.toNat = some c.toNat) :
    Written quote c ['\\', letter]
  | unicode (below : c.toNat < 0x10000) (apart : c ≠ quote ∧ c ≠ '\\' ∧ c ≠ '\n' ∧ c ≠ '\r') :
    Written quote c ('\\' :: 'u' :: fourDigits c.toNat)
  | itself (apart : c ≠ quote ∧ c ≠ '\\' ∧ c ≠ '\n' ∧ c ≠ '\r') : Written quote c [c]

theorem written_escaped {quote c : Char} (other : c ≠ quote) : Written quote c (escaped c) := by
  rw [escaped]
  split
  · next same => subst same; exact .sequence '\\' (by decide)
  split
  · next same => subst same; exact .sequence 'n' (by decide)
  split
  · next same => subst same; exact .sequence 'r' (by decide)
  split
  · next same => subst same; exact .sequence 't' (by decide)
  split
  · next same => subst same; exact .sequence 'b' (by decide)
  split
  · next same => subst same; exact .sequence 'f' (by decide)
  next backslash newline carriage _ _ _ =>
  split
  · next control =>
    refine .unicode ?_ ⟨other, backslash, newline, carriage⟩
    simp [isControl] at control
    omega
  · exact .itself ⟨other, backslash, newline, carriage⟩

theorem written_stringChar (c : Char) : Written '"' c (stringChar c) := by
  rw [stringChar]
  split
  · next same => subst same; exact .sequence '"' (by decide)
  · next other => exact written_escaped other

theorem written_charChar (c : Char) : Written '\'' c (charChar c) := by
  rw [charChar]
  split
  · next same => subst same; exact .sequence '\'' (by decide)
  · next other => exact written_escaped other

/-! ### Code units -/

theorem units_of_lt {c : Char} (below : c.toNat < 0x10000) : units c = [c.toNat] := if_pos below

theorem units_of_ge {c : Char} (above : 0x10000 ≤ c.toNat) :
    ∃ high low, units c = [high, low] ∧ 0xD800 ≤ high ∧ 0xDC00 ≤ low :=
  ⟨_, _, if_neg (Nat.not_lt.mpr above), Nat.le_add_right .., Nat.le_add_right ..⟩

@[simp] theorem unitsOf_nil : unitsOf [] = [] := rfl

@[simp] theorem unitsOf_cons (c : Char) (text : List Char) :
    unitsOf (c :: text) = units c ++ unitsOf text := rfl

theorem unitsOf_append (a b : List Char) : unitsOf (a ++ b) = unitsOf a ++ unitsOf b :=
  List.flatMap_append

/-- The units of a character say where it ends: the first of two is no character of its own. -/
theorem units_append_inj {c d : Char} {a b : List Nat} (same : units c ++ a = units d ++ b) :
    c = d ∧ a = b := by
  have validC : c.toNat < 0xD800 ∨ 0xDFFF < c.toNat ∧ c.toNat < 0x110000 := c.valid
  have validD : d.toNat < 0xD800 ∨ 0xDFFF < d.toNat ∧ d.toNat < 0x110000 := d.valid
  have ofNat (eq : c.toNat = d.toNat) : c = d := Char.toNat_inj.mp eq
  rw [units, units] at same
  split at same <;> split at same
  · simp only [List.cons_append, List.nil_append, List.cons.injEq] at same
    exact ⟨ofNat same.1, same.2⟩
  · simp only [List.cons_append, List.nil_append, List.cons.injEq] at same
    omega
  · simp only [List.cons_append, List.nil_append, List.cons.injEq] at same
    omega
  · simp only [List.cons_append, List.nil_append, List.cons.injEq] at same
    exact ⟨ofNat (by omega), same.2.2⟩

theorem unitsOf_injective : ∀ {a b : List Char}, unitsOf a = unitsOf b → a = b
  | [], [], _ => rfl
  | [], c :: b, same => by
    rw [unitsOf_nil, unitsOf_cons, units] at same
    split at same <;> simp at same
  | c :: a, [], same => by
    rw [unitsOf_nil, unitsOf_cons, units] at same
    split at same <;> simp at same
  | c :: a, d :: b, same => by
    obtain ⟨rfl, rest⟩ := units_append_inj same
    rw [unitsOf_injective rest]

/-! ### Unicode escapes -/

theorem translate_other {u : Nat} (other : u ≠ '\\'.toNat) (rest : List Nat) :
    translate .even (u :: rest) = (translate .even rest).map (u :: ·) := by
  rw [translate, if_neg other]

theorem translate_sequence {letter : Nat} (other : letter ≠ 'u'.toNat) (rest : List Nat) :
    translate .even ('\\'.toNat :: letter :: rest) =
      (translate .even rest).map fun passed => '\\'.toNat :: letter :: passed := by
  rw [translate, if_pos rfl, translate, if_neg other]

theorem translate_units {c : Char} (other : c ≠ '\\') (rest : List Nat) :
    translate .even (units c ++ rest) = (translate .even rest).map (units c ++ ·) := by
  by_cases below : c.toNat < 0x10000
  · rw [units_of_lt below]
    exact translate_other (fun same => other (Char.toNat_inj.mp same)) rest
  · obtain ⟨high, low, pair, highest, lowest⟩ := units_of_ge (Nat.not_lt.mp below)
    have surrogate {u : Nat} (large : 0xD800 ≤ u) : u ≠ '\\'.toNat := fun same =>
      absurd (same ▸ large) (by decide)
    rw [pair, List.cons_append, List.cons_append, List.nil_append, translate_other (surrogate highest),
      translate_other (surrogate (by omega)), Option.map_map]
    rfl

/-- A hexadecimal digit is read as itself, and it is neither a mark nor a line end. -/
theorem hexValue?_digitChar {d : Nat} (digit : d < 16) :
    hexValue? (Nat.digitChar d).toNat = some d ∧ (Nat.digitChar d).toNat ≠ 'u'.toNat ∧
      (Nat.digitChar d).toNat < 0x10000 ∧ isLineEnd (Nat.digitChar d).toNat = false := by
  have all : ∀ d : Fin 16, hexValue? (Nat.digitChar d).toNat = some d.val ∧
      (Nat.digitChar d).toNat ≠ 'u'.toNat ∧ (Nat.digitChar d).toNat < 0x10000 ∧
      isLineEnd (Nat.digitChar d).toNat = false := by decide
  exact all ⟨d, digit⟩

theorem unitsOf_fourDigits (n : Nat) : unitsOf (fourDigits n) = (fourDigits n).map Char.toNat := by
  have small (k : Nat) : units (Nat.digitChar (k % 16)) = [(Nat.digitChar (k % 16)).toNat] :=
    units_of_lt (hexValue?_digitChar (Nat.mod_lt k (by decide))).2.2.1
  simp only [fourDigits, unitsOf_cons, unitsOf_nil, small, List.map_cons, List.map_nil,
    List.cons_append, List.nil_append]

theorem translate_unicode {n : Nat} (below : n < 0x10000) (rest : List Nat) :
    translate .even ('\\'.toNat :: 'u'.toNat :: (fourDigits n).map Char.toNat ++ rest) =
      (translate .even rest).map (n :: ·) := by
  have read (k : Nat) := hexValue?_digitChar (Nat.mod_lt k (show 0 < 16 by decide))
  have value : ((n / 0x1000 % 16 * 16 + n / 0x100 % 16) * 16 + n / 16 % 16) * 16 + n % 16 = n := by
    omega
  simp only [fourDigits, List.map_cons, List.map_nil, List.cons_append, List.nil_append, translate,
    if_true, (read _).2.1, if_false, (read _).1, Option.bind_some, value]

/-! ### Contents -/

theorem contents_plain {quote : Char} {u : Nat} (other : u ≠ quote.toNat) (noEscape : u ≠ '\\'.toNat)
    (inside : isLineEnd u = false) (rest : List Nat) :
    contents quote (u :: rest) = (contents quote rest).map (u :: ·) := by
  rw [contents, if_neg other, if_neg noEscape, inside]
  rfl

/-- The letter of an escape sequence is no mark, no digit and no line end. -/
theorem sequenceValue?_some {u meaning : Nat} (means : sequenceValue? u = some meaning) :
    u ≠ 'u'.toNat ∧ isOctalDigit u = false ∧ isLineEnd u = false ∧ u < 0x10000 ∧
      meaning < 0x10000 := by
  have all : ∀ p ∈ sequences, p.1.toNat ≠ 'u'.toNat ∧ isOctalDigit p.1.toNat = false ∧
      isLineEnd p.1.toNat = false ∧ p.1.toNat < 0x10000 ∧ p.2.toNat < 0x10000 := by decide
  obtain ⟨p, member, found⟩ := List.exists_of_findSome?_eq_some means
  obtain ⟨same, rfl⟩ : p.1.toNat = u ∧ p.2.toNat = meaning := by simpa using found
  exact same ▸ all p member

theorem contents_sequence {quote : Char} (mark : quote ≠ '\\') {u meaning : Nat}
    (means : sequenceValue? u = some meaning) (rest : List Nat) :
    contents quote ('\\'.toNat :: u :: rest) = (contents quote rest).map (meaning :: ·) := by
  have other : '\\'.toNat ≠ quote.toNat := fun same => mark (Char.toNat_inj.mp same.symm)
  have read : escape? (u :: rest) = some (meaning, rest) := by
    simp [escape?, (sequenceValue?_some means).2.1, means]
  rw [contents, if_neg other, if_pos rfl]
  split
  · next none => simp [none] at read
  · next meaning' after some =>
    obtain ⟨rfl, rfl⟩ := Prod.mk.inj (Option.some.inj (some.symm.trans read))
    rfl

theorem isLineEnd_of_ne {c : Char} (newline : c ≠ '\n') (carriage : c ≠ '\r') :
    isLineEnd c.toNat = false := by
  have newline : c.toNat ≠ '\n'.toNat := fun same => newline (Char.toNat_inj.mp same)
  have carriage : c.toNat ≠ '\r'.toNat := fun same => carriage (Char.toNat_inj.mp same)
  simp only [isLineEnd, newline, carriage, decide_false, Bool.or_self]

/-- A character that is written by itself is passed over and kept. -/
theorem contents_units {quote c : Char} (mark : quote.toNat < 0xD800)
    (apart : c ≠ quote ∧ c ≠ '\\' ∧ c ≠ '\n' ∧ c ≠ '\r') (rest : List Nat) :
    contents quote (units c ++ rest) = (contents quote rest).map (units c ++ ·) := by
  obtain ⟨noQuote, noEscape, noNewline, noReturn⟩ := apart
  by_cases below : c.toNat < 0x10000
  · rw [units_of_lt below]
    refine contents_plain ?_ ?_ ?_ rest
    · exact fun same => noQuote (Char.toNat_inj.mp same)
    · exact fun same => noEscape (Char.toNat_inj.mp same)
    · exact isLineEnd_of_ne noNewline noReturn
  · obtain ⟨high, low, pair, highest, lowest⟩ := units_of_ge (Nat.not_lt.mp below)
    have surrogate {u : Nat} (large : 0xD800 ≤ u) (rest : List Nat) :
        contents quote (u :: rest) = (contents quote rest).map (u :: ·) := by
      refine contents_plain ?_ ?_ ?_ rest
      · omega
      · exact fun same => absurd (same ▸ large) (by decide)
      · simp [isLineEnd]
        omega
    rw [pair, List.cons_append, List.cons_append, List.nil_append, surrogate highest,
      surrogate (by omega), Option.map_map]
    rfl

/-! ### Literals -/

/-- Both steps of reading take up what is written for a character, whatever follows it. -/
theorem Written.read {quote c : Char} {text : List Char} (written : Written quote c text)
    (mark : quote ≠ '\\' ∧ quote.toNat < 0xD800) :
    ∃ passed, (∀ rest, translate .even (unitsOf text ++ rest) =
        (translate .even rest).map (passed ++ ·)) ∧
      ∀ rest, contents quote (passed ++ rest) = (contents quote rest).map (units c ++ ·) := by
  cases written with
  | sequence letter means =>
    obtain ⟨noMark, -, -, small, below⟩ := sequenceValue?_some means
    have text : unitsOf ['\\', letter] = ['\\'.toNat, letter.toNat] := by
      rw [unitsOf_cons, unitsOf_cons, units_of_lt small]
      rfl
    refine ⟨['\\'.toNat, letter.toNat], fun rest => ?_, fun rest => ?_⟩
    · rw [text]
      exact translate_sequence noMark rest
    · rw [units_of_lt below]
      exact contents_sequence mark.1 means rest
  | unicode below apart =>
    have text : unitsOf ('\\' :: 'u' :: fourDigits c.toNat) =
        '\\'.toNat :: 'u'.toNat :: (fourDigits c.toNat).map Char.toNat := by
      rw [unitsOf_cons, unitsOf_cons, unitsOf_fourDigits]
      rfl
    refine ⟨[c.toNat], fun rest => ?_, fun rest => ?_⟩
    · rw [text]
      exact translate_unicode below rest
    · rw [← units_of_lt below]
      exact contents_units mark.2 apart rest
  | itself apart =>
    refine ⟨units c, fun rest => ?_, fun rest => contents_units mark.2 apart rest⟩
    rw [unitsOf_cons, unitsOf_nil, List.append_nil]
    exact translate_units apart.2.1 rest

section
variable {quote : Char} (mark : quote ≠ '\\' ∧ quote.toNat < 0xD800) {write : Char → List Char}
variable (each : ∀ c, Written quote c (write c))
include mark each

/-- The induction over a text: what is in front of the closing quote is read as the text. -/
theorem read_contents (text : List Char) :
    ∃ passed, translate .even (unitsOf (text.flatMap write) ++ [quote.toNat]) = some passed ∧
      contents quote passed = some (unitsOf text) := by
  induction text with
  | nil =>
    have other : quote.toNat ≠ '\\'.toNat := fun same => mark.1 (Char.toNat_inj.mp same)
    refine ⟨[quote.toNat], ?_, by simp [contents]⟩
    rw [List.flatMap_nil, unitsOf_nil, List.nil_append, translate_other other]
    rfl
  | cons c text ih =>
    obtain ⟨rest, translated, denoted⟩ := ih
    obtain ⟨passed, translates, denotes⟩ := (each c).read mark
    refine ⟨passed ++ rest, ?_, ?_⟩
    · rw [List.flatMap_cons, unitsOf_append, List.append_assoc, translates, translated]
      rfl
    · rw [denotes, denoted]
      rfl

theorem quoted?_written (text : List Char) :
    quoted? quote (String.ofList (quote :: (text.flatMap write ++ [quote]))) =
      some (unitsOf text) := by
  have other : quote.toNat ≠ '\\'.toNat := fun same => mark.1 (Char.toNat_inj.mp same)
  have own : units quote = [quote.toNat] := units_of_lt (by omega)
  obtain ⟨passed, translated, denoted⟩ := read_contents mark each text
  have outer : unitsOf (quote :: (text.flatMap write ++ [quote])) =
      quote.toNat :: (unitsOf (text.flatMap write) ++ [quote.toNat]) := by
    rw [unitsOf_cons, own, unitsOf_append, unitsOf_cons, own]
    rfl
  rw [quoted?, String.toList_ofList, outer, translate_other other, translated, Option.map_some]
  exact (if_pos rfl).trans denoted

end

/-- No line of the source ends within a written character. -/
theorem Written.no_lineEnd {quote c : Char} {text : List Char} (written : Written quote c text) :
    ∀ x ∈ text, isLineEnd x.toNat = false := by
  cases written with
  | sequence letter means =>
    have inside := (sequenceValue?_some means).2.2.1
    simpa [isLineEnd] using inside
  | unicode =>
    have digit (k : Nat) : isLineEnd (Nat.digitChar (k % 16)).toNat = false :=
      (hexValue?_digitChar (Nat.mod_lt k (by decide))).2.2.2
    simp only [fourDigits, List.forall_mem_cons, digit, true_and]
    exact ⟨rfl, rfl, List.forall_mem_nil _⟩
  | itself apart => simpa using isLineEnd_of_ne apart.2.2.1 apart.2.2.2

/-- A text between quotes stays on its line. -/
theorem no_lineEnd_quoted {quote : Char} (mark : isLineEnd quote.toNat = false)
    {write : Char → List Char} (each : ∀ c, Written quote c (write c)) (text : List Char) :
    '\n' ∉ quote :: (text.flatMap write ++ [quote]) ∧
      '\r' ∉ quote :: (text.flatMap write ++ [quote]) := by
  have inside : ∀ x ∈ quote :: (text.flatMap write ++ [quote]), isLineEnd x.toNat = false := by
    intro x member
    rcases List.mem_cons.mp member with rfl | member
    · exact mark
    rcases List.mem_append.mp member with written | closing
    · obtain ⟨c, -, written⟩ := List.mem_flatMap.mp written
      exact (each c).no_lineEnd x written
    · rwa [List.mem_singleton.mp closing]
  exact ⟨fun member => absurd (inside _ member) (by decide),
    fun member => absurd (inside _ member) (by decide)⟩

/-- A literal is one token, denotes what it was written for and nothing else, and stays on its line.
There is no character literal of a character that takes two code units. -/
theorem read_literals (value : String) (c : Char) :
    (∀ other, readString? (string value) = some (unitsOf other) ↔ other = value.toList) ∧
      ('\n' ∉ (string value).toList ∧ '\r' ∉ (string value).toList) ∧
      readChar? (char c) = (if c.toNat < 0x10000 then some c.toNat else none) ∧
      '\n' ∉ (char c).toList ∧ '\r' ∉ (char c).toList := by
  have denoted : readString? (string value) = some (unitsOf value.toList) :=
    quoted?_written (by decide) written_stringChar value.toList
  have character : quoted? '\'' (char c) = some (units c) := by
    have read := quoted?_written (by decide) written_charChar [c]
    rwa [List.flatMap_singleton, unitsOf_cons, unitsOf_nil, List.append_nil] at read
  have line := no_lineEnd_quoted (by decide) written_stringChar value.toList
  have charLine := no_lineEnd_quoted (by decide) written_charChar [c]
  rw [List.flatMap_singleton] at charLine
  refine ⟨fun other => ?_, ?_, ?_, ?_⟩
  · rw [denoted, Option.some_inj]
    exact ⟨fun same => (unitsOf_injective same).symm, fun same => by rw [same]⟩
  · rwa [string, String.toList_ofList]
  · rw [readChar?, character]
    by_cases below : c.toNat < 0x10000
    · rw [units_of_lt below, if_pos below]
    · obtain ⟨high, low, pair, -⟩ := units_of_ge (Nat.not_lt.mp below)
      rw [pair, if_neg below]
  · rwa [char, String.toList_ofList]

end Prewire.Java.Literal
