import Mathlib.Data.List.Chain
import Prewire.Proofs.Java.Code

/-! Code taken apart into characters, types and shifts of the indentation. Fragments that come apart into
the same pieces differ only in how their texts are cut, and exactly one of them is in normal form. The
operations on code keep the normal form and put the pieces one after the other. -/
namespace Prewire.Java

namespace Code

inductive Atom where
  | char (c : Char)
  | type (reference : JavaType)
  | indent
  | unindent
  deriving DecidableEq, Repr

def textAtoms (content : String) : List Atom := content.toList.map .char

def Part.atoms : Part → List Atom
  | .text content => textAtoms content
  | .type reference => [.type reference]
  | .indent => [.indent]
  | .unindent => [.unindent]

def atoms (code : Code) : List Atom := code.parts.flatMap Part.atoms

def Part.isText : Part → Bool
  | .text _ => true
  | _ => false

/-- Whether two parts may be neighbours, which two texts may not. -/
def Apart (p q : Part) : Prop := ¬ (p.isText ∧ q.isText)

/-- No text is empty, and no two texts are neighbours. -/
structure IsNormal (code : Code) : Prop where
  written : .text "" ∉ code.parts
  apart : code.parts.IsChain Apart

def Part.code : Part → Code
  | .text content => Code.text content
  | .type reference => Code.type reference
  | .indent => Code.indent
  | .unindent => Code.unindent

def Atom.code : Atom → Code
  | char c => Code.text c.toString
  | type reference => Code.type reference
  | indent => Code.indent
  | unindent => Code.unindent

def ofAtoms (atoms : List Atom) : Code := atoms.foldr (fun atom rest => atom.code ++ rest) empty

section
variable {a b : Code} {p : Part} {rest : List Part}

@[simp] theorem atoms_empty : empty.atoms = [] := rfl

@[simp] theorem atoms_type (reference : JavaType) : (type reference).atoms = [.type reference] := rfl

@[simp] theorem atoms_indent : indent.atoms = [.indent] := rfl

@[simp] theorem atoms_unindent : unindent.atoms = [.unindent] := rfl

@[simp] theorem textAtoms_empty : textAtoms "" = [] := rfl

@[simp] theorem textAtoms_append (s t : String) : textAtoms (s ++ t) = textAtoms s ++ textAtoms t := by
  simp [textAtoms]

@[simp] theorem atoms_text (content : String) : (text content).atoms = textAtoms content := by
  rw [text]
  split
  · next nothing =>
    rw [nothing]
    rfl
  · simp [atoms, Part.atoms]

@[simp] theorem atoms_append (a b : Code) : (a ++ b).atoms = a.atoms ++ b.atoms :=
  flatMap_joinParts textAtoms_append a.parts b.parts

@[simp] theorem atoms_of_atom (atom : Atom) : atom.code.atoms = [atom] := by
  cases atom <;> simp [Atom.code, textAtoms]

theorem isNormal_cons : IsNormal ⟨p :: rest⟩ ↔
    p ≠ .text "" ∧ (∀ q ∈ rest.head?, Apart p q) ∧ IsNormal ⟨rest⟩ := by
  constructor
  · rintro ⟨written, apart⟩
    obtain ⟨next, chain⟩ := List.isChain_cons.mp apart
    obtain ⟨first, others⟩ := not_or.mp (mt List.mem_cons.mpr written)
    exact ⟨Ne.symm first, next, others, chain⟩
  · rintro ⟨first, next, others, chain⟩
    refine ⟨fun member => ?_, List.isChain_cons.mpr ⟨next, chain⟩⟩
    exact (List.mem_cons.mp member).elim (Ne.symm first) others

@[simp] theorem isNormal_empty : empty.IsNormal := ⟨nofun, .nil⟩

theorem isNormal_single (written : p ≠ .text "") : IsNormal ⟨[p]⟩ :=
  isNormal_cons.mpr ⟨written, by simp, isNormal_empty⟩

@[simp] theorem isNormal_type (reference : JavaType) : (type reference).IsNormal :=
  isNormal_single (by simp)

@[simp] theorem isNormal_indent : indent.IsNormal := isNormal_single (by simp)

@[simp] theorem isNormal_unindent : unindent.IsNormal := isNormal_single (by simp)

@[simp] theorem isNormal_text (content : String) : (text content).IsNormal := by
  rw [text]
  split
  · exact isNormal_empty
  · next written => exact isNormal_single (by simpa using written)

/-- What follows a part, text or not, is decided by the part that was there first. -/
theorem isText_head_joinParts (p : Part) (a b : List Part) :
    ∀ q ∈ (joinParts (p :: a) b).head?, q.isText = p.isText := by
  rcases last_or_apart p a with ⟨rfl, s, rfl⟩ | apart
  · cases b with
    | nil => simp [joinParts]
    | cons q b => cases q <;> simp [joinParts, Part.isText]
  · simp [joinParts_cons apart]

theorem IsNormal.joinParts {a b : List Part} (first : IsNormal ⟨a⟩) (second : IsNormal ⟨b⟩) :
    IsNormal ⟨joinParts a b⟩ := by
  induction a with
  | nil => exact second
  | cons p a ih =>
    obtain ⟨written, next, others⟩ := isNormal_cons.mp first
    rcases last_or_apart p a with ⟨rfl, s, rfl⟩ | apart
    · cases b with
      | nil => exact first
      | cons q b =>
        obtain ⟨filled, after, later⟩ := isNormal_cons.mp second
        cases q with
        | text t =>
          have both : s ++ t ≠ "" := fun nothing => written (by simp_all)
          exact isNormal_cons.mpr ⟨by simpa using both, after, later⟩
        | _ =>
          refine isNormal_cons.mpr ⟨written, fun r head => ?_, second⟩
          obtain rfl := Option.some.inj head
          exact nofun
    · rw [joinParts_cons apart]
      refine isNormal_cons.mpr ⟨written, ?_, ih others⟩
      cases a with
      | nil =>
        have other : p.isText = false := by
          cases p <;> simp_all [Part.isText]
        simp [Apart, other]
      | cons q a =>
        intro r head
        rw [Apart, isText_head_joinParts q a b r head]
        exact next q rfl

theorem IsNormal.append (first : a.IsNormal) (second : b.IsNormal) : (a ++ b).IsNormal :=
  first.joinParts second

theorem isNormal_atom (atom : Atom) : atom.code.IsNormal := by
  cases atom <;> simp [Atom.code]

theorem ofAtoms_append (first second : List Atom) :
    ofAtoms (first ++ second) = ofAtoms first ++ ofAtoms second := by
  induction first with
  | nil => rfl
  | cons atom first ih =>
    simp only [ofAtoms, List.cons_append, List.foldr_cons] at ih ⊢
    rw [ih, append_assoc]

theorem ofAtoms_textAtoms (content : String) : ofAtoms (textAtoms content) = text content := by
  have chars (cs : List Char) : ofAtoms (cs.map .char) = text (String.ofList cs) := by
    induction cs with
    | nil => rfl
    | cons c cs ih =>
      simp only [ofAtoms, List.map_cons, List.foldr_cons, Atom.code] at ih ⊢
      rw [ih, text_append]
      congr 1
      exact String.toList_inj.mp (by simp)
  rw [textAtoms, chars, String.ofList_toList]

theorem ofAtoms_part (p : Part) : ofAtoms p.atoms = p.code := by
  cases p with
  | text content => exact ofAtoms_textAtoms content
  | _ => rfl

/-- A part that may stand before others stays a part of its own. -/
theorem part_append (normal : IsNormal ⟨p :: rest⟩) : p.code ++ ⟨rest⟩ = ⟨p :: rest⟩ := by
  obtain ⟨written, next, -⟩ := isNormal_cons.mp normal
  cases p with
  | text s =>
    have filled : s ≠ "" := by simpa using written
    rw [Part.code, Code.text, if_neg filled]
    cases rest with
    | nil => rfl
    | cons q rest =>
      cases q with
      | text t => exact absurd ⟨rfl, rfl⟩ (next (.text t) rfl)
      | _ => rfl
  | _ => rfl

/-- Code in normal form is known by its pieces. -/
theorem IsNormal.ofAtoms_atoms (normal : a.IsNormal) : ofAtoms a.atoms = a := by
  obtain ⟨parts⟩ := a
  induction parts with
  | nil => rfl
  | cons p rest ih =>
    have later := ih (isNormal_cons.mp normal).2.2
    rw [atoms, List.flatMap_cons, ofAtoms_append, ofAtoms_part]
    exact (congrArg (p.code ++ ·) later).trans (part_append normal)

theorem isNormal_ofAtoms (atoms : List Atom) : (ofAtoms atoms).IsNormal := by
  induction atoms with
  | nil => exact isNormal_empty
  | cons atom atoms ih => exact (isNormal_atom atom).append ih

theorem atoms_ofAtoms (atoms : List Atom) : (ofAtoms atoms).atoms = atoms := by
  induction atoms with
  | nil => rfl
  | cons atom atoms ih =>
    have first : ofAtoms (atom :: atoms) = atom.code ++ ofAtoms atoms := rfl
    rw [first, atoms_append, atoms_of_atom, ih, List.singleton_append]

/-- There is exactly one code in normal form with given pieces. -/
theorem isNormal_iff_eq_ofAtoms {atoms : List Atom} :
    a.IsNormal ∧ a.atoms = atoms ↔ a = ofAtoms atoms := by
  constructor
  · rintro ⟨normal, rfl⟩
    exact normal.ofAtoms_atoms.symm
  · rintro rfl
    exact ⟨isNormal_ofAtoms atoms, atoms_ofAtoms atoms⟩

theorem isNormal_join (separator : String) {blocks : List Code}
    (normal : ∀ block ∈ blocks, block.IsNormal) : (join separator blocks).IsNormal := by
  fun_induction join separator blocks with
  | case1 => exact isNormal_empty
  | case2 block => exact normal block List.mem_cons_self
  | case3 block rest more ih =>
    obtain ⟨first, others⟩ := List.forall_mem_cons.mp normal
    exact (first.append (isNormal_text separator)).append (ih others)

theorem atoms_join (separator : String) (blocks : List Code) :
    (join separator blocks).atoms = (textAtoms separator).intercalate (blocks.map atoms) := by
  fun_induction join separator blocks with
  | case1 => rfl
  | case2 block => simp
  | case3 block rest more ih =>
    obtain ⟨next, later, rfl⟩ := List.exists_cons_of_ne_nil (more ·)
    rw [atoms_append, atoms_append, atoms_text, ih]
    simp [List.intercalate_cons_cons]

end
end Code
end Prewire.Java
