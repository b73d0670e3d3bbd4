import Prewire.Text.Split

/-! Cutting a text undoes joining pieces, and joining undoes cutting. -/
namespace Prewire.Text

variable {sep : Char}

theorem splitChars_cons_sep (rest : List Char) :
    splitChars sep (sep :: rest) = [] :: splitChars sep rest := by
  rw [splitChars, if_pos rfl]

theorem splitChars_cons {c : Char} (other : c ≠ sep) (rest : List Char) :
    ∃ piece pieces, splitChars sep rest = piece :: pieces ∧
      splitChars sep (c :: rest) = (c :: piece) :: pieces := by
  rw [splitChars, if_neg other]
  cases cut : splitChars sep rest with
  | nil => exact absurd cut (splitChars_ne_nil sep rest)
  | cons piece pieces => exact ⟨piece, pieces, rfl, rfl⟩

theorem splitChars_of_not_mem {piece : List Char} (whole : sep ∉ piece) :
    splitChars sep piece = [piece] := by
  induction piece with
  | nil => rfl
  | cons c rest ih =>
    rw [List.mem_cons, not_or] at whole
    obtain ⟨piece, pieces, cut, one⟩ := splitChars_cons (Ne.symm whole.1) rest
    rw [ih whole.2] at cut
    obtain ⟨rfl, rfl⟩ := List.cons.inj cut
    exact one

theorem splitChars_append (a b : List Char) :
    splitChars sep (a ++ sep :: b) = splitChars sep a ++ splitChars sep b := by
  induction a with
  | nil => exact splitChars_cons_sep b
  | cons c a ih =>
    by_cases same : c = sep
    · subst same
      rw [List.cons_append, splitChars_cons_sep, ih, splitChars_cons_sep, List.cons_append]
    · obtain ⟨piece, pieces, cut, whole⟩ := splitChars_cons same a
      obtain ⟨piece', pieces', cut', whole'⟩ := splitChars_cons same (a ++ sep :: b)
      rw [ih, cut, List.cons_append] at cut'
      obtain ⟨rfl, rfl⟩ := List.cons.inj cut'
      rw [List.cons_append, whole', whole, List.cons_append]

/-- A piece holds characters of the text, but no separator. -/
theorem of_mem_splitChars {text piece : List Char} (member : piece ∈ splitChars sep text) :
    sep ∉ piece ∧ ∀ c ∈ piece, c ∈ text := by
  induction text generalizing piece with
  | nil =>
    obtain rfl : piece = [] := by simpa [splitChars] using member
    simp
  | cons c rest ih =>
    by_cases same : c = sep
    · rw [same, splitChars_cons_sep] at member
      rcases List.mem_cons.mp member with rfl | later
      · simp
      · exact ⟨(ih later).1, fun d within => .tail c ((ih later).2 d within)⟩
    · obtain ⟨first, pieces, cut, whole⟩ := splitChars_cons same rest
      rw [whole] at member
      rcases List.mem_cons.mp member with rfl | later
      · obtain ⟨apart, within⟩ := ih (cut ▸ List.mem_cons_self)
        refine ⟨by simp [Ne.symm same, apart], fun d member => ?_⟩
        rcases List.mem_cons.mp member with rfl | later
        · exact .head _
        · exact .tail c (within d later)
      · obtain ⟨apart, within⟩ := ih (cut ▸ List.mem_cons_of_mem first later)
        exact ⟨apart, fun d member => .tail c (within d member)⟩

theorem of_mem_intercalate {between : List Char} {pieces : List (List Char)} {c : Char}
    (member : c ∈ between.intercalate pieces) : c ∈ between ∨ ∃ piece ∈ pieces, c ∈ piece := by
  induction pieces with
  | nil => simp at member
  | cons piece rest ih =>
    cases rest with
    | nil => exact .inr ⟨piece, List.mem_cons_self, by simpa using member⟩
    | cons next rest =>
      rw [List.intercalate_cons_cons, List.append_assoc, List.mem_append, List.mem_append] at member
      rcases member with first | here | later
      · exact .inr ⟨piece, List.mem_cons_self, first⟩
      · exact .inl here
      · exact (ih later).imp_right fun ⟨other, listed, within⟩ => ⟨other, .tail _ listed, within⟩

/-- Pieces without separators are found again. -/
theorem splitChars_intercalate {pieces : List (List Char)} (some : pieces ≠ [])
    (whole : ∀ piece ∈ pieces, sep ∉ piece) :
    splitChars sep ([sep].intercalate pieces) = pieces := by
  induction pieces with
  | nil => exact absurd rfl some
  | cons piece rest ih =>
    have first := splitChars_of_not_mem (whole piece (by simp))
    cases rest with
    | nil => simpa using first
    | cons next rest =>
      rw [List.intercalate_cons_cons, List.append_assoc, List.singleton_append, splitChars_append, first,
        ih (by simp) fun piece member => whole piece (by simp [member])]
      rfl

/-- Pieces that are joined by a separator with characters after it are found with these characters. -/
theorem splitChars_padded {pad : List Char} (other : sep ∉ pad) {piece : List Char}
    {rest : List (List Char)} (whole : ∀ p ∈ piece :: rest, sep ∉ p) :
    splitChars sep ((sep :: pad).intercalate (piece :: rest)) = piece :: rest.map (pad ++ ·) := by
  induction rest generalizing piece with
  | nil => simpa using splitChars_of_not_mem (whole piece (by simp))
  | cons next rest ih =>
    rw [List.forall_mem_cons, List.forall_mem_cons] at whole
    have padded : ∀ p ∈ (pad ++ next) :: rest, sep ∉ p :=
      List.forall_mem_cons.mpr ⟨by simp [other, whole.2.1], whole.2.2⟩
    have shifted : pad ++ (sep :: pad).intercalate (next :: rest) =
        (sep :: pad).intercalate ((pad ++ next) :: rest) := by
      cases rest <;> simp
    rw [List.intercalate_cons_cons, List.append_assoc, List.cons_append, splitChars_append, shifted,
      ih padded, splitChars_of_not_mem whole.1, List.map_cons, List.singleton_append]

theorem intercalate_splitChars (text : List Char) : [sep].intercalate (splitChars sep text) = text := by
  induction text with
  | nil => simp [splitChars]
  | cons c rest ih =>
    by_cases same : c = sep
    · subst same
      rw [splitChars_cons_sep]
      cases cut : splitChars c rest with
      | nil => exact absurd cut (splitChars_ne_nil c rest)
      | cons piece pieces =>
        rw [List.intercalate_cons_cons, ← cut, ih]
        rfl
    · obtain ⟨piece, pieces, cut, whole⟩ := splitChars_cons same rest
      rw [cut] at ih
      rw [whole]
      cases pieces with
      | nil => simpa using ih
      | cons next pieces =>
        rw [List.intercalate_cons_cons] at ih ⊢
        rw [← ih]
        rfl

theorem splitOn_ne_nil (sep : Char) (text : String) : splitOn sep text ≠ [] := by
  simpa [splitOn] using splitChars_ne_nil sep text.toList

/-- Names between separators are found again. -/
theorem splitChars_toList_intercalate {separator : String} (single : separator.toList = [sep])
    {names : List String} (some : names ≠ []) (whole : ∀ name ∈ names, sep ∉ name.toList) :
    splitChars sep (separator.intercalate names).toList = names.map String.toList := by
  rw [String.toList_intercalate, single]
  exact splitChars_intercalate (by simpa using some) (by simpa using whole)

theorem splitOn_intercalate {names : List String} (some : names ≠ [])
    (whole : ∀ name ∈ names, '.' ∉ name.toList) : splitOn '.' (".".intercalate names) = names := by
  rw [splitOn, splitChars_toList_intercalate rfl some whole]
  simp

theorem intercalate_splitOn (text : String) : ".".intercalate (splitOn '.' text) = text := by
  apply String.toList_inj.mp
  rw [String.toList_intercalate, splitOn, List.map_map]
  have same : (splitChars '.' text.toList).map (String.toList ∘ String.ofList) =
      splitChars '.' text.toList := by simp
  exact (congrArg _ same).trans (intercalate_splitChars text.toList)

end Prewire.Text
