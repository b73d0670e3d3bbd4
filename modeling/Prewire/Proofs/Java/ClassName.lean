import Mathlib.Data.List.Basic
import Prewire.Java.ClassName
import Prewire.Proofs.Text.Split

/-! Class names survive printing and parsing. Whatever the text, what is parsed from it has a package of
which no segment starts uppercase, and simple names that are neither empty nor cut by a separator. Such a
name is read back from its printed forms: the package ends where it ended. -/
namespace Prewire.Java.ClassName

open Text

def packageSegments (c : ClassName) : List (List Char) :=
  if c.package = "" then [] else splitChars '.' c.package.toList

/-- The parts of a name that a text can have been parsed to. -/
structure Parsed (c : ClassName) : Prop where
  package : ∀ segment ∈ c.packageSegments, startsUppercase segment = false
  simple : ∀ name ∈ c.simpleNames, name ≠ "" ∧ '.' ∉ name.toList ∧ '$' ∉ name.toList

def nestedNames (segments : List (List Char)) : List String :=
  ((segments.flatMap (splitChars '$')).filter (!·.isEmpty)).map String.ofList

/-! ### Where the package ends -/

theorem startsUppercase_package (segments : List (List Char)) :
    ∀ segment ∈ segments.take (packageLength segments), startsUppercase segment = false := by
  rw [packageLength]
  cases found : segments.findIdx? startsUppercase with
  | none =>
    intro segment member
    simpa using List.findIdx?_eq_none_iff.mp found segment (List.mem_of_mem_take member)
  | some i =>
    obtain ⟨bound, -, before⟩ := List.findIdx?_eq_some_iff_getElem.mp found
    intro segment member
    obtain ⟨place, less, rfl⟩ := List.mem_take_iff_getElem.mp member
    simp only at less
    simpa using before place (by omega)

/-- The package ends before a segment that starts uppercase, or before the last one. -/
theorem packageLength_append {lower : List (List Char)} {segment : List Char}
    {rest : List (List Char)} (low : ∀ s ∈ lower, startsUppercase s = false)
    (ends : startsUppercase segment ∨ rest = []) :
    packageLength (lower ++ segment :: rest) = lower.length := by
  have before : lower.findIdx? startsUppercase = none := by simpa using low
  rw [packageLength, List.findIdx?_append, before, Option.none_or, List.findIdx?_cons]
  by_cases upper : startsUppercase segment
  · simp [upper]
  · obtain rfl := ends.resolve_left upper
    simp [upper]

theorem parse_of_segments {text : String} {lower : List (List Char)} {segment : List Char}
    {rest : List (List Char)} (cut : splitChars '.' text.toList = lower ++ segment :: rest)
    (low : ∀ s ∈ lower, startsUppercase s = false) (ends : startsUppercase segment ∨ rest = []) :
    parse text = ⟨String.ofList (['.'].intercalate lower), nestedNames (segment :: rest)⟩ := by
  simp only [parse, cut, packageLength_append low ends, List.take_left, List.drop_left, nestedNames]

/-! ### What parsing gives -/

theorem parsed_parse (text : String) : (parse text).Parsed := by
  constructor
  · intro segment member
    let segments := splitChars '.' text.toList
    let inPackage := segments.take (packageLength segments)
    have low : ∀ s ∈ inPackage, startsUppercase s = false := startsUppercase_package segments
    rw [packageSegments] at member
    split at member
    · cases member
    · next named =>
      have some : inPackage ≠ [] := fun none =>
        named (congrArg (fun pieces => String.ofList (['.'].intercalate pieces)) none)
      have cut : splitChars '.' (['.'].intercalate inPackage) = inPackage :=
        splitChars_intercalate some fun s listed => (of_mem_splitChars (List.mem_of_mem_take listed)).1
      have package : (parse text).package.toList = ['.'].intercalate inPackage := String.toList_ofList
      rw [package, cut] at member
      exact low segment member
  · intro name member
    obtain ⟨piece, listed, rfl⟩ := List.mem_map.mp member
    obtain ⟨listed, filled⟩ := List.mem_filter.mp listed
    obtain ⟨segment, behind, within⟩ := List.mem_flatMap.mp listed
    have flat := (of_mem_splitChars (List.mem_of_mem_drop behind)).1
    obtain ⟨whole, characters⟩ := of_mem_splitChars within
    rw [String.toList_ofList]
    exact ⟨by simpa using filled, fun dot => flat (characters '.' dot), whole⟩

/-! ### Printed names -/

theorem intercalate_packageSegments (c : ClassName) :
    String.ofList (['.'].intercalate c.packageSegments) = c.package := by
  rw [packageSegments]
  split
  · next default => rw [default]; rfl
  · rw [intercalate_splitChars, String.ofList_toList]

/-- The segments of a printed name: those of the package, then what stands for the simple names. -/
theorem splitChars_joined (c : ClassName) (separator : String) :
    splitChars '.' (c.joined separator).toList =
      c.packageSegments ++ splitChars '.' (separator.intercalate c.simpleNames).toList := by
  rw [joined, packageSegments]
  split
  · rfl
  · have text : (c.package ++ "." ++ separator.intercalate c.simpleNames).toList =
        c.package.toList ++ '.' :: (separator.intercalate c.simpleNames).toList := by simp
    rw [text, splitChars_append]

section
variable {c : ClassName} (parsed : c.Parsed)
include parsed

theorem Parsed.filter_names : (c.simpleNames.map String.toList).filter (!·.isEmpty) =
    c.simpleNames.map String.toList := by
  rw [List.filter_eq_self, List.forall_mem_map]
  intro name member
  simpa using (parsed.simple name member).1

/-- Simple names between dots are read one by one. -/
theorem Parsed.nestedNames_map : nestedNames (c.simpleNames.map String.toList) = c.simpleNames := by
  have pieces : (c.simpleNames.map String.toList).flatMap (splitChars '$') =
      c.simpleNames.map String.toList := by
    rw [List.flatMap_map, List.map_eq_flatMap]
    exact List.flatMap_congr fun name member => splitChars_of_not_mem (parsed.simple name member).2.2
  rw [nestedNames, pieces, parsed.filter_names, List.map_map]
  simp

/-- Simple names between dollar signs are one segment. -/
theorem Parsed.nestedNames_joined : nestedNames [("$".intercalate c.simpleNames).toList] =
    c.simpleNames := by
  rw [nestedNames, List.flatMap_singleton]
  by_cases unnamed : c.simpleNames = []
  · rw [unnamed]
    rfl
  · have whole : ∀ name ∈ c.simpleNames, '$' ∉ name.toList := fun name member =>
      (parsed.simple name member).2.2
    rw [splitChars_toList_intercalate rfl unnamed whole, parsed.filter_names, List.map_map]
    simp

/-- A name with dollar signs is read back: its last segment is behind the package. -/
theorem Parsed.parse_reflectionName : parse c.reflectionName = c := by
  have flat : '.' ∉ ("$".intercalate c.simpleNames).toList := by
    rw [String.toList_intercalate]
    intro dot
    rcases of_mem_intercalate dot with between | ⟨_, listed, within⟩
    · simp at between
    · obtain ⟨name, member, rfl⟩ := List.mem_map.mp listed
      exact (parsed.simple name member).2.1 within
  have cut := c.splitChars_joined "$"
  rw [splitChars_of_not_mem flat] at cut
  rw [reflectionName, parse_of_segments cut parsed.package (.inr rfl), intercalate_packageSegments,
    parsed.nestedNames_joined]

/-- A name with dots is read back where the first simple name shows that the package is over. -/
theorem Parsed.parse_canonicalName {first : String} (outermost : c.simpleNames.head? = some first)
    (upper : startsUppercase first.toList) : parse c.canonicalName = c := by
  obtain ⟨rest, names⟩ := List.head?_eq_some_iff.mp outermost
  have whole : ∀ name ∈ c.simpleNames, '.' ∉ name.toList := fun name member =>
    (parsed.simple name member).2.1
  have segments : c.simpleNames.map String.toList = first.toList :: rest.map String.toList := by
    rw [names, List.map_cons]
  have cut := c.splitChars_joined "."
  rw [splitChars_toList_intercalate rfl (by simp [names]) whole, segments] at cut
  rw [canonicalName, parse_of_segments cut parsed.package (.inl upper), intercalate_packageSegments,
    ← segments, parsed.nestedNames_map]

end

/-- Whatever a text is parsed to, the name with dollar signs is parsed to that again, and so is the name
with dots if the first simple name starts uppercase. -/
theorem parse_printed (text : String) :
    let c := parse text
    parse c.reflectionName = c ∧
      ((∃ first, c.simpleNames.head? = some first ∧ startsUppercase first.toList) →
        parse c.canonicalName = c) := by
  have parsed := parsed_parse text
  exact ⟨parsed.parse_reflectionName, fun ⟨_, outermost, upper⟩ =>
    parsed.parse_canonicalName outermost upper⟩

/-- Empty segments, and a dollar sign in the package, in front of a simple name and at the end. -/
theorem parse_printed_malformed :
    parse "..$a..Outer$$Inner.$" = ⟨"..$a.", ["Outer", "Inner"]⟩ ∧
      parse "..$a..Outer$Inner" = ⟨"..$a.", ["Outer", "Inner"]⟩ ∧
      parse "..$a..Outer.Inner" = ⟨"..$a.", ["Outer", "Inner"]⟩ := by
  have parsed : parse "..$a..Outer$$Inner.$" = ⟨"..$a.", ["Outer", "Inner"]⟩ := by decide +kernel
  have printed := parse_printed "..$a..Outer$$Inner.$"
  simp only [parsed] at printed
  exact ⟨parsed, printed.1, printed.2 ⟨"Outer", rfl, by decide⟩⟩

end Prewire.Java.ClassName
