import Prewire.Proofs.Distinct
import Prewire.Proofs.Java.ClassName
import Prewire.Proofs.Java.Scope
import Prewire.Proofs.Text.Split

/-! Names in a compilation unit mean the classes they stand for. A short name finds its class, since
nothing of the same simple name comes before it in the scope; a name with its package starts with an
identifier that finds no class at all. -/
namespace Prewire.Java

namespace ClassName

/-- A class named by convention: no identifier of its package starts uppercase, and every simple name
does. -/
structure Conventional (c : ClassName) : Prop where
  package : ∀ identifier ∈ Text.splitOn '.' c.package, startsUppercase identifier.toList = false
  named : c.simpleNames ≠ []
  simple : ∀ name ∈ c.simpleNames, isSimpleName name

theorem isSimpleName_iff {name : String} :
    isSimpleName name ↔ startsUppercase name.toList = true ∧ '.' ∉ name.toList := by
  simp [isSimpleName]

section
variable {c : ClassName} (conventional : c.Conventional)
include conventional

theorem Conventional.outermost : ∃ name nested, c.simpleNames = name :: nested ∧
    isSimpleName name ∧ c.topLevel = ⟨c.package, [name]⟩ := by
  cases names : c.simpleNames with
  | nil => exact absurd names conventional.named
  | cons name nested =>
    refine ⟨name, nested, rfl, conventional.simple name (by simp [names]), ?_⟩
    rw [topLevel, names]
    rfl

theorem Conventional.topLevel : c.topLevel.Conventional := by
  obtain ⟨name, nested, names, simple, top⟩ := conventional.outermost
  rw [top]
  exact ⟨conventional.package, by simp, by simpa using simple⟩

theorem Conventional.splitOn_simpleNames :
    Text.splitOn '.' (".".intercalate c.simpleNames) = c.simpleNames :=
  Text.splitOn_intercalate conventional.named fun name member =>
    (isSimpleName_iff.mp (conventional.simple name member)).2

/-- The identifiers of a name with its package. -/
theorem Conventional.splitOn_canonicalName (inPackage : c.package ≠ "") :
    Text.splitOn '.' c.canonicalName = Text.splitOn '.' c.package ++ c.simpleNames := by
  have nested := conventional.splitOn_simpleNames
  rw [Text.splitOn] at nested
  rw [Text.splitOn, canonicalName, c.splitChars_joined ".", packageSegments, if_neg inPackage, List.map_append,
    nested, Text.splitOn]

/-- A name with its package is read as its class. -/
theorem Conventional.ofIdentifiers (inPackage : c.package ≠ "") :
    ofIdentifiers (Text.splitOn '.' c.canonicalName) = c := by
  obtain ⟨name, nested, names, simple, -⟩ := conventional.outermost
  have lower : ∀ identifier ∈ Text.splitOn '.' c.package,
      (!startsUppercase identifier.toList) = true := fun identifier member => by
    rw [conventional.package identifier member]
    rfl
  have upper : startsUppercase name.toList = true := (isSimpleName_iff.mp simple).1
  rw [conventional.splitOn_canonicalName inPackage, ClassName.ofIdentifiers,
    List.takeWhile_append_of_pos lower, List.dropWhile_append_of_pos lower, names,
    List.takeWhile_cons_of_neg (by simp [upper]), List.dropWhile_cons_of_neg (by simp [upper]),
    List.append_nil, Text.intercalate_splitOn, ← names]

theorem Conventional.ofQualified (inPackage : c.package ≠ "") : ofQualified c.canonicalName = c :=
  conventional.ofIdentifiers inPackage

/-- What the outermost class is found by is read, with the nested names after it. -/
theorem Conventional.read_simpleNames {scope : Scope}
    (found : scope.outermost? c.topLevel.simpleName = some c.topLevel) :
    scope.read (".".intercalate c.simpleNames) = c := by
  obtain ⟨name, nested, names, -, top⟩ := conventional.outermost
  have first : c.topLevel.simpleName = name := by rw [top]; rfl
  rw [first, top] at found
  rw [Scope.read, conventional.splitOn_simpleNames, names, List.head?_cons, Option.bind_some, found]
  exact congrArg (ClassName.mk c.package) names.symm

end
end ClassName

namespace Imports

/-- A compilation unit whose names are written by convention. It refers to classes of the default
package only from there, and to classes that `java.lang` has. -/
structure Conventional (unit : Imports) (inJavaLang : String → Bool) : Prop where
  classes : ∀ c ∈ unit.outermost, c.Conventional
  outermost : ∀ c ∈ unit.outermost, c.topLevel = c
  declared : ∀ name ∈ unit.declared, ClassName.isSimpleName name
  defaultPackage : ∀ c ∈ unit.outermost, c.package = "" → unit.package = ""
  known : ∀ c ∈ unit.outermost, c.package = "java.lang" → inJavaLang c.simpleName
  upper : ∀ name, inJavaLang name → ClassName.startsUppercase name.toList

section
variable {unit : Imports}

theorem isShort_iff {c : ClassName} : unit.isShort c ↔ c ∈ unit.outermost ∧
    (∀ d ∈ unit.outermost, d.simpleName = c.simpleName → d = c) ∧
    (unit.declared = some c.simpleName → c.package = unit.package) := by
  simp [isShort, and_assoc, or_iff_not_imp_left]

theorem needsImport_iff {c : ClassName} : unit.needsImport c ↔
    unit.isShort c ∧ c.package ≠ "java.lang" ∧ c.package ≠ "" ∧ c.package ≠ unit.package := by
  simp [needsImport, ClassName.isJavaLang, and_assoc]

theorem mem_imported {line : String} : line ∈ unit.imported ↔
    ∃ c ∈ unit.outermost, unit.needsImport c ∧ c.canonicalName = line := by
  simp [imported, List.mem_mergeSort, and_assoc]

theorem mem_siblings {name : String} : name ∈ unit.siblings ↔
    ∃ c ∈ unit.outermost, c.package = unit.package ∧ c.simpleName = name := by
  simp [siblings, and_assoc]

theorem outermost?_scope (inJavaLang : String → Bool) (name : String) :
    (unit.scope inJavaLang).outermost? name =
      if unit.declared = some name then some ⟨unit.package, [name]⟩
      else match unit.imported.find? fun line => (ClassName.ofQualified line).simpleName = name with
        | some line => some (.ofQualified line)
        | none =>
          if name ∈ unit.siblings then some ⟨unit.package, [name]⟩
          else if inJavaLang name then some ⟨"java.lang", [name]⟩
          else none := rfl

variable {inJavaLang : String → Bool} (conventional : unit.Conventional inJavaLang)
include conventional

theorem Conventional.eq_simpleName {c : ClassName} (member : c ∈ unit.outermost) :
    c = ⟨c.package, [c.simpleName]⟩ := by
  obtain ⟨name, nested, -, -, top⟩ := (conventional.classes c member).outermost
  rw [conventional.outermost c member] at top
  rw [top]
  rfl

/-- An import line is read as the class that it was written for. -/
theorem Conventional.read_import {line : String} (listed : line ∈ unit.imported) :
    ∃ c, unit.needsImport c ∧ c.canonicalName = line ∧ ClassName.ofQualified line = c := by
  obtain ⟨c, member, needed, rfl⟩ := mem_imported.mp listed
  have inPackage := (needsImport_iff.mp needed).2.2.1
  exact ⟨c, needed, rfl, (conventional.classes c member).ofQualified inPackage⟩

/-- The class that an import finds for a simple name. -/
theorem Conventional.find?_imported (name : String) :
    unit.imported.find? (fun line => (ClassName.ofQualified line).simpleName = name) = none ∧
        (∀ c, unit.needsImport c → c.simpleName ≠ name) ∨
      ∃ line c, unit.imported.find? (fun line => (ClassName.ofQualified line).simpleName = name) =
        some line ∧ ClassName.ofQualified line = c ∧ unit.needsImport c ∧ c.simpleName = name := by
  cases found : unit.imported.find? fun line =>
      decide ((ClassName.ofQualified line).simpleName = name) with
  | none =>
    refine .inl ⟨rfl, fun c needed same => ?_⟩
    have member := (isShort_iff.mp (needsImport_iff.mp needed).1).1
    have listed : c.canonicalName ∈ unit.imported := mem_imported.mpr ⟨c, member, needed, rfl⟩
    obtain ⟨-, -, inPackage, -⟩ := needsImport_iff.mp needed
    have unfit := List.find?_eq_none.mp found _ listed
    rw [(conventional.classes c member).ofQualified inPackage] at unfit
    simp [same] at unfit
  | some line =>
    obtain ⟨c, needed, -, read⟩ := conventional.read_import (List.mem_of_find?_eq_some found)
    have same : (ClassName.ofQualified line).simpleName = name := by
      simpa using List.find?_some found
    exact .inr ⟨line, c, rfl, read, needed, read ▸ same⟩

/-- A class of the package of the unit is found there, whether it is written short or not. -/
theorem Conventional.outermost?_own {c : ClassName} (member : c ∈ unit.outermost)
    (own : c.package = unit.package) : (unit.scope inJavaLang).outermost? c.simpleName = some c := by
  have whole : (⟨unit.package, [c.simpleName]⟩ : ClassName) = c :=
    own ▸ (conventional.eq_simpleName member).symm
  rw [outermost?_scope]
  split
  · exact congrArg some whole
  · rcases conventional.find?_imported c.simpleName with ⟨none, -⟩ | ⟨_, d, -, -, needed, same⟩
    · rw [none, if_pos (mem_siblings.mpr ⟨c, member, own, rfl⟩)]
      exact congrArg some whole
    · obtain ⟨short, -, -, other⟩ := needsImport_iff.mp needed
      have : c = d := (isShort_iff.mp short).2.1 c member same.symm
      exact absurd (this ▸ own) other

/-- A class that is written short is found by its simple name. -/
theorem Conventional.outermost?_short {c : ClassName} (short : unit.isShort c) :
    (unit.scope inJavaLang).outermost? c.simpleName = some c := by
  obtain ⟨member, alone, undeclared⟩ := isShort_iff.mp short
  by_cases own : c.package = unit.package
  · exact conventional.outermost?_own member own
  have inPackage : c.package ≠ "" := fun default =>
    own (default.trans (conventional.defaultPackage c member default).symm)
  rw [outermost?_scope, if_neg fun same => own (undeclared same)]
  -- From another package it is imported, or it is of `java.lang` and no sibling has its name.
  rcases conventional.find?_imported c.simpleName with
    ⟨none, unneeded⟩ | ⟨line, d, found, read, needed, same⟩
  · have isJavaLang : c.package = "java.lang" := by
      by_contra other
      exact unneeded c (needsImport_iff.mpr ⟨short, other, inPackage, own⟩) rfl
    have unlisted : c.simpleName ∉ unit.siblings := fun listed => by
      obtain ⟨d, present, package, same⟩ := mem_siblings.mp listed
      exact own (alone d present same ▸ package)
    rw [none, if_neg unlisted, if_pos (conventional.known c member isJavaLang), ← isJavaLang]
    exact congrArg some (conventional.eq_simpleName member).symm
  · rw [found]
    have present := (isShort_iff.mp (needsImport_iff.mp needed).1).1
    exact congrArg some (read.trans (alone d present same))

/-- An identifier that does not start uppercase finds no class. -/
theorem Conventional.outermost?_lower {name : String}
    (lower : ClassName.startsUppercase name.toList = false) :
    (unit.scope inJavaLang).outermost? name = none := by
  have unlike {other : String} (simple : ClassName.isSimpleName other) : other ≠ name := by
    rintro rfl
    simp [(ClassName.isSimpleName_iff.mp simple).1] at lower
  have unlikeClass {c : ClassName} (member : c ∈ unit.outermost) : c.simpleName ≠ name := by
    apply unlike
    apply (conventional.classes c member).simple
    rw [conventional.eq_simpleName member]
    exact List.mem_singleton_self _
  have undeclared : unit.declared ≠ some name := fun same =>
    unlike (conventional.declared name same) rfl
  rw [outermost?_scope, if_neg undeclared]
  rcases conventional.find?_imported name with ⟨none, -⟩ | ⟨_, d, -, -, needed, same⟩
  · have unlisted : name ∉ unit.siblings := fun listed => by
      obtain ⟨d, present, -, same⟩ := mem_siblings.mp listed
      exact unlikeClass present same
    have unknown : ¬ inJavaLang name := fun known => by
      simp [conventional.upper name known] at lower
    rw [none, if_neg unlisted, if_neg unknown]
  · exact absurd same (unlikeClass (isShort_iff.mp (needsImport_iff.mp needed).1).1)

theorem Conventional.read_nameOf {c : ClassName} (member : c.topLevel ∈ unit.outermost)
    (named : c.Conventional) : (unit.scope inJavaLang).read (unit.nameOf c) = c := by
  rw [nameOf]
  split
  next short => exact named.read_simpleNames (conventional.outermost?_short short)
  next long =>
    by_cases default : c.package = ""
    · have own : c.topLevel.package = unit.package :=
        default.trans (conventional.defaultPackage _ member default).symm
      rw [ClassName.canonicalName, ClassName.joined, if_pos default]
      exact named.read_simpleNames (conventional.outermost?_own member own)
    · have whole := named.ofIdentifiers default
      rw [named.splitOn_canonicalName default] at whole
      rw [Scope.read, named.splitOn_canonicalName default]
      cases segments : Text.splitOn '.' c.package with
      | nil => exact absurd segments (Text.splitOn_ne_nil '.' c.package)
      | cons segment rest =>
        have lower := named.package segment (by simp [segments])
        rw [segments] at whole
        rw [List.cons_append, List.head?_cons, Option.bind_some, conventional.outermost?_lower lower]
        exact whole

/-- Two imports of one simple name are the same import. -/
theorem Conventional.nodup_imported (distinct : unit.outermost.Nodup) :
    (unit.imported.map fun line => (ClassName.ofQualified line).simpleName).Nodup := by
  have names : ∀ c ∈ unit.outermost.filter unit.needsImport,
      (ClassName.ofQualified c.canonicalName).simpleName = c.simpleName := fun c listed => by
    rw [List.mem_filter] at listed
    have inPackage := (needsImport_iff.mp listed.2).2.2.1
    rw [(conventional.classes c listed.1).ofQualified inPackage]
  have alone : ∀ c ∈ unit.outermost.filter unit.needsImport,
      ∀ d ∈ unit.outermost.filter unit.needsImport, c.simpleName = d.simpleName → c = d := by
    intro c first d second same
    rw [List.mem_filter] at first second
    exact (isShort_iff.mp (needsImport_iff.mp second.2).1).2.1 c first.1 same
  have sorted := List.mergeSort_perm
    ((unit.outermost.filter unit.needsImport).map ClassName.canonicalName) (· ≤ ·)
  rw [imported, (sorted.map _).nodup_iff, List.map_map]
  exact List.map_congr_left names ▸ (distinct.filter _).map_on alone

/-- No import takes the name of the declared class. -/
theorem Conventional.undeclared_imported {line : String} (listed : line ∈ unit.imported) :
    unit.declared ≠ some (ClassName.ofQualified line).simpleName := by
  obtain ⟨c, needed, -, read⟩ := conventional.read_import listed
  obtain ⟨short, -, -, other⟩ := needsImport_iff.mp needed
  rw [read]
  exact fun same => other ((isShort_iff.mp short).2.2 same)

end

theorem pairwise_imported (unit : Imports) : unit.imported.Pairwise (· ≤ ·) := by
  have trans (a b c : String) : decide (a ≤ b) → decide (b ≤ c) → decide (a ≤ c) := by
    simpa using String.le_trans
  have total (a b : String) : (decide (a ≤ b) || decide (b ≤ a)) = true := by
    simpa using String.le_total a b
  have sorted := List.pairwise_mergeSort trans total
    ((unit.outermost.filter unit.needsImport).map ClassName.canonicalName)
  simpa [imported] using sorted

/-- What a unit may refer to. Its names are conventional, it refers to classes of the default package
only from there, and every class of `java.lang` that it refers to is one. -/
structure WellNamed (package : String) (declared : Option String) (referenced : List ClassName)
    (inJavaLang : String → Bool) : Prop where
  classes : ∀ c ∈ referenced, c.Conventional
  declared : ∀ name ∈ declared, ClassName.isSimpleName name
  defaultPackage : ∀ c ∈ referenced, c.package = "" → package = ""
  known : ∀ c ∈ referenced, c.package = "java.lang" → inJavaLang c.topLevel.simpleName
  upper : ∀ name, inJavaLang name → ClassName.startsUppercase name.toList

section
variable {package : String} {declared : Option String} {referenced : List ClassName}
  {inJavaLang : String → Bool}

theorem mem_outermost {c : ClassName} :
    c ∈ (ofReferenced package declared referenced).outermost ↔
      ∃ d ∈ referenced, d.topLevel = c := by
  simp [ofReferenced, List.mem_eraseDups]

theorem WellNamed.conventional (named : WellNamed package declared referenced inJavaLang) :
    (ofReferenced package declared referenced).Conventional inJavaLang where
  classes c member := by
    obtain ⟨d, present, rfl⟩ := mem_outermost.mp member
    exact (named.classes d present).topLevel
  outermost c member := by
    obtain ⟨d, -, rfl⟩ := mem_outermost.mp member
    simp [ClassName.topLevel, List.take_take]
  declared := named.declared
  defaultPackage c member default := by
    obtain ⟨d, present, rfl⟩ := mem_outermost.mp member
    exact named.defaultPackage d present default
  known c member isJavaLang := by
    obtain ⟨d, present, rfl⟩ := mem_outermost.mp member
    exact named.known d present isJavaLang
  upper := named.upper

/-- Every name that a unit writes is read as the class it was written for. The imports are sorted,
have distinct simple names other than that of the declared class, and each is there for a class that
is written without its package. -/
theorem read_written (named : WellNamed package declared referenced inJavaLang) :
    let unit := ofReferenced package declared referenced
    (∀ c ∈ referenced, (unit.scope inJavaLang).read (unit.nameOf c) = c) ∧
      (unit.imported.map fun line => (ClassName.ofQualified line).simpleName).Nodup ∧
      (∀ line ∈ unit.imported, declared ≠ some (ClassName.ofQualified line).simpleName) ∧
      (∀ line ∈ unit.imported, ∃ c ∈ referenced, line = c.topLevel.canonicalName ∧
        unit.nameOf c = ".".intercalate c.simpleNames) ∧
      unit.imported.Pairwise (· ≤ ·) := by
  intro unit
  have conventional : unit.Conventional inJavaLang := named.conventional
  refine ⟨fun c member => ?_, ?_, fun line listed => ?_, fun line listed => ?_, ?_⟩
  · have present : c.topLevel ∈ unit.outermost := mem_outermost.mpr ⟨c, member, rfl⟩
    exact conventional.read_nameOf present (named.classes c member)
  · exact conventional.nodup_imported (nodup_eraseDups _)
  · exact conventional.undeclared_imported listed
  · obtain ⟨c, present, needed, rfl⟩ := mem_imported.mp listed
    obtain ⟨d, member, rfl⟩ := mem_outermost.mp present
    exact ⟨d, member, rfl, if_pos (needsImport_iff.mp needed).1⟩
  · exact pairwise_imported unit

end
/-- Classes that share simple names with each other, with `java.lang` and with a declared class
`Bootstrap` of `com.example`. -/
def clashing : List ClassName :=
  [⟨"java.util", ["Map", "Entry"]⟩, ⟨"java.util", ["List"]⟩, ⟨"java.awt", ["List"]⟩,
    ⟨"com.example", ["String"]⟩, ⟨"java.lang", ["String"]⟩, ⟨"java.lang", ["Class"]⟩,
    ⟨"com.example", ["Helper", "Part"]⟩, ⟨"org.other", ["Bootstrap"]⟩]

theorem read_written_clashing :
    let known := fun name => ["String", "Class"].contains name
    let unit := ofReferenced "com.example" (some "Bootstrap") clashing
    WellNamed "com.example" (some "Bootstrap") clashing known ∧
      (∀ c ∈ clashing, (unit.scope known).read (unit.nameOf c) = c) ∧
      clashing.map unit.nameOf = ["Map.Entry", "java.util.List", "java.awt.List",
        "com.example.String", "java.lang.String", "Class", "Helper.Part", "org.other.Bootstrap"] ∧
      unit.imported = ["java.util.Map"] := by
  intro known unit
  have named : WellNamed "com.example" (some "Bootstrap") clashing known := {
    classes := fun c member => by
      have : ∀ c ∈ clashing, (∀ identifier ∈ Text.splitOn '.' c.package,
          ClassName.startsUppercase identifier.toList = false) ∧ c.simpleNames ≠ [] ∧
          ∀ name ∈ c.simpleNames, ClassName.isSimpleName name := by decide
      obtain ⟨package, named, simple⟩ := this c member
      exact ⟨package, named, simple⟩
    declared := by decide
    defaultPackage := by decide
    known := by decide
    upper := fun name listed => by
      have : name = "String" ∨ name = "Class" := by simpa [known] using listed
      rcases this with rfl | rfl <;> decide }
  exact ⟨named, (read_written named).1, by decide +kernel, by decide +kernel⟩

end Imports

end Prewire.Java
