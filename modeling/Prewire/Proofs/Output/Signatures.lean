import Prewire.Proofs.Output.Merging
import Prewire.Proofs.Text.Split
import Prewire.Proofs.Types.Hierarchy

/-! Texts of signatures. A text tells the name and the erased parameter types of an executable apart, where
identifiers hold none of the characters between them, so that two texts are equal for executables of one
signature and for no others. -/
namespace Prewire

open Java Types

def separators : List Char := ['.', ',', ' ', '(', ')', '[', ']', '<', '>']

/-- Whether a text can be an identifier: it is filled, without separators, and not the keyword of a
primitive. -/
def isIdentifier (text : String) : Bool :=
  !text.isEmpty && text.toList.all (· ∉ separators) && (Primitive.ofKeyword? text).isNone

/-- The names that occur in types. -/
structure Vocabulary where
  classes : List ClassName
  typeVariables : List String

structure Vocabulary.IsDistinct (w : Vocabulary) : Prop where
  classParts : ∀ c ∈ w.classes, ∀ part ∈ Text.splitOn '.' c.canonicalName, isIdentifier part
  typeVariables : ∀ v ∈ w.typeVariables, isIdentifier v
  canonical : ∀ c ∈ w.classes, ∀ d ∈ w.classes, c.canonicalName = d.canonicalName → c = d
  apart : ∀ v ∈ w.typeVariables, .topLevelNamed "" v ∉ w.classes

/-- A type without type arguments that is no array. -/
inductive Vocabulary.Plain (w : Vocabulary) : JavaType → Prop
  | ofPrimitive (p : Primitive) : Plain w (.primitive p)
  | ofClass {c : ClassName} (listed : c ∈ w.classes) : Plain w (.ofClass c)
  | ofVariable {v : String} (listed : v ∈ w.typeVariables) : Plain w (.variable v)

inductive Vocabulary.Erased (w : Vocabulary) : JavaType → Prop
  | plain {t : JavaType} (plain : w.Plain t) : Erased w t
  | array {t : JavaType} (component : Erased w t) : Erased w (.array t)

theorem keyword_injective {p q : Primitive} (same : p.keyword = q.keyword) : p = q := by
  have read := p.ofKeyword?_keyword
  rw [same, q.ofKeyword?_keyword] at read
  exact (Option.some.inj read).symm

theorem keyword_ne_empty (p : Primitive) : p.keyword ≠ "" := by
  cases p <;> simp [Primitive.keyword]

theorem not_mem_keyword (p : Primitive) {c : Char} (separator : c ∈ separators) : c ∉ p.keyword.toList := by
  have flat : p.keyword.toList.all (· ∉ separators) = true := by cases p <;> rfl
  intro member
  exact of_decide_eq_true (List.all_eq_true.mp flat c member) separator

theorem isIdentifier_iff {text : String} : isIdentifier text ↔
    text ≠ "" ∧ (∀ c ∈ text.toList, c ∉ separators) ∧ Primitive.ofKeyword? text = none := by
  simp [isIdentifier, and_assoc]

section
variable {text : String} (identifier : isIdentifier text)
include identifier

theorem ne_empty_of_isIdentifier : text ≠ "" := (isIdentifier_iff.mp identifier).1

theorem not_mem_of_isIdentifier {c : Char} (separator : c ∈ separators) : c ∉ text.toList := fun member =>
  (isIdentifier_iff.mp identifier).2.1 c member separator

theorem ne_keyword_of_isIdentifier (p : Primitive) : p.keyword ≠ text := by
  rintro rfl
  have none := (isIdentifier_iff.mp identifier).2.2
  rw [p.ofKeyword?_keyword] at none
  cases none

end

/-! ### Names of types -/

namespace Vocabulary

variable {w : Vocabulary}

theorem erased_erasure (t : JavaType) (known : t.erasure.classes ⊆ w.classes)
    (named : t.erasure.variableNames ⊆ w.typeVariables) : w.Erased t.erasure := by
  induction t using JavaType.erasure.induct with
  | case1 name arguments => exact .plain (.ofClass (known List.mem_cons_self))
  | case2 component ih => exact .array (ih known named)
  | case3 t noClass noArray =>
    match t with
    | .primitive p => exact .plain (.ofPrimitive p)
    | .classType name arguments => exact absurd rfl (noClass name arguments)
    | .array component => exact absurd rfl (noArray component)
    | .variable v => exact .plain (.ofVariable (named List.mem_cons_self))

theorem toString_array (t : JavaType) : toString (JavaType.array t) = toString t ++ "[]" := rfl

section
variable (distinct : w.IsDistinct)
include distinct

theorem IsDistinct.canonicalName_ne_empty {c : ClassName} (listed : c ∈ w.classes) :
    c.canonicalName ≠ "" := by
  intro empty
  have part := distinct.classParts c listed "" (by rw [empty]; decide)
  cases part

/-- A canonical name holds no separators but dots. -/
theorem IsDistinct.eq_dot_of_mem {c : ClassName} (listed : c ∈ w.classes) {x : Char}
    (member : x ∈ c.canonicalName.toList) (separator : x ∈ separators) : x = '.' := by
  rw [← Text.intercalate_splitOn c.canonicalName, String.toList_intercalate] at member
  rcases Text.of_mem_intercalate member with between | ⟨_, piece, within⟩
  · simpa using between
  · obtain ⟨part, cut, rfl⟩ := List.mem_map.mp piece
    exact absurd within (not_mem_of_isIdentifier (distinct.classParts c listed part cut) separator)

theorem IsDistinct.keyword_ne_canonicalName (p : Primitive) {c : ClassName} (listed : c ∈ w.classes) :
    p.keyword ≠ c.canonicalName := by
  intro same
  have whole : p.keyword ∈ Text.splitOn '.' c.canonicalName := by
    rw [← same]
    cases p <;> decide
  exact ne_keyword_of_isIdentifier (distinct.classParts c listed _ whole) p rfl

/-- Only a class of the default package has a name without dots. -/
theorem IsDistinct.canonicalName_ne_variable {c : ClassName} (listed : c ∈ w.classes) {v : String}
    (named : v ∈ w.typeVariables) : c.canonicalName ≠ v := by
  rintro rfl
  have flat : '.' ∉ c.canonicalName.toList :=
    not_mem_of_isIdentifier (distinct.typeVariables _ named) (by decide)
  have default : c.package = "" := by
    by_contra inPackage
    simp [ClassName.canonicalName, ClassName.joined, inPackage] at flat
  have name : c.canonicalName = ".".intercalate c.simpleNames := by
    rw [ClassName.canonicalName, ClassName.joined, if_pos default]
  have outermost : c = .topLevelNamed "" c.canonicalName := by
    obtain ⟨package, names⟩ := c
    obtain rfl : package = "" := default
    match names with
    | [] => exact absurd name (distinct.canonicalName_ne_empty listed)
    | [simple] => rw [name]; rfl
    | first :: second :: rest =>
      rw [name] at flat
      simp at flat
  exact distinct.apart _ named (outermost ▸ listed)

/-- The text of a type that is no array is filled and holds no separators but dots. -/
theorem IsDistinct.text_plain {t : JavaType} (plain : w.Plain t) :
    toString t ≠ "" ∧ ∀ x ∈ (toString t).toList, x ∈ separators → x = '.' := by
  cases plain with
  | ofPrimitive p =>
    exact ⟨keyword_ne_empty p, fun x member separator => absurd member (not_mem_keyword p separator)⟩
  | ofClass listed =>
    exact ⟨distinct.canonicalName_ne_empty listed, fun x => distinct.eq_dot_of_mem listed⟩
  | ofVariable named =>
    have identifier := distinct.typeVariables _ named
    exact ⟨ne_empty_of_isIdentifier identifier, fun x member separator =>
      absurd member (not_mem_of_isIdentifier identifier separator)⟩

theorem IsDistinct.plain_injective {s t : JavaType} (one : w.Plain s) (other : w.Plain t)
    (same : toString s = toString t) : s = t := by
  cases one with
  | ofPrimitive p =>
    cases other with
    | ofPrimitive q => rw [keyword_injective same]
    | ofClass listed => exact absurd same (distinct.keyword_ne_canonicalName p listed)
    | ofVariable named => exact absurd same (ne_keyword_of_isIdentifier (distinct.typeVariables _ named) p)
  | ofClass listed =>
    cases other with
    | ofPrimitive q => exact absurd same.symm (distinct.keyword_ne_canonicalName q listed)
    | ofClass listed' => rw [distinct.canonical _ listed _ listed' same]
    | ofVariable named => exact absurd same (distinct.canonicalName_ne_variable listed named)
  | ofVariable named =>
    cases other with
    | ofPrimitive q =>
      exact absurd same.symm (ne_keyword_of_isIdentifier (distinct.typeVariables _ named) q)
    | ofClass listed => exact absurd same.symm (distinct.canonicalName_ne_variable listed named)
    | ofVariable => exact congrArg JavaType.variable same

/-- Between the parentheses of a signature a type has no comma, and it is not left out. -/
theorem IsDistinct.text_erased {t : JavaType} (erased : w.Erased t) :
    toString t ≠ "" ∧ ',' ∉ (toString t).toList := by
  induction erased with
  | plain plain =>
    obtain ⟨filled, dots⟩ := distinct.text_plain plain
    exact ⟨filled, fun comma => absurd (dots ',' comma (by decide)) (by decide)⟩
  | array _ ih => simp [toString_array, ih.2]

/-- By induction over the dimensions of arrays: a type that is no array has no brackets. -/
theorem IsDistinct.erased_injective {s t : JavaType} (one : w.Erased s) (other : w.Erased t)
    (same : toString s = toString t) : s = t := by
  have unlike {plain component : JavaType} (single : w.Plain plain) :
      toString plain ≠ toString (JavaType.array component) := by
    intro same
    have bracket : '[' ∈ (toString plain).toList := by rw [same, toString_array]; simp
    exact absurd ((distinct.text_plain single).2 '[' bracket (by decide)) (by decide)
  induction one generalizing t with
  | plain single =>
    cases other with
    | plain single' => exact distinct.plain_injective single single' same
    | array => exact absurd same (unlike single)
  | array component ih =>
    cases other with
    | plain single' => exact absurd same.symm (unlike single')
    | array component' =>
      rw [toString_array, toString_array, String.append_left_inj] at same
      exact congrArg JavaType.array (ih component' same)

theorem IsDistinct.map_toString_injective {ss ts : List JavaType} (ones : ∀ s ∈ ss, w.Erased s)
    (others : ∀ t ∈ ts, w.Erased t) (same : ss.map toString = ts.map toString) : ss = ts := by
  induction ss generalizing ts with
  | nil => exact (List.map_eq_nil_iff.mp same.symm).symm
  | cons s ss ih =>
    cases ts with
    | nil => cases same
    | cons t ts =>
      rw [List.forall_mem_cons] at ones others
      obtain ⟨first, rest⟩ := List.cons.inj same
      rw [distinct.erased_injective ones.1 others.1 first, ih ones.2 others.2 rest]

end
end Vocabulary

/-! ### Lists of parameters -/

theorem splitChars_commas {t : String} {rest : List String} (flat : ∀ u ∈ t :: rest, ',' ∉ u.toList) :
    Text.splitChars ',' (", ".intercalate (t :: rest)).toList =
      t.toList :: rest.map fun u => ' ' :: u.toList := by
  have text : (", ".intercalate (t :: rest)).toList =
      [',', ' '].intercalate (t.toList :: rest.map String.toList) := String.toList_intercalate
  have pieces : ∀ piece ∈ t.toList :: rest.map String.toList, ',' ∉ piece := by simpa using flat
  rw [text, Text.splitChars_padded (by decide) pieces, List.map_map]
  rfl

theorem intercalate_ne_empty {t : String} (filled : t ≠ "") (rest : List String) :
    ", ".intercalate (t :: rest) ≠ "" := by
  cases rest with
  | nil => simpa using filled
  | cons next rest => simp [String.intercalate_cons_cons]

/-- The texts between commas can be told from the whole. -/
theorem eq_of_intercalate {texts others : List String} (single : ∀ t ∈ texts, t ≠ "" ∧ ',' ∉ t.toList)
    (single' : ∀ t ∈ others, t ≠ "" ∧ ',' ∉ t.toList)
    (same : ", ".intercalate texts = ", ".intercalate others) : texts = others := by
  match texts, others with
  | [], [] => rfl
  | t :: rest, [] => exact absurd same (intercalate_ne_empty (single t List.mem_cons_self).1 rest)
  | [], t :: rest => exact absurd same.symm (intercalate_ne_empty (single' t List.mem_cons_self).1 rest)
  | t :: rest, u :: others =>
    have pieces := splitChars_commas fun t member => (single t member).2
    rw [same, splitChars_commas fun t member => (single' t member).2] at pieces
    obtain ⟨first, later⟩ := List.cons.inj pieces
    have injective (a b : String) (padded : ' ' :: a.toList = ' ' :: b.toList) : a = b :=
      String.toList_inj.mp (List.cons.inj padded).2
    rw [String.toList_inj.mp first, (List.map_inj_right injective).mp later]

/-- The name ends at the first parenthesis. -/
theorem eq_of_parenthesized {name other : String} (flat : '(' ∉ name.toList) (flat' : '(' ∉ other.toList)
    {inner inner' : String} (same : name ++ "(" ++ inner ++ ")" = other ++ "(" ++ inner' ++ ")") :
    name = other ∧ inner = inner' := by
  have text (name inner : String) : (name ++ "(" ++ inner ++ ")").toList =
      name.toList ++ '(' :: (inner.toList ++ [')']) := by simp
  have whole := congrArg String.toList same
  rw [text, text] at whole
  have cut := congrArg (Text.splitChars '(') whole
  rw [Text.splitChars_append, Text.splitChars_append, Text.splitChars_of_not_mem flat,
    Text.splitChars_of_not_mem flat'] at cut
  have names : name = other := String.toList_inj.mp (List.cons.inj cut).1
  rw [names] at whole
  have inside := List.append_cancel_right (List.cons.inj (List.append_cancel_left whole)).2
  exact ⟨names, String.toList_inj.mp inside⟩

namespace Output

open Reflection Types.Registry

def vocabulary (executables : List Executable) : Vocabulary where
  classes := executables.flatMap fun e => e.parameterTypes.flatMap (·.erasure.classes)
  typeVariables := executables.flatMap fun e => e.parameterTypes.flatMap (·.erasure.variableNames)

/-- Executables that are named by identifiers, as are the types of their parameters. -/
structure Spelled (executables : List Executable) : Prop where
  methods : ∀ e ∈ executables, ∀ name ∈ e.methodName?, isIdentifier name
  types : (vocabulary executables).IsDistinct

def erasedTypes (e : Executable) : List JavaType := e.parameterTypes.map JavaType.erasure

theorem sameSignature_iff {a b : Executable} :
    a.sameSignature b ↔ a.methodName? = b.methodName? ∧ erasedTypes a = erasedTypes b := by
  simp [Executable.sameSignature, erasedTypes]

theorem signature_eq (e : Executable) : signature e =
    e.methodName?.getD "<init>" ++ "(" ++ ", ".intercalate ((erasedTypes e).map toString) ++ ")" := by
  rw [signature, erasedTypes, List.map_map]
  rfl

theorem erased_of_mem {executables : List Executable} {e : Executable} (listed : e ∈ executables) :
    ∀ t ∈ erasedTypes e, (vocabulary executables).Erased t := by
  rw [erasedTypes, List.forall_mem_map]
  intro t member
  apply Vocabulary.erased_erasure
  · exact fun c named => List.mem_flatMap.mpr ⟨e, listed, List.mem_flatMap.mpr ⟨t, member, named⟩⟩
  · exact fun v named => List.mem_flatMap.mpr ⟨e, listed, List.mem_flatMap.mpr ⟨t, member, named⟩⟩

section
variable {executables : List Executable} (spelled : Spelled executables)
include spelled

theorem Spelled.texts {e : Executable} (listed : e ∈ executables) :
    ∀ text ∈ (erasedTypes e).map toString, text ≠ "" ∧ ',' ∉ text.toList := by
  rw [List.forall_mem_map]
  exact fun t member => spelled.types.text_erased (erased_of_mem listed t member)

theorem Spelled.flat_name {e : Executable} (listed : e ∈ executables) :
    '(' ∉ (e.methodName?.getD "<init>").toList := by
  cases named : e.methodName? with
  | none => decide
  | some name => exact not_mem_of_isIdentifier (spelled.methods e listed name named) (by decide)

/-- No method is named like constructors are in signatures. -/
theorem Spelled.methodName?_eq {a b : Executable} (one : a ∈ executables) (other : b ∈ executables)
    (same : a.methodName?.getD "<init>" = b.methodName?.getD "<init>") : a.methodName? = b.methodName? := by
  have unlike {e : Executable} (listed : e ∈ executables) {name : String}
      (named : e.methodName? = some name) : name ≠ "<init>" := by
    rintro rfl
    exact absurd (spelled.methods e listed _ named) (by decide)
  cases first : a.methodName? with
  | none =>
    cases second : b.methodName? with
    | none => rfl
    | some name =>
      rw [first, second] at same
      exact absurd same.symm (unlike other second)
  | some name =>
    cases second : b.methodName? with
    | none =>
      rw [first, second] at same
      exact absurd same (unlike one first)
    | some name' =>
      rw [first, second] at same
      exact congrArg some same

theorem Spelled.signature_eq_iff {a b : Executable} (one : a ∈ executables) (other : b ∈ executables) :
    signature a = signature b ↔ a.sameSignature b := by
  rw [sameSignature_iff, signature_eq, signature_eq]
  constructor
  · intro same
    obtain ⟨names, parameters⟩ := eq_of_parenthesized (spelled.flat_name one) (spelled.flat_name other) same
    have texts := eq_of_intercalate (spelled.texts one) (spelled.texts other) parameters
    exact ⟨spelled.methodName?_eq one other names,
      spelled.types.map_toString_injective (erased_of_mem one) (erased_of_mem other) texts⟩
  · rintro ⟨names, types⟩
    rw [names, types]

end

/-! ### Recorded signatures -/

/-- The distinct texts of methods are those of the first method of each signature. -/
theorem eraseDups_map_signature {methods : List Executable}
    (told : ∀ a ∈ methods, ∀ b ∈ methods, signature a = signature b ↔ a.sameSignature b) :
    (methods.map signature).eraseDups = (firstOfSignature methods).map signature := by
  induction methods with
  | nil => rfl
  | cons m rest ih =>
    have later := ih fun a one b other => told a (.tail m one) b (.tail m other)
    have others : ∀ other ∈ firstOfSignature rest,
        (!(signature other == signature m)) = !m.sameSignature other := by
      intro other kept
      have listed : other ∈ rest := List.mem_of_find?_eq_some (mem_firstOfSignature.mp kept)
      have same : (signature other == signature m) = other.sameSignature m :=
        Bool.eq_iff_iff.mpr (beq_iff_eq.trans (told other (.tail m listed) m (.head rest)))
      rw [sameSignature_comm m other, same]
    rw [List.map_cons, List.eraseDups_cons, ← filter_eraseDups, later, List.filter_map, firstOfSignature,
      List.map_cons]
    exact congrArg (fun kept => signature m :: kept.map signature) (List.filter_congr others)

/-- Executables of one class are recorded one after the other. -/
theorem methods_entryOf_foldl {owner : ClassName} {methods : List Executable}
    (declared : ∀ m ∈ methods, m.declaringClass = owner) (r : Reflection) :
    ((methods.foldl addExecutable r).entryOf owner).methods =
      (methods.map signature).foldl ReflectionEntry.adding (r.entryOf owner).methods := by
  induction methods generalizing r with
  | nil => rfl
  | cons m rest ih =>
    rw [List.forall_mem_cons] at declared
    obtain ⟨rfl, declared⟩ := declared
    have recorded : (r.addExecutable m).entryOf m.declaringClass = _ := entryOf_update fun _ => rfl
    rw [List.foldl_cons, ih declared, recorded, if_pos rfl]
    rfl

/-- For executables of a class the texts of two signatures are equal if and only if their names and erased
parameter types are. So the entry of the class, where they are recorded one after the other, comes to hold
exactly one text for each signature among them, in the order of the first of each. -/
theorem signature_identifies {owner : ClassName} {executables : List Executable}
    (declared : ∀ e ∈ executables, e.declaringClass = owner) (spelled : Spelled executables) :
    (∀ a ∈ executables, ∀ b ∈ executables, signature a = signature b ↔ a.sameSignature b) ∧
    ∀ r : Reflection, (r.entryOf owner).methods = [] →
      ((executables.foldl addExecutable r).entryOf owner).methods =
        (firstOfSignature executables).map signature := by
  have told : ∀ a ∈ executables, ∀ b ∈ executables, signature a = signature b ↔ a.sameSignature b :=
    fun _ one _ other => spelled.signature_eq_iff one other
  refine ⟨told, fun r bare => ?_⟩
  rw [methods_entryOf_foldl declared, bare, ← eraseDups_map_signature told]
  exact ReflectionEntry.foldl_adding [] _

namespace SignatureSample

def owner : ClassName := ⟨"com.example", ["Registry"]⟩

def method (name : String) (types : List JavaType) : Executable where
  declaringClass := owner
  kind := .method name none false
  parameters := types.map fun type => { name := "value", type := type }

def list : ClassName := ⟨"java.util", ["List"]⟩

def overloads : List Executable := [
  method "add" [.classType list [.variable "T"], .primitive .int],
  method "add" [.ofClass list, .primitive .int],
  method "add" [.ofClass list, .array (.primitive .int)],
  method "add" [.variable "T", .primitive .int],
  method "add" [],
  { method "" [.array (.classType list [.variable "T"])] with kind := .constructor }]

end SignatureSample

open SignatureSample in
theorem signature_identifies_overloads :
    (∀ e ∈ overloads, e.declaringClass = owner) ∧ Spelled overloads ∧
    ((overloads.foldl addExecutable {}).entryOf owner).methods =
      ["add(java.util.List, int)", "add(java.util.List, int[])", "add(T, int)", "add()",
        "<init>(java.util.List[])"] := by
  have declared : ∀ e ∈ overloads, e.declaringClass = owner := by decide
  have spelled : Spelled overloads := {
    methods := by decide +kernel
    types := {
      classParts := by decide +kernel
      typeVariables := by decide +kernel
      canonical := by decide +kernel
      apart := by decide +kernel } }
  have texts : (firstOfSignature overloads).map signature =
      ["add(java.util.List, int)", "add(java.util.List, int[])", "add(T, int)", "add()",
        "<init>(java.util.List[])"] := by decide +kernel
  exact ⟨declared, spelled, texts ▸ (signature_identifies declared spelled).2 {} rfl⟩

end Output
end Prewire
