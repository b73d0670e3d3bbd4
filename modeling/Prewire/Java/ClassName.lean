import Prewire.Text.Uppercase
import Prewire.Text.Split

/-! Names of Java classes. A nested class keeps the simple names of all its enclosing classes, so
the package ends where the first simple name begins; a dotted text alone does not say where that
is. -/
namespace Prewire.Java

/-- The simple names run from the outermost class to the class itself. -/
structure ClassName where
  package : String
  simpleNames : List String
  deriving DecidableEq, Repr, Inhabited

namespace ClassName

def topLevelNamed (package simpleName : String) : ClassName := ⟨package, [simpleName]⟩

def nested (c : ClassName) (simpleName : String) : ClassName :=
  ⟨c.package, c.simpleNames ++ [simpleName]⟩

def startsUppercase : List Char → Bool
  | [] => false
  | c :: _ => Text.isUppercase c

/-- Number of leading segments that form the package: those before the first one that starts
uppercase, or all but the last when none does. -/
def packageLength (segments : List (List Char)) : Nat :=
  match segments.findIdx? startsUppercase with
  | some i => i
  | none => segments.length - 1

/-- Reads a name whose nested classes are separated by dots or by dollar signs. -/
def parse (name : String) : ClassName :=
  let segments := Text.splitChars '.' name.toList
  let count := packageLength segments
  { package := String.ofList (['.'].intercalate (segments.take count))
    simpleNames := (((segments.drop count).flatMap (Text.splitChars '$')).filter
      (!·.isEmpty)).map String.ofList }

instance : Coe String ClassName := ⟨parse⟩

/-- The innermost simple name; a name without simple names has the empty one. -/
def simpleName (c : ClassName) : String := c.simpleNames.getLast?.getD ""

def topLevel (c : ClassName) : ClassName := ⟨c.package, c.simpleNames.take 1⟩

def isNested (c : ClassName) : Bool := 1 < c.simpleNames.length

def enclosing? (c : ClassName) : Option ClassName :=
  if c.isNested then some ⟨c.package, c.simpleNames.dropLast⟩ else none

def withEnclosing (c : ClassName) : List ClassName :=
  c :: (List.range c.simpleNames.length).tail.reverse.map fun count =>
    ⟨c.package, c.simpleNames.take count⟩

def joined (c : ClassName) (separator : String) : String :=
  let nestedName := separator.intercalate c.simpleNames
  if c.package = "" then nestedName else c.package ++ "." ++ nestedName

/-- The name with nested classes after dots, as in source code. -/
def canonicalName (c : ClassName) : String := c.joined "."

/-- The name with nested classes after dollar signs, as class loaders know it. -/
def reflectionName (c : ClassName) : String := c.joined "$"

instance : ToString ClassName := ⟨canonicalName⟩

def isJavaLang (c : ClassName) : Bool := c.package = "java.lang"

/-- By package, then by simple names, texts by code point. -/
def le (a b : ClassName) : Bool :=
  a.package < b.package || (a.package = b.package && !List.lex b.simpleNames a.simpleNames (· < ·))

/-- The classes in order, equal ones once. -/
def sorted (names : List ClassName) : List ClassName := (names.mergeSort le).eraseDups

end ClassName
end Prewire.Java
