import Prewire.Java.Imports

/-! Writing code as lines. The indentation of a line is written together with its first character,
at the level of that moment, so blank lines stay blank. -/
namespace Prewire.Java

structure Layout where
  written : String := ""
  level : Nat := 0
  atLineStart : Bool := true
  deriving Repr, Inhabited

namespace Layout

/-- What every line is written with: the text of one level and the names of classes. -/
structure Style where
  unit : String
  imports : Imports

def indentation (style : Style) (level : Nat) : String :=
  String.join (List.replicate level style.unit)

def put (style : Style) (layout : Layout) (c : Char) : Layout :=
  if c = '\n' then { layout with written := layout.written.push c, atLineStart := true }
  else if layout.atLineStart then
    { layout with
      written := (layout.written ++ indentation style layout.level).push c, atLineStart := false }
  else { layout with written := layout.written.push c }

def write (style : Style) (layout : Layout) (text : String) : Layout :=
  text.toList.foldl (put style) layout

def indent (layout : Layout) : Layout := { layout with level := layout.level + 1 }

/-- One level less; there is none below zero. -/
def unindent (layout : Layout) : Layout := { layout with level := layout.level - 1 }

def typeText (style : Style) (t : JavaType) : String := t.render style.imports.nameOf

def writePart (style : Style) (layout : Layout) : Code.Part → Layout
  | .text content => layout.write style content
  | .type reference => layout.write style (typeText style reference)
  | .indent => layout.indent
  | .unindent => layout.unindent

def writeCode (style : Style) (layout : Layout) (code : Code) : Layout :=
  code.parts.foldl (writePart style) layout

/-- The code, and a line end unless the code ended its last line itself. -/
def writeLines (style : Style) (layout : Layout) (code : Code) : Layout :=
  let layout := layout.writeCode style code
  if layout.atLineStart then layout else layout.write style "\n"

end Layout

/-- Code rendered outside any compilation unit, with the imports that it would need. -/
structure Snippet where
  code : String
  imports : List String
  deriving Repr

def Code.snippet (code : Code) : Snippet :=
  let imports := Imports.ofReferenced "" none code.classes
  { code := (Layout.writeCode ⟨"  ", imports⟩ {} code).written, imports := imports.imported }

end Prewire.Java
