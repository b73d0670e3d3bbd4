import Prewire.Java.Layout
import Prewire.Files.Path

/-! Compilation units: one class in a package, with interfaces, a static initializer and methods. -/
namespace Prewire.Java

inductive Modifier where
  | publicMark | protectedMark | privateMark | abstractMark | staticMark | finalMark
  deriving DecidableEq, Repr

namespace Modifier

def all : List Modifier :=
  [.publicMark, .protectedMark, .privateMark, .abstractMark, .staticMark, .finalMark]

def keyword : Modifier → String
  | .publicMark => "public" | .protectedMark => "protected" | .privateMark => "private"
  | .abstractMark => "abstract" | .staticMark => "static" | .finalMark => "final"

/-- The modifiers in the order of writing, each once. -/
def inOrder (modifiers : List Modifier) : List Modifier := all.filter modifiers.contains

end Modifier

structure Method where
  name : String
  javadoc : Option String := none
  /-- Marker annotations. -/
  annotations : List ClassName := []
  modifiers : List Modifier := []
  /-- A method without one returns `void`. -/
  returns : Option JavaType := none
  parameters : List (JavaType × String) := []
  body : Code := Code.empty
  deriving Repr

def Method.classes (m : Method) : List ClassName :=
  m.annotations ++ (m.returns.map JavaType.classes).getD []
    ++ m.parameters.flatMap (fun (t, _) => t.classes) ++ m.body.classes

structure ClassDeclaration where
  name : String
  javadoc : Option String := none
  modifiers : List Modifier := []
  interfaces : List JavaType := []
  /-- The body of the static initializer; an empty one is not written. -/
  staticBlock : Code := Code.empty
  methods : List Method := []
  deriving Repr

def ClassDeclaration.classes (d : ClassDeclaration) : List ClassName :=
  d.interfaces.flatMap JavaType.classes ++ d.staticBlock.classes
    ++ d.methods.flatMap Method.classes

structure SourceFile where
  package : String
  declaration : ClassDeclaration
  /-- The text of one level of indentation. -/
  indentUnit : String := "  "
  deriving Repr

namespace Layout

def javadocLine (line : String) : String := if line = "" then " *\n" else " * " ++ line ++ "\n"

def writeJavadoc (style : Style) (layout : Layout) : Option String → Layout
  | none => layout
  | some text =>
    layout.write style ("/**\n" ++ String.join ((Text.lines text).map javadocLine) ++ " */\n")

def keywords (modifiers : List Modifier) : String :=
  String.join ((Modifier.inOrder modifiers).map (·.keyword ++ " "))

def signature (style : Style) (m : Method) : String :=
  keywords m.modifiers ++ (m.returns.map (typeText style)).getD "void" ++ " " ++ m.name ++ "("
    ++ ", ".intercalate (m.parameters.map fun (t, name) => typeText style t ++ " " ++ name) ++ ")"

def writeBody (style : Style) (layout : Layout) (body : Code) : Layout :=
  ((((layout.write style "\x7b\n").indent).writeLines style body).unindent).write style "\x7d\n"

def writeMethod (style : Style) (layout : Layout) (m : Method) : Layout :=
  let layout := layout.writeJavadoc style m.javadoc
  let layout := layout.write style (String.join (m.annotations.map fun annotation =>
    "@" ++ typeText style (.ofClass annotation) ++ "\n"))
  let layout := layout.write style (signature style m)
  if m.modifiers.contains .abstractMark then layout.write style ";\n"
  else (layout.write style " ").writeBody style m.body

def writeMethods (style : Style) (layout : Layout) (afterBlank : Bool) : List Method → Layout
  | [] => layout
  | m :: rest =>
    let layout := if afterBlank then layout.write style "\n" else layout
    (layout.writeMethod style m).writeMethods style true rest

def writeDeclaration (style : Style) (layout : Layout) (d : ClassDeclaration) : Layout :=
  let layout := layout.writeJavadoc style d.javadoc
  let layout := layout.write style (keywords d.modifiers)
  let layout := layout.write style ("class " ++ d.name)
  let layout := if d.interfaces.isEmpty then layout
    else layout.write style
      (" implements " ++ ", ".intercalate (d.interfaces.map (typeText style)))
  let layout := (layout.write style " \x7b\n").indent
  let layout := if d.staticBlock.isEmpty then layout
    else (layout.write style "static ").writeBody style d.staticBlock
  let layout := layout.writeMethods style (!d.staticBlock.isEmpty) d.methods
  layout.unindent.write style "\x7d\n"

end Layout

namespace SourceFile

def relativePath (file : SourceFile) : String :=
  let directory := ((Text.splitOn '.' file.package).filter (· != "")).foldl Files.push ""
  Files.push directory (file.declaration.name ++ ".java")

def imports (file : SourceFile) : Imports :=
  .ofReferenced file.package (some file.declaration.name) file.declaration.classes

def header (file : SourceFile) : String :=
  let package := if file.package = "" then "" else "package " ++ file.package ++ ";\n\n"
  let lines := file.imports.imported.map fun name => "import " ++ name ++ ";\n"
  package ++ if lines.isEmpty then "" else String.join lines ++ "\n"

def source (file : SourceFile) : String :=
  let style : Layout.Style := ⟨file.indentUnit, file.imports⟩
  ((({} : Layout).write style file.header).writeDeclaration style file.declaration).written

end SourceFile
end Prewire.Java
