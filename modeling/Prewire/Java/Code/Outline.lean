import Prewire.Java.Code
import Prewire.Text.Quoted

/-! The nested outline of types and fragments that messages about templates show. -/
namespace Prewire.Java

def Primitive.outline : Primitive → String
  | .boolean => "Boolean" | .byte => "Byte" | .short => "Short" | .int => "Int"
  | .long => "Long" | .float => "Float" | .double => "Double" | .char => "Char"

def ClassName.outline (c : ClassName) : String :=
  "ClassName \x7b package: " ++ Text.quoted c.package ++ ", simple_names: "
    ++ Text.bracketed (c.simpleNames.map Text.quoted) ++ " \x7d"

mutual
def JavaType.outline : JavaType → String
  | .primitive p => "Primitive(" ++ p.outline ++ ")"
  | .classType name args =>
    "Class \x7b name: " ++ name.outline ++ ", generics: "
      ++ Text.bracketed (JavaType.outlines args) ++ " \x7d"
  | .array component => "Array(" ++ component.outline ++ ")"
  | .variable name => "Variable(" ++ Text.quoted name ++ ")"
def JavaType.outlines : List JavaType → List String
  | [] => []
  | t :: ts => t.outline :: JavaType.outlines ts
end

def Code.Part.outline : Code.Part → String
  | .text content => "Text(" ++ Text.quoted content ++ ")"
  | .type reference => "Type(" ++ reference.outline ++ ")"
  | .indent => "Indent"
  | .unindent => "Unindent"

def Code.outline (code : Code) : String :=
  "CodeBlock \x7b parts: " ++ Text.bracketed (code.parts.map Part.outline) ++ " \x7d"

end Prewire.Java
