import Prewire.Java.ClassName

/-! The eight primitive types, their wrapper classes and the widening conversions between them. -/
namespace Prewire.Java

inductive Primitive where
  | boolean | byte | short | int | long | float | double | char
  deriving DecidableEq, Repr, Inhabited

namespace Primitive

def all : List Primitive := [boolean, byte, short, int, long, float, double, char]

def keyword : Primitive → String
  | boolean => "boolean" | byte => "byte" | short => "short" | int => "int"
  | long => "long" | float => "float" | double => "double" | char => "char"

def wrapperName : Primitive → String
  | boolean => "Boolean" | byte => "Byte" | short => "Short" | int => "Integer"
  | long => "Long" | float => "Float" | double => "Double" | char => "Character"

def boxed (p : Primitive) : ClassName := .topLevelNamed "java.lang" p.wrapperName

def unboxed? (c : ClassName) : Option Primitive := all.find? (·.boxed = c)

def ofKeyword? (keyword : String) : Option Primitive := all.find? (·.keyword = keyword)

/-- Identity, or a widening conversion of the language. -/
def widensTo (source target : Primitive) : Bool :=
  source = target || match source, target with
    | byte, short | byte, int | byte, long | byte, float | byte, double => true
    | short, int | short, long | short, float | short, double => true
    | char, int | char, long | char, float | char, double => true
    | int, long | int, float | int, double => true
    | long, float | long, double => true
    | float, double => true
    | _, _ => false

theorem ofKeyword?_keyword (p : Primitive) : ofKeyword? p.keyword = some p := by
  cases p <;> decide

theorem unboxed?_boxed (p : Primitive) : unboxed? p.boxed = some p := by
  cases p <;> decide

end Primitive
end Prewire.Java
