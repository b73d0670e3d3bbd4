import Prewire.Java.JavaType

/-! Fragments of Java code. Types stay references until a compilation unit decides how to write
them, and indentation is relative, so a fragment can be placed anywhere. The operations below keep
a fragment in its normal form: no text is empty and no two texts are neighbours. -/
namespace Prewire.Java

inductive Code.Part where
  | text (content : String)
  | type (reference : JavaType)
  /-- Lines that follow are one level deeper. -/
  | indent
  /-- Lines that follow are one level less deep. -/
  | unindent
  deriving DecidableEq, Repr, Inhabited

structure Code where
  parts : List Code.Part
  deriving DecidableEq, Repr, Inhabited

namespace Code

/-- Concatenation; two texts that meet become one. -/
def joinParts : List Part → List Part → List Part
  | [], b => b
  | [.text s], .text t :: b => .text (s ++ t) :: b
  | p :: a, b => p :: joinParts a b

def empty : Code := ⟨[]⟩

def append (a b : Code) : Code := ⟨joinParts a.parts b.parts⟩

instance : Append Code := ⟨append⟩
instance : EmptyCollection Code := ⟨empty⟩

def text (content : String) : Code := if content = "" then empty else ⟨[.text content]⟩

instance : Coe String Code := ⟨text⟩

def type (reference : JavaType) : Code := ⟨[.type reference]⟩

def indent : Code := ⟨[.indent]⟩

def unindent : Code := ⟨[.unindent]⟩

def isEmpty (code : Code) : Bool := code.parts.isEmpty

def concat (blocks : List Code) : Code := blocks.foldl (· ++ ·) empty

def join (separator : String) : List Code → Code
  | [] => empty
  | [block] => block
  | block :: rest => block ++ text separator ++ join separator rest

def Part.classes : Part → List ClassName
  | .type reference => reference.classes
  | _ => []

def classes (code : Code) : List ClassName := code.parts.flatMap Part.classes

end Code
end Prewire.Java
