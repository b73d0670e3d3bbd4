import Prewire.Java.SourceFile
import Prewire.Java.Code.Template

/-! A generated class: static routines and, for the main one, the routine that an interface asks
for. -/
namespace Prewire.Output

open Java

structure OutputClass where
  name : ClassName
  interface : Option JavaType := none
  staticBlock : Code := Code.empty
  methods : List Method := []
  /-- The routine names that are taken, whether or not the routine is there already. -/
  reserved : List String := []
  deriving Repr

namespace OutputClass

def numbered (name : String) : Nat → String
  | 0 => name
  | n + 1 => name ++ toString (n + 1)

/-- The first of the numbered names that is not taken; one more than are taken suffice to find it.
-/
def freshName (taken : List String) (name : String) : String :=
  (((List.range (taken.length + 1)).map (numbered name)).find? (· ∉ taken)).getD name

def reserve (c : OutputClass) (name : String) : String × OutputClass :=
  let fresh := freshName c.reserved name
  (fresh, { c with reserved := fresh :: c.reserved })

def addMethod (c : OutputClass) (m : Method) : OutputClass :=
  { c with methods := c.methods ++ [m], reserved := m.name :: c.reserved }

def addMethodFirst (c : OutputClass) (m : Method) : OutputClass :=
  { c with methods := m :: c.methods, reserved := m.name :: c.reserved }

def hasMethod (c : OutputClass) (name : String) : Bool := c.methods.any (·.name = name)

/-- A class without an interface only holds static routines and is final. -/
def declaration (c : OutputClass) : ClassDeclaration where
  name := c.name.simpleName
  modifiers := if c.interface.isSome then [.publicMark] else [.publicMark, .finalMark]
  interfaces := c.interface.toList
  staticBlock := c.staticBlock
  methods := c.methods

def toSourceFile (c : OutputClass) (indentUnit : String) : SourceFile :=
  ⟨c.name.package, c.declaration, indentUnit⟩

end OutputClass
end Prewire.Output
