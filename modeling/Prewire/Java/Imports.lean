import Prewire.Java.Code

/-! How a compilation unit names the classes that it refers to. A class is short when no other
referenced outermost class has its simple name and the declared class does not; any other class is
written with its package. -/
namespace Prewire.Java

/-- A compilation unit as far as names go: where it is, what it declares, and the distinct outermost
classes of what it refers to. -/
structure Imports where
  package : String
  declared : Option String
  outermost : List ClassName
  deriving Repr

namespace Imports

def ofReferenced (package : String) (declared : Option String) (referenced : List ClassName) :
    Imports :=
  ⟨package, declared, (referenced.map ClassName.topLevel).eraseDups⟩

def isShort (unit : Imports) (c : ClassName) : Bool :=
  unit.outermost.contains c
    && unit.outermost.all (fun d => d.simpleName != c.simpleName || d = c)
    && (unit.declared != some c.simpleName || c.package = unit.package)

def needsImport (unit : Imports) (c : ClassName) : Bool :=
  unit.isShort c && !c.isJavaLang && c.package != "" && c.package != unit.package

def imported (unit : Imports) : List String :=
  ((unit.outermost.filter unit.needsImport).map ClassName.canonicalName).mergeSort

def nameOf (unit : Imports) (c : ClassName) : String :=
  if unit.isShort c.topLevel then ".".intercalate c.simpleNames else c.canonicalName

end Imports
end Prewire.Java
