import Prewire.Java.Imports

/-! Reading the name of a class in a compilation unit. The first identifier is looked up from the
inside out; where it is no class, the whole is a name with its package. -/
namespace Prewire.Java

namespace ClassName

def isSimpleName (name : String) : Bool := startsUppercase name.toList && !name.toList.contains '.'

/-- The class that identifiers name: the package ends where one starts uppercase. -/
def ofIdentifiers (identifiers : List String) : ClassName where
  package := ".".intercalate (identifiers.takeWhile (!startsUppercase ·.toList))
  simpleNames := identifiers.dropWhile (!startsUppercase ·.toList)

def ofQualified (name : String) : ClassName := ofIdentifiers (Text.splitOn '.' name)

end ClassName

/-- What the identifiers of a compilation unit can refer to. -/
structure Scope where
  package : String
  /-- The class that the unit declares. -/
  declared : Option String
  imports : List String
  /-- The simple names of classes in the package of the unit. -/
  siblings : List String
  /-- Whether `java.lang` has a class of that simple name. -/
  inJavaLang : String → Bool

namespace Scope

/-- The outermost class of a simple name: the declared class comes first, then imports, then classes
of the package, then those of `java.lang`. -/
def outermost? (scope : Scope) (name : String) : Option ClassName :=
  if scope.declared = some name then some ⟨scope.package, [name]⟩
  else match scope.imports.find? fun line => (ClassName.ofQualified line).simpleName = name with
    | some line => some (.ofQualified line)
    | none =>
      if name ∈ scope.siblings then some ⟨scope.package, [name]⟩
      else if scope.inJavaLang name then some ⟨"java.lang", [name]⟩
      else none

/-- The class that a text names: nested in an outermost class that its first identifier finds,
otherwise the one of that package. -/
def read (scope : Scope) (text : String) : ClassName :=
  let identifiers := Text.splitOn '.' text
  match identifiers.head?.bind scope.outermost? with
  | some c => ⟨c.package, c.simpleNames ++ identifiers.tail⟩
  | none => .ofIdentifiers identifiers

end Scope

namespace Imports

def siblings (unit : Imports) : List String :=
  (unit.outermost.filter (·.package = unit.package)).map ClassName.simpleName

def scope (unit : Imports) (inJavaLang : String → Bool) : Scope :=
  ⟨unit.package, unit.declared, unit.imported, unit.siblings, inJavaLang⟩

end Imports

end Prewire.Java
