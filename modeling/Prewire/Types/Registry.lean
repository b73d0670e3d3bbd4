import Prewire.Types.Declaration

/-! The known types. A type that is not known counts as a public class without supertypes. -/
namespace Prewire.Types

open Java

structure Registry where
  declarations : List TypeDeclaration := []
  deriving Repr, Inhabited

namespace Registry

def empty : Registry := {}

def get? (r : Registry) (name : ClassName) : Option TypeDeclaration :=
  r.declarations.find? (·.name = name)

/-- Adds a declaration, in place of one of the same name. -/
def register (r : Registry) (d : TypeDeclaration) : Registry :=
  ⟨d :: r.declarations.filter (·.name ≠ d.name)⟩

def registerAll (r : Registry) (ds : List TypeDeclaration) : Registry := ds.foldl register r

def contains (r : Registry) (name : ClassName) : Bool := (r.get? name).isSome

def visibility (r : Registry) (name : ClassName) : Visibility :=
  ((r.get? name).map TypeDeclaration.visibility).getD .publicAccess

/-- Whether a class and all classes around it are public. -/
def isAccessible (r : Registry) (name : ClassName) : Bool :=
  name.withEnclosing.all fun c => (r.visibility c).isPublic
end Registry
end Prewire.Types
