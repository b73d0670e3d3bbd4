import Prewire.Types.Member

/-! Declarations of classes, interfaces, enums and annotation types: all that is known of a type
without loading it. -/
namespace Prewire.Types

open Java

inductive TypeKind where
  | classKind | interfaceKind | enumKind | annotationKind
  deriving DecidableEq, Repr, Inhabited

structure TypeParameter where
  name : String
  bounds : List JavaType := []
  deriving DecidableEq, Repr, Inhabited

structure TypeDeclaration where
  name : ClassName
  kind : TypeKind := .classKind
  visibility : Visibility := .publicAccess
  declaredAbstract : Bool := false
  typeParameters : List TypeParameter := []
  superclass : Option JavaType := none
  interfaces : List JavaType := []
  constructors : List Executable := []
  methods : List Executable := []
  fields : List Field := []
  annotations : List Annotation := []
  deriving DecidableEq, Repr, Inhabited

namespace TypeDeclaration

def isInterface (d : TypeDeclaration) : Bool :=
  d.kind = .interfaceKind || d.kind = .annotationKind

/-- Abstract classes and interfaces have no instances of their own. -/
def isAbstract (d : TypeDeclaration) : Bool := d.declaredAbstract || d.isInterface

def supertypes (d : TypeDeclaration) : List JavaType := d.superclass.toList ++ d.interfaces

def isAnnotated (d : TypeDeclaration) (marking : ClassName) : Bool :=
  d.annotations.any (·.type = marking)

def genericType (d : TypeDeclaration) : JavaType :=
  .classType d.name (d.typeParameters.map fun p => .variable p.name)

/-- Values of the type parameters under type arguments; none when their numbers differ. -/
def bindings (d : TypeDeclaration) (arguments : List JavaType) : Bindings :=
  if arguments.length = d.typeParameters.length
  then (d.typeParameters.map TypeParameter.name).zip arguments else []

/-- A class that declares no constructor gets one without parameters and with its own access. -/
def withImplicitConstructor (d : TypeDeclaration) : TypeDeclaration :=
  if d.kind = .classKind && d.constructors.isEmpty then
    { d with constructors := [{ declaringClass := d.name, kind := .constructor,
                                visibility := d.visibility }] }
  else d

end TypeDeclaration
end Prewire.Types
