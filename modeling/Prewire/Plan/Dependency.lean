import Prewire.Types.Hierarchy

/-! Dependencies that the container looks up and injects: parameters of what creates a bean, and the
autowired fields and methods of its class. -/
namespace Prewire.Plan

open Java Types

/-- How a dependency is looked up: one bean, all beans that fit, or a handle to look later. -/
inductive DependencyKind where
  | single | array | collection | provider
  deriving DecidableEq, Repr

/-- The kind that a type asks for; there is none while type variables occur in the type. -/
def DependencyKind.of? (r : Registry) (type : JavaType) : Option DependencyKind :=
  if type.mentionsVariable then none
  else match type.rawClass? with
    | none => some (if type.isArray then .array else .single)
    | some name =>
      if r.isSubtype name Known.objectFactory || r.isSubtype name Known.injectProvider
      then some .provider
      else if r.isSubtype name Known.collection then some .collection
      else some .single

inductive InjectedMember where
  | parameter (index : Nat) (parameter : Parameter)
  | field (field : Field)
  | method (method : Executable)
  deriving DecidableEq, Repr

structure Dependency where
  member : InjectedMember
  /-- The type that is looked up; for a method that of its first parameter. -/
  type : JavaType
  /-- Whether it is a failure to find nothing. -/
  isRequired : Bool
  kind : Option DependencyKind
  deriving DecidableEq, Repr

namespace Dependency

def of (r : Registry) (member : InjectedMember) (type : JavaType) (isRequired : Bool) :
    Dependency := ⟨member, type, isRequired, DependencyKind.of? r type⟩

/-- An annotation asks for a bean unless it says otherwise. -/
def asksFor (autowired : Annotation) : Bool := autowired.attribute? "required" ≠ some "false"

def ofField? (r : Registry) (field : Field) : Option Dependency :=
  if field.isStatic then none
  else (marker? field.annotations Known.autowired).map fun autowired =>
    of r (.field field) field.type (asksFor autowired)

def methodType (m : Executable) : JavaType := m.parameterTypes.head?.getD (.ofClass Known.object)

/-- A method below that has the signature takes the place of this one, autowired or not. -/
def ofMethod? (r : Registry) (creator : Executable) (below : List TypeDeclaration)
    (m : Executable) : Option Dependency :=
  if m.isStatic || m = creator || below.any (·.methods.any (·.sameSignature m)) then none
  else (marker? m.annotations Known.autowired).map fun autowired =>
    of r (.method m) (methodType m) (asksFor autowired)

/-- The injected members of a chain of classes, topmost class first and fields before methods. -/
def ofChain (r : Registry) (creator : Executable) (below : List TypeDeclaration) :
    List TypeDeclaration → List Dependency
  | [] => []
  | d :: above =>
    ofChain r creator (below ++ [d]) above ++ d.fields.filterMap (ofField? r)
      ++ d.methods.filterMap (ofMethod? r creator below)

/-- The autowired members of a class and its superclasses, other than what creates the bean. -/
def injectedInto (r : Registry) (name : ClassName) (creator : Executable) : List Dependency :=
  ofChain r creator [] (r.superclassChain name)

end Dependency
end Prewire.Plan
