import Prewire.Types.Known

/-! Members of types: constructors, methods and fields, with their annotations and access. -/
namespace Prewire.Types

open Java

inductive Visibility where
  | publicAccess | protectedAccess | packageAccess | privateAccess
  deriving DecidableEq, Repr, Inhabited

def Visibility.isPublic (v : Visibility) : Bool := v = .publicAccess
def Visibility.isPrivate (v : Visibility) : Bool := v = .privateAccess

structure Annotation where
  type : ClassName
  attributes : List (String × String) := []
  deriving DecidableEq, Repr, Inhabited

namespace Annotation

def attribute? (a : Annotation) (name : String) : Option String := a.attributes.lookup name

end Annotation

def marker? (annotations : List Annotation) (known : ClassName) : Option Annotation :=
  annotations.find? fun a => Known.isNamed known a.type

structure Parameter where
  name : String
  type : JavaType
  annotations : List Annotation := []
  deriving DecidableEq, Repr, Inhabited

inductive ExecutableKind where
  | constructor
  /-- A method without a return type is `void`. -/
  | method (name : String) (returns : Option JavaType) (isStatic : Bool)
  deriving DecidableEq, Repr, Inhabited

structure Executable where
  declaringClass : ClassName
  kind : ExecutableKind
  parameters : List Parameter := []
  visibility : Visibility := .publicAccess
  annotations : List Annotation := []
  /-- Whether the last parameter takes any number of values. -/
  isVarargs : Bool := false
  deriving DecidableEq, Repr, Inhabited

namespace Executable

def isConstructor (e : Executable) : Bool := e.kind = .constructor

def methodName? (e : Executable) : Option String :=
  match e.kind with
  | .constructor => none
  | .method name _ _ => some name

/-- The return type as declared; neither a constructor nor a `void` method has one. -/
def returnType? (e : Executable) : Option JavaType :=
  match e.kind with
  | .constructor => none
  | .method _ returns _ => returns

def isStatic (e : Executable) : Bool :=
  match e.kind with
  | .constructor => false
  | .method _ _ isStatic => isStatic

def parameterTypes (e : Executable) : List JavaType := e.parameters.map Parameter.type

def parameterCount (e : Executable) : Nat := e.parameters.length

def isAnnotated (e : Executable) (known : ClassName) : Bool :=
  (marker? e.annotations known).isSome

/-- Same name and same erased parameter types, so that one overrides or hides the other. -/
def sameSignature (a b : Executable) : Bool :=
  a.methodName? = b.methodName?
    && a.parameterTypes.map JavaType.erasure = b.parameterTypes.map JavaType.erasure

def toText (e : Executable) : String :=
  e.declaringClass.canonicalName ++ (e.methodName?.map ("." ++ ·)).getD "" ++ "("
    ++ ", ".intercalate (e.parameterTypes.map toString) ++ ")"

instance : ToString Executable := ⟨toText⟩

end Executable

structure Field where
  declaringClass : ClassName
  name : String
  type : JavaType
  visibility : Visibility := .privateAccess
  isStatic : Bool := false
  annotations : List Annotation := []
  deriving DecidableEq, Repr, Inhabited

end Prewire.Types
