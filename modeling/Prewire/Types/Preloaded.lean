import Prewire.Types.Registry

/-! The platform and container types that resolution relies on. -/
namespace Prewire.Types

open Java Known

namespace Preloaded

def T : JavaType := .variable "T"
def E : JavaType := .variable "E"
def raw (name : ClassName) : JavaType := .ofClass name
def parameters (names : List String) : List TypeParameter := names.map ({ name := · })

def classNamed (name : ClassName) : TypeDeclaration :=
  TypeDeclaration.withImplicitConstructor { name := name }

def sealedClass (name : ClassName) : TypeDeclaration := { name := name }

def interfaceNamed (name : ClassName) (typeParameters : List String := [])
    (interfaces : List JavaType := []) : TypeDeclaration :=
  { name := name, kind := .interfaceKind, typeParameters := parameters typeParameters,
    interfaces := interfaces }

def annotationNamed (name : ClassName) : TypeDeclaration :=
  { name := name, kind := .annotationKind }

/-- An interface whose only method gives an instance of its type parameter. -/
def objectSource (name : ClassName) : TypeDeclaration :=
  { interfaceNamed name ["T"] with
    methods := [{ declaringClass := name, kind := .method "getObject" (some T) false }] }

def language : List TypeDeclaration := [
  classNamed object,
  interfaceNamed serializable,
  interfaceNamed cloneable,
  interfaceNamed comparable ["T"],
  interfaceNamed charSequence,
  { classNamed string with
    interfaces := [raw serializable, .classType comparable [raw string], raw charSequence] },
  { classNamed number with declaredAbstract := true, interfaces := [raw serializable] },
  { sealedClass classOf with typeParameters := parameters ["T"], interfaces := [raw serializable] },
  { classNamed enumBase with
    declaredAbstract := true
    typeParameters := [{ name := "E", bounds := [.classType enumBase [E]] }]
    interfaces := [.classType comparable [E], raw serializable] }]

def collections : List TypeDeclaration := [
  interfaceNamed iterable ["T"],
  interfaceNamed collection ["E"] [.classType iterable [E]],
  interfaceNamed list ["E"] [.classType collection [E]],
  interfaceNamed set ["E"] [.classType collection [E]],
  interfaceNamed map ["K", "V"],
  sealedClass Known.collections,
  { classNamed locale with
    interfaces := [raw serializable, raw cloneable]
    methods := [{ declaringClass := locale
                  kind := .method "getDefault" (some (raw locale)) true }] },
  interfaceNamed temporalUnit,
  { name := chronoUnit, kind := .enumKind
    superclass := some (.classType enumBase [raw chronoUnit])
    interfaces := [raw temporalUnit] }]

def container : List TypeDeclaration := [
  objectSource factoryBean,
  objectSource objectFactory,
  interfaceNamed objectProvider ["T"] [.classType objectFactory [T], .classType iterable [T]],
  interfaceNamed injectProvider ["T"],
  annotationNamed autowired,
  annotationNamed eventListener,
  annotationNamed configuration,
  { classNamed applicationEvent with declaredAbstract := true, interfaces := [raw serializable] }]

def valueOf (wrapper : ClassName) (parameter : JavaType) : Executable :=
  { declaringClass := wrapper, kind := .method "valueOf" (some (raw wrapper)) true
    parameters := [{ name := "value", type := parameter }] }

def isNumeric (p : Primitive) : Bool := p ≠ .boolean && p ≠ .char

/-- A wrapper class; the wrappers of numeric primitives are numbers. -/
def wrapper (p : Primitive) : TypeDeclaration :=
  { sealedClass p.boxed with
    superclass := if isNumeric p then some (raw number) else none
    interfaces := [raw serializable, .classType comparable [raw p.boxed]]
    methods := [valueOf p.boxed (.primitive p), valueOf p.boxed (raw string)] }

def declarations : List TypeDeclaration :=
  language ++ collections ++ container ++ Primitive.all.map wrapper

end Preloaded

def Registry.preloaded : Registry := Registry.empty.registerAll Preloaded.declarations

end Prewire.Types
