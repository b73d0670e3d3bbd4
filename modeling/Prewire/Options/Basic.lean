import Prewire.Json.Value

/-! What a pass can be told. -/
namespace Prewire

structure Options where
  bootstrapPackage : String := "org.springframework.aot"
  /-- The simple name of every generated class. -/
  className : String := "ContextBootstrapInitializer"
  removesYaml : Bool := false
  removesXml : Bool := false
  removesSpel : Bool := false
  /-- Whether the application takes the paths of a native image also where it runs in none. -/
  forcesNativePath : Bool := true
  detectsHibernate : Bool := true
  /-- Canonical names of types whose beans are left out, in order and each once. -/
  excludedTypes : List String := []
  indentUnit : String := "  "
  deriving DecidableEq, Repr, Inhabited

namespace Options

def inOrder (names : List String) : List String := (names.mergeSort).eraseDups

def exclude (o : Options) (names : List String) : Options :=
  { o with excludedTypes := inOrder (o.excludedTypes ++ names) }

def isExcluded (o : Options) (name : String) : Bool := name ∈ o.excludedTypes

def toJson (o : Options) : Json.Value :=
  .ofMembers
    [("bootstrap-package", .text o.bootstrapPackage),
      ("class-name", .text o.className),
      ("remove-yaml-support", .boolean o.removesYaml),
      ("remove-xml-support", .boolean o.removesXml),
      ("remove-spel-support", .boolean o.removesSpel),
      ("force-native-code-path", .boolean o.forcesNativePath),
      ("detect-hibernate", .boolean o.detectsHibernate),
      ("exclude-types", .texts o.excludedTypes),
      ("indent", .text o.indentUnit)]

end Options
end Prewire
