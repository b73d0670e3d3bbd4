import Prewire.Types.Member

/-! What the generator reports while it works, besides its result. -/
namespace Prewire

open Java Types

inductive Notice where
  | executableResolved (executable : Executable)
  | executableUnresolved (beanClass : Option ClassName) (factoryMethod : Option String)
  | outputClassCreated (package : String)
  /-- Without a package the registration is written in the main class. -/
  | registrationWritten (beanName : String) (package : Option String)
  | beanSkipped (beanName reason : String)
  | listenersWritten (count : Nat) (package : String)
  | passCompleted (beans helperClasses reflectionEntries : Nat)
  deriving DecidableEq, Repr, Inhabited

namespace Notice

inductive Level where
  | trace | debug | info
  deriving DecidableEq, Repr

def Level.name : Level → String
  | trace => "TRACE" | debug => "DEBUG" | info => "INFO"

inductive FieldValue where
  | text (content : String)
  | count (number : Nat)
  deriving DecidableEq, Repr

def name : Notice → String
  | executableResolved .. => "aot_bootstrap.executable.resolved"
  | executableUnresolved .. => "aot_bootstrap.executable.unresolved"
  | outputClassCreated .. => "aot_bootstrap.bootstrap_class.created"
  | registrationWritten .. => "aot_bootstrap.registration.written"
  | beanSkipped .. => "aot_bootstrap.bean.skipped"
  | listenersWritten .. => "aot_bootstrap.event_listeners.written"
  | passCompleted .. => "aot_bootstrap.generation.completed"

def level : Notice → Level
  | executableResolved .. => .trace
  | passCompleted .. => .info
  | _ => .debug

def optional (name : String) (value : Option String) : List (String × FieldValue) :=
  value.toList.map fun content => (name, .text content)

/-- The named values of a notice; a value that is not there has no field. -/
def fields : Notice → List (String × FieldValue)
  | executableResolved e => [("executable", .text e.toText)]
  | executableUnresolved beanClass factoryMethod =>
    optional "bean.class" (beanClass.map ClassName.canonicalName)
      ++ optional "factory.method" factoryMethod
  | outputClassCreated package => [("package", .text package)]
  | registrationWritten beanName package =>
    [("bean.name", .text beanName), ("routing", .text (package.getD "main"))]
  | beanSkipped beanName reason => [("bean.name", .text beanName), ("reason", .text reason)]
  | listenersWritten count package => [("listeners", .count count), ("package", .text package)]
  | passCompleted beans helperClasses reflectionEntries =>
    [("beans", .count beans), ("helper_classes", .count helperClasses),
      ("reflection_entries", .count reflectionEntries)]

end Notice
end Prewire
