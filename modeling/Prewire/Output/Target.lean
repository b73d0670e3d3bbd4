import Prewire.Output.OutputClass
import Prewire.Output.Reflection
import Prewire.Notice

/-! Where registrations are written: the main class, a helper class for each package that needs one,
and what has to stay reachable by reflection. -/
namespace Prewire.Output

open Java

structure Classes where
  main : OutputClass
  /-- By package, in order; none has the package of the main class. -/
  helpers : List OutputClass := []
  deriving Repr

namespace Classes

def named (package simpleName : String) : Classes := ⟨{ name := ⟨package, [simpleName]⟩ }, []⟩

def mainPackage (cs : Classes) : String := cs.main.name.package

def helper? (cs : Classes) (package : String) : Option OutputClass :=
  cs.helpers.find? (·.name.package = package)

def hosts (cs : Classes) (package : String) : Bool :=
  package = cs.mainPackage || (cs.helper? package).isSome

/-- The class for code of a package. A helper class has the simple name of the main class. -/
def classFor (cs : Classes) (package : String) : OutputClass :=
  if package = cs.mainPackage then cs.main
  else (cs.helper? package).getD { name := ⟨package, [cs.main.name.simpleName]⟩ }

def putHelper (c : OutputClass) : List OutputClass → List OutputClass
  | [] => [c]
  | other :: rest =>
    if c.name.package = other.name.package then c :: rest
    else if c.name.package < other.name.package then c :: other :: rest
    else other :: putHelper c rest

/-- Puts a class in the place of that of its package. -/
def put (cs : Classes) (c : OutputClass) : Classes :=
  if c.name.package = cs.mainPackage then { cs with main := c }
  else { cs with helpers := putHelper c cs.helpers }

def all (cs : Classes) : List OutputClass := cs.main :: cs.helpers

end Classes

/-- The state of a pass: the classes, the body of the main routine so far, reflection, and what has
been reported. -/
structure Target where
  classes : Classes
  code : Code := Code.empty
  reflection : Reflection := {}
  notices : List Notice := []
  deriving Repr

namespace Target

def report (t : Target) (notices : List Notice) : Target :=
  { t with notices := t.notices ++ notices }

def append (t : Target) (code : Code) : Target := { t with code := t.code ++ code }

def hosting (t : Target) (package : String) : Target :=
  if t.classes.hosts package then t
  else { t with classes := t.classes.put (t.classes.classFor package) }.report
    [.outputClassCreated package]

def modifyClass (t : Target) (package : String) (change : OutputClass → OutputClass) : Target :=
  let t := t.hosting package
  { t with classes := t.classes.put (change (t.classes.classFor package)) }

def reserve (t : Target) (package name : String) : String × Target :=
  let fresh := OutputClass.freshName (t.classes.classFor package).reserved name
  (fresh, t.modifyClass package fun c => (c.reserve name).2)

end Target
end Prewire.Output
