import Prewire.Pass.Basic
import Prewire.Files.Tree

/-! The classes of a pass as files. -/
namespace Prewire.Pass

open Java Beans Output

structure GeneratedSource where
  package : String
  className : String
  /-- The path below a source root. -/
  path : String
  content : String
  deriving DecidableEq, Repr

namespace GeneratedSource

def ofClass (indentUnit : String) (c : OutputClass) : GeneratedSource :=
  let file := c.toSourceFile indentUnit
  ⟨c.name.package, c.name.simpleName, file.relativePath, file.source⟩

def writeBelow (directory : String) (files : Files.Tree) (s : GeneratedSource) :
    Except Files.Blocked String × Files.Tree := files.writeBelow directory s.path s.content

end GeneratedSource

/-- The main class, then the helper classes by package. -/
def sources (o : Options) (t : Target) : List GeneratedSource :=
  t.classes.all.map (.ofClass o.indentUnit)

def generate (o : Options) (customs : Customs) (f : BeanFactory) :
    Except Failure (List GeneratedSource) :=
  let (outcome, t) := run o customs f
  outcome.map fun _ => sources o t

/-- Writes each source below a directory, whether or not others could be written. -/
def writeSources (directory : String) :
    List GeneratedSource → Files.Tree → List (Except Files.Blocked String) × Files.Tree
  | [], files => ([], files)
  | s :: rest, files =>
    let (result, files) := s.writeBelow directory files
    let (results, files) := writeSources directory rest files
    (result :: results, files)

end Prewire.Pass
