import Prewire.Files.Path

/-! Files and directories. A file can stand where a directory is needed, and a directory where a
file is to be written; either stops the writing, and so does a name or a path that no file can
have. The directories that were made until then stay. -/
namespace Prewire.Files

structure Tree where
  files : List (List String × String) := []
  directories : List (List String) := []
  deriving DecidableEq, Repr, Inhabited

/-- A path at which something else stands in the way, or at which nothing can stand. -/
structure Blocked where
  path : String
  deriving DecidableEq, Repr

def Blocked.message (b : Blocked) : String := "failed to write '" ++ b.path ++ "'"

namespace Tree

def isFile (t : Tree) (path : List String) : Bool := t.files.any (·.1 = path)

/-- Whether a path is the top of the tree, lies above it, or is the root of all files. All of these
are directories. -/
def isOutside (path : List String) : Bool := path.all (· = "..") || path = [root]

def isDirectory (t : Tree) (path : List String) : Bool := isOutside path || path ∈ t.directories

def addDirectory (t : Tree) (path : List String) : Tree :=
  if t.isDirectory path then t else { t with directories := path :: t.directories }

/-- The directory above. Above the top of the tree one only gets further away from it, and the root
is above itself. -/
def above (path : List String) : List String :=
  if path = [root] then path else if isOutside path then path ++ [".."] else path.dropLast

/-- Goes down a path and makes the directories on it that are missing; also yields where that
leads. What is made before something stands in the way stays. -/
def makeDirectoriesFrom (here : List String) (t : Tree) :
    List String → Option (List String) × Tree
  | [] => (some here, t)
  | name :: rest =>
    if name = ".." then makeDirectoriesFrom (above here) t rest
    else if !isName name || t.isFile (here ++ [name]) then (none, t)
    else makeDirectoriesFrom (here ++ [name]) (t.addDirectory (here ++ [name])) rest

/-- Makes a directory and all above it, as far as no file is in the way. -/
def makeDirectories (t : Tree) (path : String) : Option (List String) × Tree :=
  if isPath path then makeDirectoriesFrom [] t (components path) else (none, t)

def putFile (t : Tree) (path : List String) (content : String) : Tree :=
  { t with files := (path, content) :: t.files.filter (·.1 ≠ path) }

/-- Writes a file, with its directories. A failure names the path that is blocked: the directory, or
the file itself; the directories that were made for it stay. -/
def write (t : Tree) (path content : String) : Except Blocked Unit × Tree :=
  match t.makeDirectories (parent path) with
  | (none, t) => (.error ⟨parent path⟩, t)
  | (some directory, t) =>
    let name := ((components path).getLast?).toList
    if !isPath path || !name.all isName || t.isDirectory (directory ++ name) then
      (.error ⟨path⟩, t)
    else (.ok (), t.putFile (directory ++ name) content)

def writeBelow (t : Tree) (directory path content : String) : Except Blocked String × Tree :=
  let path := push directory path
  let (result, t) := t.write path content
  (result.map fun _ => path, t)

def pathText (path : List String) : String := "/".intercalate path

/-- The files below a directory with their contents, sorted by path. -/
def below (t : Tree) (directory : String) : List (String × String) :=
  (t.files.filterMap fun (path, content) =>
    if path.head? = some directory && 1 < path.length then some (pathText path, content) else none
    ).mergeSort fun a b => a.1 ≤ b.1

end Tree
end Prewire.Files
