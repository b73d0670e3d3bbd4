import Prewire.Text.Split

/-! Slash-separated file paths. -/
namespace Prewire.Files

/-- Appends a segment to a path. A segment that starts with a slash replaces what precedes it. -/
def push (path segment : String) : String :=
  if segment.startsWith "/" then segment
  else if path = "" || path.endsWith "/" then path ++ segment
  else path ++ "/" ++ segment

/-- The first name of a path that starts at the root of all files. No other name holds a slash. -/
def root : String := "/"

/-- The names on the way to a file, without empty ones. -/
def components (path : String) : List String :=
  let names := (Text.splitOn '/' path).filter fun name => name != "" && name != "."
  if path.startsWith "/" then root :: names else names

/-- A reversed path without the slashes and `.` names that it starts with. -/
def dropEmptyNames : List Char → List Char
  | '/' :: path => dropEmptyNames path
  | '.' :: '/' :: path => dropEmptyNames path
  | path => path

def parent (path : String) : String :=
  let kept := String.ofList (dropEmptyNames (path.toList.reverse.dropWhile (· != '/'))).reverse
  if kept = "" && path.startsWith "/" then root else kept

def nameLimit : Nat := 255

def pathLimit : Nat := 4095

def isName (name : String) : Bool := name.utf8ByteSize ≤ nameLimit

/-- Whether something can stand at a path: it is not too long and holds no NUL. -/
def isPath (path : String) : Bool := path.utf8ByteSize ≤ pathLimit && !path.toList.contains '\x00'

end Prewire.Files
