import Prewire.Types.Member
import Prewire.Json.Value

/-! Members that have to stay reachable by reflection at run time: one entry a type, in the order of
first mention, without repetitions. -/
namespace Prewire.Output

open Java Types

structure ReflectionEntry where
  type : ClassName
  /-- Signatures of methods. -/
  methods : List String := []
  fields : List String := []
  deriving DecidableEq, Repr, Inhabited

structure Reflection where
  entries : List ReflectionEntry := []
  deriving DecidableEq, Repr, Inhabited

namespace ReflectionEntry

def adding (present : List String) (member : String) : List String :=
  if member ∈ present then present else present ++ [member]

def addMethod (entry : ReflectionEntry) (signature : String) : ReflectionEntry :=
  { entry with methods := adding entry.methods signature }

def addField (entry : ReflectionEntry) (name : String) : ReflectionEntry :=
  { entry with fields := adding entry.fields name }

def addAll (entry other : ReflectionEntry) : ReflectionEntry :=
  { entry with
    methods := other.methods.foldl adding entry.methods
    fields := other.fields.foldl adding entry.fields }

/-- The entry as the native image reads it; lists without elements are left out. -/
def toJson (entry : ReflectionEntry) : Json.Value :=
  .ofMembers (("name", .text entry.type.reflectionName)
    :: ([("methods", entry.methods), ("fields", entry.fields)].filter (!·.2.isEmpty)).map
      fun (key, members) => (key, .texts members))

end ReflectionEntry

namespace Reflection

/-- Name and erased parameter types, as `onEvent(java.lang.Object)`. -/
def signature (e : Executable) : String :=
  e.methodName?.getD "<init>" ++ "("
    ++ ", ".intercalate (e.parameterTypes.map fun t => toString t.erasure) ++ ")"

/-- Changes the entry of a type, which is new at the end if the type has none. -/
def updateEntry (change : ReflectionEntry → ReflectionEntry) (type : ClassName) :
    List ReflectionEntry → List ReflectionEntry
  | [] => [change { type := type }]
  | entry :: rest =>
    if entry.type = type then change entry :: rest else entry :: updateEntry change type rest

def update (r : Reflection) (type : ClassName) (change : ReflectionEntry → ReflectionEntry) :
    Reflection := ⟨updateEntry change type r.entries⟩

/-- The type itself, perhaps without members. -/
def addType (r : Reflection) (type : ClassName) : Reflection := r.update type id

def addExecutable (r : Reflection) (e : Executable) : Reflection :=
  r.update e.declaringClass (·.addMethod (signature e))

def addField (r : Reflection) (field : Field) : Reflection :=
  r.update field.declaringClass (·.addField field.name)

def merge (r other : Reflection) : Reflection :=
  other.entries.foldl (fun acc entry => acc.update entry.type (·.addAll entry)) r

def isEmpty (r : Reflection) : Bool := r.entries.isEmpty

end Reflection
end Prewire.Output
