/-! JSON values as they are read, as far as settings are made of them: numbers keep no value, and a
string that names half a surrogate pair has no text. -/
namespace Prewire.Json

inductive Value where
  | null
  | boolean (value : Bool)
  | number
  | string (content : Option String)
  | array (elements : List Value)
  /-- Members in order; a key may occur again. -/
  | object (members : List (Option String × Value))

namespace Value

def text (content : String) : Value := .string (some content)

/-- An object from keys that are texts. -/
def ofMembers (members : List (String × Value)) : Value :=
  .object (members.map fun (key, value) => (some key, value))

def texts (contents : List String) : Value := .array (contents.map text)

def boolean? : Value → Option Bool
  | .boolean value => some value
  | _ => none

def text? : Value → Option String
  | .string content => content
  | _ => none

def texts? : Value → Option (List String)
  | .array elements => elements.mapM text?
  | _ => none

end Value
end Prewire.Json
