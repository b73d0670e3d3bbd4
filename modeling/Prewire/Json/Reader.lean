import Prewire.Json.Value

/-! Reading JSON text: each function takes the characters that are left and yields what it reads
together with those that follow. The grammar is taken strictly: no comma behind the last element, no
zeros ahead of a number, no raw control characters in a string, and nothing but blanks behind the
value. -/
namespace Prewire.Json

def isBlank (c : Char) : Bool := c = ' ' || c = '\t' || c = '\n' || c = '\r'

def skipBlanks (cs : List Char) : List Char := cs.dropWhile isBlank

def after? : List Char → List Char → Option (List Char)
  | [], rest => some rest
  | _ :: _, [] => none
  | w :: word, c :: rest => if w = c then after? word rest else none

def hexDigit? (c : Char) : Option Nat :=
  if '0' ≤ c ∧ c ≤ '9' then some (c.toNat - '0'.toNat)
  else if 'a' ≤ c ∧ c ≤ 'f' then some (c.toNat - 'a'.toNat + 10)
  else if 'A' ≤ c ∧ c ≤ 'F' then some (c.toNat - 'A'.toNat + 10)
  else none

def readUnit : List Char → Option (Nat × List Char)
  | a :: b :: c :: d :: rest => do
    let a ← hexDigit? a
    let b ← hexDigit? b
    let c ← hexDigit? c
    let d ← hexDigit? d
    return (((a * 16 + b) * 16 + c) * 16 + d, rest)
  | _ => none

/-- What an escape letter other than `u` stands for. -/
def escaped? : Char → Option Char
  | '"' => some '"'
  | '\\' => some '\\'
  | '/' => some '/'
  | 'b' => some '\x08'
  | 'f' => some '\x0c'
  | 'n' => some '\n'
  | 'r' => some '\r'
  | 't' => some '\t'
  | _ => none

/-- A piece of a string: a character, or half a surrogate pair. -/
inductive Piece where
  | char (c : Char)
  | unit (value : Nat)
  deriving DecidableEq, Repr

def Piece.ofUnit (value : Nat) : Piece :=
  if 0xD800 ≤ value ∧ value < 0xE000 then .unit value else .char (Char.ofNat value)

/-- The text of the pieces, with surrogate pairs put together; none if a half is left over. -/
def piecesText : List Piece → Option (List Char)
  | [] => some []
  | .char c :: rest => (piecesText rest).map (c :: ·)
  | .unit high :: .unit low :: rest =>
    if high < 0xDC00 ∧ 0xDC00 ≤ low then
      (piecesText rest).map (Char.ofNat (0x10000 + (high - 0xD800) * 0x400 + (low - 0xDC00)) :: ·)
    else none
  | .unit _ :: _ => none

/-- The rest of a string, behind the opening quote. -/
def readPieces : Nat → List Char → Option (List Piece × List Char)
  | 0, _ => none
  | limit + 1, cs =>
    let follow (piece : Piece) (rest : List Char) : Option (List Piece × List Char) :=
      (readPieces limit rest).map fun (pieces, rest) => (piece :: pieces, rest)
    match cs with
    | [] => none
    | '"' :: rest => some ([], rest)
    | '\\' :: 'u' :: rest => (readUnit rest).bind fun (value, rest) => follow (.ofUnit value) rest
    | '\\' :: letter :: rest => (escaped? letter).bind fun c => follow (.char c) rest
    | c :: rest => if c.toNat < 0x20 then none else follow (.char c) rest

def readString (cs : List Char) : Option (Option String × List Char) :=
  (readPieces (cs.length + 1) cs).map fun (pieces, rest) =>
    ((piecesText pieces).map String.ofList, rest)

def afterDigits? : List Char → Option (List Char)
  | c :: rest => if c.isDigit then some (rest.dropWhile Char.isDigit) else none
  | [] => none

def afterWhole? : List Char → Option (List Char)
  | '0' :: rest => if (rest.head?.map Char.isDigit).getD false then none else some rest
  | cs => afterDigits? cs

def afterFraction? : List Char → Option (List Char)
  | '.' :: rest => afterDigits? rest
  | cs => some cs

def afterExponent? : List Char → Option (List Char)
  | e :: rest =>
    if e = 'e' || e = 'E' then
      match rest with
      | sign :: digits => afterDigits? (if sign = '+' || sign = '-' then digits else rest)
      | [] => none
    else some (e :: rest)
  | [] => some []

def afterNumber? (cs : List Char) : Option (List Char) := do
  let whole ← afterWhole? (if cs.head? = some '-' then cs.tail else cs)
  afterExponent? (← afterFraction? whole)

mutual
/-- A value, after blanks. The limit is on the steps, of which no character takes more than two. -/
def readValue : Nat → List Char → Option (Value × List Char)
  | 0, _ => none
  | limit + 1, cs =>
    match skipBlanks cs with
    | 'n' :: rest => (after? "ull".toList rest).map fun rest => (.null, rest)
    | 't' :: rest => (after? "rue".toList rest).map fun rest => (.boolean true, rest)
    | 'f' :: rest => (after? "alse".toList rest).map fun rest => (.boolean false, rest)
    | '"' :: rest => (readString rest).map fun (content, rest) => (.string content, rest)
    | '[' :: rest =>
      match skipBlanks rest with
      | ']' :: rest => some (.array [], rest)
      | rest => (readElements limit rest).map fun (elements, rest) => (.array elements, rest)
    | '\x7b' :: rest =>
      match skipBlanks rest with
      | '\x7d' :: rest => some (.object [], rest)
      | rest => (readMembers limit rest).map fun (members, rest) => (.object members, rest)
    | rest => (afterNumber? rest).map fun rest => (.number, rest)
def readElements : Nat → List Char → Option (List Value × List Char)
  | 0, _ => none
  | limit + 1, cs => do
    let (first, rest) ← readValue limit cs
    match skipBlanks rest with
    | ',' :: rest =>
      let (others, rest) ← readElements limit rest
      return (first :: others, rest)
    | ']' :: rest => return ([first], rest)
    | _ => none
def readMembers : Nat → List Char → Option (List (Option String × Value) × List Char)
  | 0, _ => none
  | limit + 1, cs =>
    match skipBlanks cs with
    | '"' :: rest => do
      let (key, rest) ← readString rest
      match skipBlanks rest with
      | ':' :: rest =>
        let (value, rest) ← readValue limit rest
        match skipBlanks rest with
        | ',' :: rest =>
          let (others, rest) ← readMembers limit rest
          return ((key, value) :: others, rest)
        | '\x7d' :: rest => return ([(key, value)], rest)
        | _ => none
      | _ => none
    | _ => none
end

def Value.ofText? (text : String) : Option Value :=
  match readValue (2 * text.length + 2) text.toList with
  | some (value, rest) => if (skipBlanks rest).isEmpty then some value else none
  | none => none

end Prewire.Json
