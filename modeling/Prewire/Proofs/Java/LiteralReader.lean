import Prewire.Java.Literal

/-! Reading string and character literals. A compiler takes the text as code units and replaces the
Unicode escapes in it before it looks for anything else; what is between the quotes of a literal is
then read by escape sequences. -/
namespace Prewire.Java.Literal

/-- The code units of a character: one, or for a character beyond 16 bits two surrogates. -/
def units (c : Char) : List Nat :=
  if c.toNat < 0x10000 then [c.toNat]
  else [0xD800 + (c.toNat - 0x10000) / 0x400, 0xDC00 + (c.toNat - 0x10000) % 0x400]

/-- The code units of a text, which are also what a string at run time is made of. -/
def unitsOf (text : List Char) : List Nat := text.flatMap units

def hexValue? (u : Nat) : Option Nat :=
  if '0'.toNat ≤ u ∧ u ≤ '9'.toNat then some (u - '0'.toNat)
  else if 'a'.toNat ≤ u ∧ u ≤ 'f'.toNat then some (u - 'a'.toNat + 10)
  else if 'A'.toNat ≤ u ∧ u ≤ 'F'.toNat then some (u - 'A'.toNat + 10)
  else none

inductive Before where
  /-- An even number of backslashes, perhaps none. -/
  | even
  /-- An odd number of backslashes, the last of which is not passed on yet. -/
  | odd
  /-- A backslash that starts a Unicode escape, and its marks. -/
  | marks
  /-- Some digits of a Unicode escape; so many are to follow after the next one. -/
  | digits (more value : Nat)

/-- Replaces the Unicode escapes. Only a backslash after an even number of backslashes starts one; an
escape may have any number of marks, and has four digits. -/
def translate : Before → List Nat → Option (List Nat)
  | .even, [] => some []
  | .odd, [] => some ['\\'.toNat]
  | .marks, [] | .digits .., [] => none
  | .even, u :: rest =>
    if u = '\\'.toNat then translate .odd rest else (translate .even rest).map (u :: ·)
  | .odd, u :: rest =>
    if u = 'u'.toNat then translate .marks rest
    else (translate .even rest).map fun passed => '\\'.toNat :: u :: passed
  | .marks, u :: rest =>
    if u = 'u'.toNat then translate .marks rest
    else (hexValue? u).bind fun digit => translate (.digits 2 digit) rest
  | .digits 0 value, u :: rest =>
    (hexValue? u).bind fun digit =>
      (translate .even rest).map ((value * 16 + digit) :: ·)
  | .digits (more + 1) value, u :: rest =>
    (hexValue? u).bind fun digit => translate (.digits more (value * 16 + digit)) rest

def sequences : List (Char × Char) :=
  [('b', '\x08'), ('s', ' '), ('t', '\t'), ('n', '\n'), ('f', '\x0c'), ('r', '\r'), ('"', '"'),
    ('\'', '\''), ('\\', '\\')]

def sequenceValue? (u : Nat) : Option Nat :=
  sequences.findSome? fun (letter, meaning) =>
    if letter.toNat = u then some meaning.toNat else none

def isOctalDigit (u : Nat) : Bool := '0'.toNat ≤ u && u ≤ '7'.toNat

/-- The digits of an octal escape: up to three, but two at most when the first is above three. -/
def octalDigits (units : List Nat) : List Nat :=
  (units.takeWhile isOctalDigit).take (if units.head?.any (· ≤ '3'.toNat) then 3 else 2)

def escape? : List Nat → Option (Nat × List Nat)
  | [] => none
  | u :: rest =>
    if isOctalDigit u then
      let digits := octalDigits (u :: rest)
      some (digits.foldl (fun value digit => value * 8 + (digit - '0'.toNat)) 0,
        (u :: rest).drop digits.length)
    else (sequenceValue? u).map fun meaning => (meaning, rest)

theorem length_of_escape? {units : List Nat} {meaning : Nat} {rest : List Nat}
    (read : escape? units = some (meaning, rest)) : rest.length < units.length := by
  cases units with
  | nil => simp [escape?] at read
  | cons u units =>
    rw [escape?] at read
    split at read
    · next octal =>
      obtain ⟨-, rfl⟩ := Prod.mk.inj (Option.some.inj read)
      have some : 0 < (octalDigits (u :: units)).length := by
        simp only [octalDigits, List.takeWhile_cons, octal, if_true]
        split <;> simp
      simp only [List.length_drop, List.length_cons]
      omega
    · obtain ⟨_, -, same⟩ := Option.map_eq_some_iff.mp read
      obtain ⟨-, rfl⟩ := Prod.mk.inj same
      simp

def isLineEnd (u : Nat) : Bool := u = '\n'.toNat || u = '\r'.toNat

/-- What is denoted by the rest of a literal after its opening quote. The closing quote has to be the
end of the text. -/
def contents (quote : Char) : List Nat → Option (List Nat)
  | [] => none
  | u :: rest =>
    if u = quote.toNat then if rest.isEmpty then some [] else none
    else if u = '\\'.toNat then
      match read : escape? rest with
      | none => none
      | some (meaning, after) =>
        have := length_of_escape? read
        (contents quote after).map (meaning :: ·)
    else if isLineEnd u then none
    else (contents quote rest).map (u :: ·)
termination_by units => units.length

/-- What the text denotes between quotes of a kind, where it is one literal and nothing else. -/
def quoted? (quote : Char) (text : String) : Option (List Nat) :=
  match translate .even (unitsOf text.toList) with
  | some (u :: rest) => if u = quote.toNat then contents quote rest else none
  | _ => none

def readString? (text : String) : Option (List Nat) := quoted? '"' text

def readChar? (text : String) : Option Nat :=
  match quoted? '\'' text with
  | some [u] => some u
  | _ => none

end Prewire.Java.Literal
