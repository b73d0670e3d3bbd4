import Prewire.Text.Quoted

/-! String and character literals. Each kind escapes its own quote only, and control characters
without an escape of their own are written by their code unit. -/
namespace Prewire.Java.Literal

def isControl (c : Char) : Bool := c.toNat < 0x20 || (0x7F ≤ c.toNat && c.toNat < 0xA0)

def fourDigits (n : Nat) : List Char :=
  [Nat.digitChar (n / 0x1000 % 16), Nat.digitChar (n / 0x100 % 16), Nat.digitChar (n / 16 % 16),
    Nat.digitChar (n % 16)]

def escaped (c : Char) : List Char :=
  if c = '\\' then ['\\', '\\']
  else if c = '\n' then ['\\', 'n']
  else if c = '\r' then ['\\', 'r']
  else if c = '\t' then ['\\', 't']
  else if c = '\x08' then ['\\', 'b']
  else if c = '\x0c' then ['\\', 'f']
  else if isControl c then '\\' :: 'u' :: fourDigits c.toNat
  else [c]

def stringChar (c : Char) : List Char := if c = '"' then ['\\', '"'] else escaped c

def charChar (c : Char) : List Char := if c = '\'' then ['\\', '\''] else escaped c

def string (value : String) : String :=
  String.ofList ('"' :: (value.toList.flatMap stringChar ++ ['"']))

def char (value : Char) : String :=
  String.ofList ('\'' :: (charChar value ++ ['\'']))

end Prewire.Java.Literal
