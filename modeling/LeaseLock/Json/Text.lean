import LeaseLock.Text.Number
import LeaseLock.Text.Quoted

/-!
# Writing Documents

The compact form of a document: no blanks, members in the order given, and in strings a
backslash before quotes, backslashes and control characters only.
-/

namespace LeaseLock.Json

/-- How a character is written inside a string. -/
def writeChar (c : Char) : List Char :=
  match c with
  | '"' => ['\\', '"']
  | '\\' => ['\\', '\\']
  | '\x08' => ['\\', 'b']
  | '\x0c' => ['\\', 'f']
  | '\n' => ['\\', 'n']
  | '\r' => ['\\', 'r']
  | '\t' => ['\\', 't']
  | c =>
    if c.toNat < 32 then
      ['\\', 'u', '0', '0', Nat.digitChar (c.toNat / 16), Nat.digitChar (c.toNat % 16)]
    else [c]

def writeText (s : String) : List Char := '"' :: s.toList.flatMap writeChar ++ ['"']

def writeNatural (n : Nat) : List Char := Text.digits n

def writeBool (b : Bool) : List Char :=
  if b then ['t', 'r', 'u', 'e'] else ['f', 'a', 'l', 's', 'e']

/-- Writes a value or `null`. -/
def writeOptional (write : α → List Char) : Option α → List Char
  | some a => write a
  | none => ['n', 'u', 'l', 'l']

def writeMember (name : String) (value : List Char) : List Char := writeText name ++ ':' :: value

/-- An object with the given members. -/
def writeObject (members : List (List Char)) : List Char :=
  '{' :: (members.intersperse [',']).flatten ++ ['}']

end LeaseLock.Json
