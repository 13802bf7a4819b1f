import LeaseLock.Domain.Name
import LeaseLock.Text.Utf8
import LeaseLock.Url.Percent

/-!
# Hosts

The host of an address: a name, or a numeric address. Where the scheme has its own rules for
hosts, a name is a domain name, and one that ends in a number is a numeric address of 32 bits;
under any other scheme a name only has to be free of delimiters. In brackets stands a numeric
address of 128 bits, as eight pieces.
-/

namespace LeaseLock

/-- Why a text is no address. -/
inductive Url.Error
  /-- It has no scheme, and there is nothing that it could be relative to. -/
  | relative
  | emptyHost
  | port
  | ipv6
  | ipv4
  | domain
  | internationalDomain
  deriving DecidableEq

namespace Url

def Error.message : Error → String
  | relative => "relative URL without a base"
  | emptyHost => "empty host"
  | port => "invalid port number"
  | ipv6 => "invalid IPv6 address"
  | ipv4 => "invalid IPv4 address"
  | domain => "invalid domain character"
  | internationalDomain => "invalid international domain name"

inductive Host
  | name (cs : List Char)
  | ipv4 (n : Nat)
  | ipv6 (pieces : List Nat)
  deriving DecidableEq

/-- Whether a host stands for every address of a machine. -/
def Host.isWildcard : Host → Bool
  | name cs => cs == "0.0.0.0".toList
  | ipv4 n => n == 0
  | ipv6 pieces => pieces.all (· == 0)

/-! ### Addresses of 128 bits -/

/-- The number that hexadecimal digits make. -/
def hexNumber (cs : List Char) : Nat := cs.foldl (fun n c => n * 16 + (hexValue? c).getD 0) 0

/-- A decimal number below 256 without leading zeros. -/
def byte? (cs : List Char) : Option Nat :=
  if cs ≠ [] ∧ cs.all (·.isDigit) ∧ (cs.head? = some '0' → cs.length = 1) then
    let n := Nat.ofDigitChars 10 cs 0
    if n < 256 then some n else none
  else none

/-- The two pieces that four bytes with points between them make. -/
def dotted? (cs : List Char) : Option (List Nat) :=
  match (cs.splitOn '.').mapM byte? with
  | some [a, b, c, d] => some [a * 256 + b, c * 256 + d]
  | _ => none

/-- The pieces before and after the gap that a double colon leaves, where there is one. -/
structure Pieces where
  read : List Nat
  /-- How many pieces stand before the gap. -/
  gap : Option Nat

namespace Pieces

/-- The eight pieces, with zeros in the gap. -/
def fill (p : Pieces) : Option (List Nat) :=
  match p.gap with
  | some n => some (p.read.take n ++ List.replicate (8 - p.read.length) 0 ++ p.read.drop n)
  | none => if p.read.length = 8 then some p.read else none

/-- Reads pieces and colons up to the end; each step takes at least one character. -/
def readWith : Nat → Pieces → List Char → Option Pieces
  | _, p, [] => some p
  | 0, _, _ :: _ => none
  | fuel + 1, p, c :: cs =>
    if 8 ≤ p.read.length then none
    else if c = ':' then
      if p.gap.isSome then none
      else readWith fuel ⟨p.read ++ [0], some (p.read.length + 1)⟩ cs
    else
      let digits := ((c :: cs).take 4).takeWhile fun c => (hexValue? c).isSome
      let rest := (c :: cs).drop digits.length
      match rest with
      | '.' :: _ =>
        if digits.isEmpty || 6 < p.read.length then none
        else (dotted? (c :: cs)).map fun pieces => { p with read := p.read ++ pieces }
      | ':' :: rest =>
        if digits.isEmpty || rest.isEmpty then none
        else readWith fuel { p with read := p.read ++ [hexNumber digits] } rest
      | [] => some { p with read := p.read ++ [hexNumber digits] }
      | _ :: _ => none

end Pieces

/-- The pieces of an address of 128 bits. -/
def ipv6? (cs : List Char) : Option (List Nat) :=
  match cs with
  | ':' :: ':' :: rest => do (← Pieces.readWith rest.length ⟨[0], some 1⟩ rest).fill
  | ':' :: _ => none
  | [] | [_] => none
  | cs => do (← Pieces.readWith cs.length ⟨[], none⟩ cs).fill

/-! ### Addresses of 32 bits -/

/-- A number in decimal, octal or hexadecimal digits, as its first characters say. -/
def ipv4Number? (cs : List Char) : Option Nat :=
  let digits (base : Nat) (cs : List Char) : Option Nat :=
    cs.foldlM (fun n c => do
      let d ← hexValue? c
      if d < base then some (n * base + d) else none) 0
  match cs with
  | [] => none
  | '0' :: x :: rest =>
    if x = 'x' ∨ x = 'X' then digits 16 rest else digits 8 (x :: rest)
  | cs => digits 10 cs

/-- The parts between the points of a name, without the empty one after a last point. -/
def nameParts (cs : List Char) : List (List Char) :=
  let parts := cs.splitOn '.'
  if 1 < parts.length ∧ parts.getLast? = some [] then parts.dropLast else parts

/-- Whether a name has to be a numeric address. -/
def endsInNumber (cs : List Char) : Bool :=
  match (nameParts cs).getLast? with
  | some last => (!last.isEmpty && last.all (·.isDigit)) ||
      (last.take 2 == ['0', 'x'] || last.take 2 == ['0', 'X']) && (ipv4Number? last).isSome
  | none => false

/-- The number of an address of 32 bits: its last part fills what the others leave. -/
def ipv4? (cs : List Char) : Option Nat := do
  let numbers ← (nameParts cs).mapM ipv4Number?
  let last ← numbers.getLast?
  if 4 < numbers.length ∨ numbers.dropLast.any (255 < ·) ∨
      Nat.pow 256 (5 - numbers.length) ≤ last then
    none
  else some (numbers.dropLast.zipIdx.foldl (fun n (part, i) => n + part * Nat.pow 256 (3 - i)) last)

/-! ### Hosts -/

/-- The characters that no host name holds. -/
def isDelimiter (c : Char) : Bool :=
  ['\x00', '\t', '\n', '\r', ' ', '#', '/', ':', '<', '>', '?', '@', '[', '\\', ']', '^',
    '|'].contains c

/-- The host in brackets. -/
def bracketed (cs : List Char) : Except Error Host :=
  if cs.getLast? = some ']' then
    match ipv6? cs.tail.dropLast with
    | some pieces => .ok (.ipv6 pieces)
    | none => .error .ipv6
  else .error .ipv6

/-- The host of a scheme that has no rules of its own. -/
def plainHost (cs : List Char) : Except Error Host :=
  if cs.head? = some '[' then bracketed cs
  else if cs.any isDelimiter then .error .domain
  else .ok (.name (percentEncode isControl cs))

/-- The host of a scheme that has rules of its own. -/
def specialHost (cs : List Char) : Except Error Host :=
  if cs.isEmpty then .error .emptyHost
  else if cs.head? = some '[' then bracketed cs
  else
    match Domain.ofChars? (Text.ofBytes (percentDecode cs)).toList with
    | none => .error .internationalDomain
    | some name =>
      if name.isEmpty then .error .emptyHost
      else if endsInNumber name then
        match ipv4? name with
        | some n => .ok (.ipv4 n)
        | none => .error .ipv4
      else .ok (.name name)

end Url
end LeaseLock
