import LeaseLock.Number.Width
import LeaseLock.Json.Fault

/-!
# The Pieces of a Document

Readers of single pieces of a document, each from the front of a list of characters. A reader
answers with what it read and with what is left; `none` says that the document is malformed.
Values that nobody asks for are skipped, however deep they nest, with the brackets that are
still open kept in a list.
-/

namespace LeaseLock.Json

/-- A reader, for which `none` is a malformed document. -/
abbrev Scan (α : Type) := List Char → Option (α × List Char)

def isBlank (c : Char) : Bool := c == ' ' || c == '\n' || c == '\t' || c == '\r'

def skipBlank (cs : List Char) : List Char := cs.dropWhile isBlank

/-- What is left after a given word. -/
def skipWord : List Char → List Char → Option (List Char)
  | [], cs => some cs
  | w :: ws, c :: cs => if w = c then skipWord ws cs else none
  | _ :: _, [] => none

/-! ### Strings -/

def hexDigit? (c : Char) : Option Nat :=
  if c.isDigit then some (c.toNat - '0'.toNat)
  else if 'a' ≤ c ∧ c ≤ 'f' then some (c.toNat - 'a'.toNat + 10)
  else if 'A' ≤ c ∧ c ≤ 'F' then some (c.toNat - 'A'.toNat + 10)
  else none

/-- The number of four hexadecimal digits. -/
def hexFour? (a b c d : Char) : Option Nat := do
  return (((← hexDigit? a) * 16 + (← hexDigit? b)) * 16 + (← hexDigit? c)) * 16 + (← hexDigit? d)

/-- The character that a backslash and one character stand for. -/
def unescape? : Char → Option Char
  | '"' => some '"'
  | '\\' => some '\\'
  | '/' => some '/'
  | 'b' => some '\x08'
  | 'f' => some '\x0c'
  | 'n' => some '\n'
  | 'r' => some '\r'
  | 't' => some '\t'
  | _ => none

def isHighSurrogate (n : Nat) : Bool := 0xD800 ≤ n && n ≤ 0xDBFF

def isLowSurrogate (n : Nat) : Bool := 0xDC00 ≤ n && n ≤ 0xDFFF

/-- The character of two surrogates. -/
def joinSurrogates (high low : Nat) : Char :=
  Char.ofNat (0x10000 + (high - 0xD800) * 0x400 + (low - 0xDC00))

/-- Puts a character in front of what a reader has read. -/
def consTo (c : Char) : Option (List Char × List Char) → Option (List Char × List Char)
  | some (s, rest) => some (c :: s, rest)
  | none => none

/-- Reads the inside of a string and its closing quote. -/
def scanString : Scan (List Char)
  | [] => none
  | '"' :: rest => some ([], rest)
  | '\\' :: 'u' :: a :: b :: c :: d :: rest =>
    match hexFour? a b c d with
    | none => none
    | some n =>
      if isHighSurrogate n then
        match rest with
        | '\\' :: 'u' :: e :: f :: g :: h :: rest =>
          match hexFour? e f g h with
          | none => none
          | some m =>
            if isLowSurrogate m then consTo (joinSurrogates n m) (scanString rest) else none
        | _ => none
      else if isLowSurrogate n then none
      else consTo (Char.ofNat n) (scanString rest)
  | '\\' :: c :: rest =>
    match unescape? c with
    | some e => consTo e (scanString rest)
    | none => none
  | c :: rest => if c == '\\' || c.toNat < 32 then none else consTo c (scanString rest)

/-- Skips the inside of a string and its closing quote. Surrogates need not match. -/
def skipString : List Char → Option (List Char)
  | [] => none
  | '"' :: rest => some rest
  | '\\' :: 'u' :: a :: b :: c :: d :: rest =>
    if (hexFour? a b c d).isSome then skipString rest else none
  | '\\' :: c :: rest => if (unescape? c).isSome then skipString rest else none
  | c :: rest => if c == '\\' || c.toNat < 32 then none else skipString rest

/-! ### Numbers -/

/-- The parts of a number as written: the digits before and after the point, and the exponent
with its sign. -/
structure Numeral where
  whole : List Char
  fraction : Option (List Char)
  exponent : Option (Bool × List Char)

/-- Reads one or more digits. -/
def scanDigits (cs : List Char) : Option (List Char × List Char) :=
  let (digits, rest) := cs.span (·.isDigit)
  if digits.isEmpty then none else some (digits, rest)

/-- Reads what may follow the whole part of a number. -/
def scanFraction : Scan (Option (List Char))
  | '.' :: rest => (scanDigits rest).map fun (digits, rest) => (some digits, rest)
  | cs => some (none, cs)

/-- Reads the sign and digits of an exponent. -/
def scanPower : Scan (Option (Bool × List Char))
  | '-' :: rest => (scanDigits rest).map fun (digits, rest) => (some (true, digits), rest)
  | '+' :: rest => (scanDigits rest).map fun (digits, rest) => (some (false, digits), rest)
  | cs => (scanDigits cs).map fun (digits, rest) => (some (false, digits), rest)

def scanExponent : Scan (Option (Bool × List Char))
  | 'e' :: rest => scanPower rest
  | 'E' :: rest => scanPower rest
  | cs => some (none, cs)

/-- Reads a number without its sign. Only zero itself starts with a zero. -/
def scanNumeral (cs : List Char) : Option (Numeral × List Char) := do
  let (whole, rest) ← scanDigits cs
  if whole.head? = some '0' ∧ whole.length ≠ 1 then none
  else
    let (fraction, rest) ← scanFraction rest
    let (exponent, rest) ← scanExponent rest
    return (⟨whole, fraction, exponent⟩, rest)

/-- Takes in digits while the number they make stays below `2 ^ 64`: the number, and how many
digits are left out. -/
def absorb : Nat → List Char → Nat × Nat
  | n, [] => (n, 0)
  | n, c :: cs =>
    let next := n * 10 + (c.toNat - '0'.toNat)
    if next < Width.bits64 then absorb next cs else (n, (c :: cs).length)

/-- A number divided by `10 ^ n`, in steps of at most 308 powers. -/
def divTens (x : Binary64) (n : Nat) : Option Binary64 :=
  if x.significand = 0 then some x
  else if n ≤ 308 then do x.div? (← Binary64.ofNat? (Nat.pow 10 n))
  else do divTens (← x.div? (← Binary64.ofNat? (Nat.pow 10 308))) (n - 308)
termination_by n

/-- The number `n * 10 ^ exponent`, rounded once for `n` and once more for each step. -/
def round (n : Nat) (exponent : Int) : Option Binary64 := do
  let x ← Binary64.ofNat? n
  if exponent < 0 then divTens x exponent.natAbs
  else if x.significand = 0 then some x
  else if 308 < exponent then none
  else x.mul? (← Binary64.ofNat? (Nat.pow 10 exponent.natAbs))

/-- The value of a number. Of a long one only the first digits count, as many as make a number
below `2 ^ 64`; one that is too great to be rounded is malformed. -/
def Numeral.value (minus : Bool) (n : Numeral) : Option Number := do
  let (whole, left) := absorb 0 n.whole
  let real (significand : Nat) (exponent : Int) : Option Number := do
    let power : Int := match n.exponent with
      | some (down, digits) =>
        let e := Nat.ofDigitChars 10 digits 0
        if down then -e else e
      | none => 0
    return .real minus (← round significand (exponent + power))
  match n.fraction with
  | some fraction =>
    let (significand, out) := absorb whole fraction
    real significand (left - (fraction.length - out : Nat))
  | none =>
    if n.exponent.isSome ∨ left ≠ 0 then real whole left
    else if !minus then some (.natural whole)
    else if whole = 0 ∨ Width.bits63 < whole then real whole 0
    else some (.negative whole)

/-- Reads a number. -/
def scanNumber : Scan Number
  | '-' :: rest => do
    let (n, rest) ← scanNumeral rest
    return (← n.value true, rest)
  | cs => do
    let (n, rest) ← scanNumeral cs
    return (← n.value false, rest)

/-! ### Values that are skipped -/

def skipScalar : List Char → Option (List Char)
  | 'n' :: rest => skipWord ['u', 'l', 'l'] rest
  | 't' :: rest => skipWord ['r', 'u', 'e'] rest
  | 'f' :: rest => skipWord ['a', 'l', 's', 'e'] rest
  | '"' :: rest => skipString rest
  | '-' :: rest => (scanNumeral rest).map (·.2)
  | cs => (scanNumeral cs).map (·.2)

inductive Bracket
  | square
  | curly

/-- What comes next in a value that is skipped. -/
inductive Skipping
  | value
  | key
  /-- A value has ended. -/
  | ended

/-- Skips the rest of a value inside the brackets that are open; each step takes at least one
character or is the last. -/
def skipWith : Nat → Skipping → List Bracket → List Char → Option (List Char)
  | 0, _, _, _ => none
  | fuel + 1, .value, around, cs =>
    match skipBlank cs with
    | '[' :: rest =>
      match skipBlank rest with
      | ']' :: rest => skipWith fuel .ended around rest
      | rest => skipWith fuel .value (.square :: around) rest
    | '{' :: rest =>
      match skipBlank rest with
      | '}' :: rest => skipWith fuel .ended around rest
      | rest => skipWith fuel .key (.curly :: around) rest
    | cs => do skipWith fuel .ended around (← skipScalar cs)
  | fuel + 1, .key, around, cs =>
    match skipBlank cs with
    | '"' :: rest => do
      match skipBlank (← skipString rest) with
      | ':' :: rest => skipWith fuel .value around rest
      | _ => none
    | _ => none
  | _ + 1, .ended, [], cs => some cs
  | fuel + 1, .ended, .square :: around, cs =>
    match skipBlank cs with
    | ',' :: rest => skipWith fuel .value (.square :: around) rest
    | ']' :: rest => skipWith fuel .ended around rest
    | _ => none
  | fuel + 1, .ended, .curly :: around, cs =>
    match skipBlank cs with
    | ',' :: rest => skipWith fuel .key (.curly :: around) rest
    | '}' :: rest => skipWith fuel .ended around rest
    | _ => none

/-- Skips a value. -/
def skipValue (cs : List Char) : Option (List Char) := skipWith (cs.length + 2) .value [] cs

end LeaseLock.Json
