import LeaseLock.Url.Host

/-!
# Addresses

The parts of an address, and how a text is taken apart into them. Blanks around the text and
line breaks and tabs anywhere in it do not count. After the scheme comes an authority if two
slashes follow, and a path from the root if one does; otherwise the rest is a path of its own.
A few schemes are special: they always have an authority, and know the backslash as a slash.
-/

namespace LeaseLock

/-- An address taken apart. Credentials, path, query and fragment are percent-encoded. -/
structure Url where
  scheme : List Char
  username : List Char
  password : Option (List Char)
  host : Option Url.Host
  port : Option Nat
  path : List Char
  query : Option (List Char)
  fragment : Option (List Char)
  deriving DecidableEq

namespace Url

/-- The characters that count. -/
def clean (cs : List Char) : List Char :=
  let isBlank (c : Char) : Bool := c.toNat ≤ 32
  let trimmed := ((cs.dropWhile isBlank).reverse.dropWhile isBlank).reverse
  trimmed.filter fun c => c != '\t' && c != '\n' && c != '\r'

/-! ### Schemes -/

inductive SchemeKind
  | plain
  | special
  | file
  deriving DecidableEq

def specialPorts : List (String × Nat) :=
  [("http", 80), ("https", 443), ("ws", 80), ("wss", 443), ("ftp", 21)]

def schemeKind (scheme : List Char) : SchemeKind :=
  let scheme := String.ofList scheme
  if scheme = "file" then .file
  else if (specialPorts.lookup scheme).isSome then .special
  else .plain

/-- The port that an address of this scheme has without naming it. -/
def standardPort? (scheme : List Char) : Option Nat := specialPorts.lookup (String.ofList scheme)

def isSchemeChar (c : Char) : Bool := c.isAlphanum || ['+', '-', '.'].contains c

/-- The scheme in lower case, and what comes after its colon. -/
def splitScheme (cs : List Char) : Option (List Char × List Char) :=
  match cs.head?, cs.dropWhile isSchemeChar with
  | some c, ':' :: rest =>
    if c.isAlpha then some ((cs.takeWhile isSchemeChar).map Char.toLower, rest) else none
  | _, _ => none

/-! ### Authorities -/

/-- Whether the authority ends at a character. -/
def endsAuthority (isSpecial : Bool) (c : Char) : Bool :=
  c == '/' || c == '?' || c == '#' || (isSpecial && c == '\\')

/-- The text before and after the last at-sign. -/
def splitLastAt (cs : List Char) : Option (List Char × List Char) :=
  match cs.reverse.span (· != '@') with
  | (_, []) => none
  | (after, _ :: before) => some (before.reverse, after.reverse)

structure Credentials where
  username : List Char
  password : Option (List Char)
  deriving DecidableEq

namespace Credentials

def none : Credentials := ⟨[], .none⟩

/-- The credentials in a text: what follows the first colon is the password, unless it is
empty. -/
def ofText (cs : List Char) : Credentials :=
  let word := (cs.dropWhile (· != ':')).tail
  { username := percentEncode inUserinfo (cs.takeWhile (· != ':'))
    password := if word.isEmpty then .none else some (percentEncode inUserinfo word) }

end Credentials

/-- The text up to the first colon outside brackets, and the rest. -/
def splitHost : Bool → List Char → List Char × List Char
  | _, [] => ([], [])
  | inside, c :: cs =>
    if c = ':' ∧ !inside then ([], c :: cs)
    else
      let (host, rest) := splitHost (if c = '[' then true else if c = ']' then false else inside) cs
      (c :: host, rest)

/-- The port after a colon, and what is left of the authority after it. -/
def parsePort (scheme : List Char) (cs : List Char) : Except Error (Option Nat × List Char) :=
  let digits := cs.takeWhile (·.isDigit)
  let rest := cs.dropWhile (·.isDigit)
  let n := Nat.ofDigitChars 10 digits 0
  if 65535 < n then .error .port
  else if rest ≠ [] ∧ rest.head? ≠ some '\\' then .error .port
  else if digits.isEmpty ∨ standardPort? scheme = some n then .ok (none, rest)
  else .ok (some n, rest)

/-! ### Paths -/

/-- Whether a segment of a path stands for the segment above. -/
def isDoubleDot (segment : List Char) : Bool :=
  ["..", "%2e.", ".%2e", "%2e%2e"].contains (String.ofList (segment.map Char.toLower))

/-- Whether a segment of a path stands for no segment. -/
def isSingleDot (segment : List Char) : Bool :=
  [".", "%2e"].contains (String.ofList (segment.map Char.toLower))

/-- Whether a segment names a drive: a letter with a colon or a bar. -/
def isDrive : List Char → Bool
  | [letter, mark] => letter.isAlpha && (mark == ':' || mark == '|')
  | _ => false

/-- The segments above the last one, which comes first. There is nothing above a drive. -/
def above : List (List Char) → List (List Char)
  | [] => []
  | segment :: rest => if isDrive segment then segment :: rest else rest

/-- The segments that are left once those that stand for others are resolved, on top of the
given ones, the last of which comes first. -/
def resolve : List (List Char) → List (List Char) → List (List Char)
  | done, [] => done.reverse
  | done, segment :: rest =>
    let emptyIfLast (done : List (List Char)) := if rest.isEmpty then [] :: done else done
    if isDoubleDot segment then resolve (emptyIfLast (above done)) rest
    else if isSingleDot segment then resolve (emptyIfLast done) rest
    else resolve (segment :: done) rest

/-- The path from the root that a text without its first slash stands for. -/
def rootPath (isSpecial : Bool) (cs : List Char) : List Char :=
  let cs := if isSpecial then cs.map fun c => if c = '\\' then '/' else c else cs
  let segments := (cs.splitOn '/').map (percentEncode inPath)
  (resolve [] segments).flatMap ('/' :: ·)

/-- The path after an authority. -/
def pathAfterAuthority (isSpecial : Bool) (cs : List Char) : List Char :=
  match cs with
  | [] => if isSpecial then ['/'] else []
  | c :: rest =>
    if c = '/' ∨ (isSpecial ∧ c = '\\') then rootPath isSpecial rest else rootPath isSpecial cs

/-! ### Whole addresses -/

/-- Whether the path ends at a character. -/
def endsPath (c : Char) : Bool := c == '?' || c == '#'

/-- The query and the fragment in what comes after the path. -/
def splitTail (isSpecial : Bool) (cs : List Char) : Option (List Char) × Option (List Char) :=
  let query := match cs with
    | '?' :: rest => some (percentEncode (inQuery isSpecial) (rest.takeWhile (· != '#')))
    | _ => none
  let fragment := match cs.dropWhile (· != '#') with
    | _ :: rest => some (percentEncode inFragment rest)
    | [] => none
  (query, fragment)

/-- Adds path, query and fragment to what is known of an address. -/
def complete (url : Url) (isSpecial : Bool) (path : List Char → List Char) (cs : List Char) : Url :=
  let (query, fragment) := splitTail isSpecial (cs.dropWhile (!endsPath ·))
  { url with path := path (cs.takeWhile (!endsPath ·)), query, fragment }

/-- An address of which only the scheme is known. -/
def ofScheme (scheme : List Char) : Url := ⟨scheme, [], none, none, none, [], none, none⟩

/-- The credentials of an authority, and the rest of it. Nothing but an at-sign in front of a
path is an authority without a host. -/
def parseCredentials (authority after : List Char) : Except Error (Credentials × List Char) :=
  match splitLastAt authority with
  | none => .ok (.none, authority)
  | some ([], rest) =>
    if rest.isEmpty ∧ !after.isEmpty then .error .emptyHost else .ok (.none, rest)
  | some (userinfo, rest) => .ok (.ofText userinfo, rest)

/-- The address whose authority starts the text. -/
def parseAuthority (scheme : List Char) (isSpecial : Bool) (cs : List Char) : Except Error Url := do
  let authority := cs.takeWhile (!endsAuthority isSpecial ·)
  let after := cs.dropWhile (!endsAuthority isSpecial ·)
  let (credentials, rest) ← parseCredentials authority after
  let (hostText, rest) := splitHost false rest
  let host ← if isSpecial then specialHost hostText else plainHost hostText
  if hostText.isEmpty ∧ !rest.isEmpty then .error .emptyHost
  else
    let (port, rest) ← if rest.isEmpty then .ok (none, []) else parsePort scheme rest.tail
    if hostText.isEmpty ∧ credentials ≠ .none then .error .emptyHost
    else
      let url := { ofScheme scheme with
        username := credentials.username
        password := credentials.password
        host := if hostText.isEmpty then none else some host
        port }
      .ok (url.complete isSpecial (pathAfterAuthority isSpecial) (rest ++ after))

/-- The address of a file: its host has neither credentials nor a port, and may be empty. -/
def parseFile (scheme : List Char) (cs : List Char) : Except Error Url :=
  let isSlash (c : Char) : Bool := c == '/' || c == '\\'
  match cs with
  | a :: b :: rest =>
    if isSlash a ∧ isSlash b then
      let hostText := rest.takeWhile (!endsAuthority true ·)
      if hostText.isEmpty || isDrive hostText then
        .ok ((ofScheme scheme).complete true (pathAfterAuthority true) rest)
      else do
        let host ← specialHost hostText
        .ok ({ ofScheme scheme with host := some host }.complete true (pathAfterAuthority true)
          (rest.drop hostText.length))
    else .ok ((ofScheme scheme).complete true (pathAfterAuthority true) cs)
  | cs => .ok ((ofScheme scheme).complete true (pathAfterAuthority true) cs)

/-- The address that a text is. -/
def parseChars (cs : List Char) : Except Error Url :=
  match splitScheme (clean cs) with
  | none => .error .relative
  | some (scheme, rest) =>
    match schemeKind scheme, rest with
    | .special, rest =>
      parseAuthority scheme true (rest.dropWhile fun c => c == '/' || c == '\\')
    | .file, rest => parseFile scheme rest
    | .plain, '/' :: '/' :: rest => parseAuthority scheme false rest
    | .plain, '/' :: rest => .ok ((ofScheme scheme).complete false (rootPath false) rest)
    | .plain, rest => .ok ((ofScheme scheme).complete false (percentEncode isControl) rest)

def parse (text : String) : Except Error Url := parseChars text.toList

end Url
end LeaseLock
