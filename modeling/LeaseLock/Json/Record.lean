import LeaseLock.Json.Scan

/-!
# Records

Reading a record from a document. The document is an object, whose members may come in any
order and may be missing unless they are required, or an array, whose elements are the fields
in the order of declaration. A member that is no field is skipped. Faults are found from left
to right: the first one counts.
-/

namespace LeaseLock.Json

/-- A reader that tells a malformed document from one that holds something else. -/
abbrev Reader (α : Type) := List Char → Except Fault (α × List Char)

/-- A piece that has to be there. -/
def demand : Option α → Except Fault α
  | some a => .ok a
  | none => .error .malformed

def mismatch (m : Mismatch) : Except Fault α := .error (.mismatch m)

/-- Says what is there in place of what was expected. A number or text is read to its end, a
bracket only seen. -/
def refuse (expected : String) (cs : List Char) : Except Fault α := do
  let found ← match cs with
    | '[' :: _ => pure .sequence
    | '{' :: _ => pure .map
    | 'n' :: rest => do
      let _ ← demand (skipWord ['u', 'l', 'l'] rest)
      pure .null
    | 't' :: rest => do
      let _ ← demand (skipWord ['r', 'u', 'e'] rest)
      pure (.bool true)
    | 'f' :: rest => do
      let _ ← demand (skipWord ['a', 'l', 's', 'e'] rest)
      pure (.bool false)
    | '"' :: rest => do
      let (s, _) ← demand (scanString rest)
      pure (.text (String.ofList s))
    | cs => do
      let (n, _) ← demand (scanNumber cs)
      pure (.number n)
  mismatch (.type found expected)

/-! ### Values -/

/-- Reads a natural number below `limit`, in a field that takes such numbers. -/
def readNatural (limit : Nat) (expected : String) : Reader Nat := fun cs =>
  match cs.head? with
  | some c =>
    if c = '-' ∨ c.isDigit then do
      let (n, rest) ← demand (scanNumber cs)
      match n with
      | .natural k =>
        if k < limit then .ok (k, rest) else mismatch (.value (.number n) expected)
      | .negative _ => mismatch (.value (.number n) expected)
      | .real .. => mismatch (.type (.number n) expected)
    else refuse expected cs
  | none => .error .malformed

def readText : Reader String := fun cs =>
  match cs with
  | '"' :: rest => do
    let (s, rest) ← demand (scanString rest)
    .ok (String.ofList s, rest)
  | cs => refuse "a string" cs

def readBool : Reader Bool := fun cs =>
  match cs with
  | 't' :: rest => do
    let rest ← demand (skipWord ['r', 'u', 'e'] rest)
    .ok (true, rest)
  | 'f' :: rest => do
    let rest ← demand (skipWord ['a', 'l', 's', 'e'] rest)
    .ok (false, rest)
  | cs => refuse "a boolean" cs

/-- Reads a value or `null`. -/
def readOptional (read : Reader α) : Reader (Option α) := fun cs =>
  match cs with
  | 'n' :: rest => do
    let rest ← demand (skipWord ['u', 'l', 'l'] rest)
    .ok (none, rest)
  | cs => do
    let (a, rest) ← read cs
    .ok (some a, rest)

/-! ### Fields -/

/-- A field of a record of type `σ`: its name, and how its value is read and set. -/
structure Field (σ : Type) where
  name : String
  read : Reader (σ → σ)

/-- A field that sets what `read` reads. -/
def Field.of (name : String) (read : Reader α) (set : α → σ → σ) : Field σ :=
  ⟨name, fun cs => do
    let (a, rest) ← read cs
    .ok (set a, rest)⟩

structure Record (σ : Type) where
  /-- What a document is said to lack if it is none of these records. -/
  expected : String
  fields : List (Field σ)
  required : List String

namespace Record

variable {σ : Type}

/-- The first required field that was not seen. -/
def missing? (r : Record σ) (seen : List String) : Option String :=
  r.required.find? (!seen.contains ·)

/-- Reads the colon and the value of a member. -/
def readMember (r : Record σ) (seen : List String) (s : σ) (name : String) (rest : List Char) :
    Except Fault ((List String × σ) × List Char) := do
  let field? := r.fields.find? (·.name = name)
  if field?.isSome ∧ seen.contains name then mismatch (.duplicate name)
  else match skipBlank rest with
    | ':' :: rest =>
      match field? with
      | some field =>
        let (set, rest) ← field.read (skipBlank rest)
        .ok ((name :: seen, set s), rest)
      | none =>
        let rest ← demand (skipValue rest)
        .ok ((seen, s), rest)
    | _ => .error .malformed

/-- Reads the members of an object up to its closing brace. -/
def readMembers (r : Record σ) : Nat → Bool → List String → σ → Reader σ
  | 0, _, _, _, _ => .error .malformed
  | fuel + 1, isFirst, seen, s, cs => do
    let member (cs : List Char) : Except Fault (σ × List Char) :=
      match cs with
      | '"' :: rest => do
        let (name, rest) ← demand (scanString rest)
        let ((seen, s), rest) ← r.readMember seen s (String.ofList name) rest
        readMembers r fuel false seen s rest
      | _ => .error .malformed
    match isFirst, skipBlank cs with
    | _, '}' :: rest =>
      match r.missing? seen with
      | some name => mismatch (.missing name)
      | none => .ok (s, rest)
    | false, ',' :: rest => member (skipBlank rest)
    | true, cs => member cs
    | false, _ => .error .malformed

/-- Reads the elements of an array up to its closing bracket, as the given fields. -/
def readElements (r : Record σ) : List (Field σ) → Bool → σ → Reader σ
  | [], isFirst, s, cs =>
    match isFirst, skipBlank cs with
    | _, ']' :: rest => .ok (s, rest)
    | _, _ => .error .malformed
  | field :: fields, isFirst, s, cs =>
    let element (cs : List Char) : Except Fault (σ × List Char) := do
      let (set, rest) ← field.read cs
      readElements r fields false (set s) rest
    match isFirst, skipBlank cs with
    | _, ']' :: rest =>
      match (field :: fields).find? (r.required.contains ·.name) with
      | some absent =>
        mismatch (.length (r.fields.findIdx (·.name = absent.name))
          s!"{r.expected} with {r.fields.length} elements")
      | none => .ok (s, rest)
    | false, ',' :: rest => element (skipBlank rest)
    | true, cs => element cs
    | false, _ => .error .malformed

/-- Reads a record, with `s` for what is missing, from a whole document. -/
def read (r : Record σ) (s : σ) (text : String) : Except Fault σ := do
  let cs := skipBlank text.toList
  let (s, rest) ← match cs with
    | '{' :: rest => r.readMembers (rest.length + 1) true [] s rest
    | '[' :: rest => r.readElements r.fields true s rest
    | cs => refuse r.expected cs
  if (skipBlank rest).isEmpty then .ok s else .error .malformed

end Record
end LeaseLock.Json
