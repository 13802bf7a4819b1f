import LeaseLock.Number.Width
import LeaseLock.Error.Lock
import LeaseLock.Redis.Reply
import LeaseLock.Text.Number

/-!
# Reading Replies

What a reply comes to for a caller who asked for a text, for a text or nothing, or for a
number. An error in the reply is the caller's failure, and so is a reply of another shape.
-/

namespace LeaseLock.Redis.Reply

/-- The reply itself, unless there is an error in it. -/
def checked (r : Reply) : Except ClientError Reply :=
  match r.fault? with
  | some (code, text) => .error (.reply code text)
  | none => .ok r

def misfit (r : Reply) (why : Misfit) : ClientError := .misfit why r.shown

/-- The text of a reply without errors. -/
def text? : Reply → Option String
  | status text | bulk text => some text
  | int n => some (toString n)
  | nil | error .. | array _ => none

/-- A text. -/
def readText (r : Reply) : Except ClientError String := do
  let r ← r.checked
  match r.text? with
  | some text => .ok text
  | none => .error (r.misfit .noText)

/-- A text, or nothing. -/
def readText? (r : Reply) : Except ClientError (Option String) :=
  match r with
  | nil => .ok none
  | r => r.readText.map some

/-- A number of 64 bits with a sign, which may come in digits. The status of a command that has
nothing to report is none. -/
def readNumber (r : Reply) : Except ClientError Int := do
  let r ← r.checked
  match r with
  | int n => .ok n
  | status text | bulk text =>
    if r.isOk then .error (r.misfit .noNumber)
    else match Text.readSigned Width.bits63 text.toList with
      | some n => .ok n
      | none => .error (r.misfit .badDigits)
  | nil | error .. | array _ => .error (r.misfit .noNumber)

end LeaseLock.Redis.Reply
