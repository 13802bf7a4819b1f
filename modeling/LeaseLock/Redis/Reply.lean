import LeaseLock.Text.Quoted

/-!
# Replies

What a Redis server replies to a command. `Reply.shown` is how a reply is written where it is
complained about.
-/

namespace LeaseLock.Redis

inductive Reply
  | nil
  | status (text : String)
  | bulk (text : String)
  | int (n : Int)
  /-- An error, as its code and what follows the code. -/
  | error (code text : String)
  | array (items : List Reply)

namespace Reply

/-- The status of a command that has nothing to report. -/
def ok : Reply := .status "OK"

def isOk : Reply → Bool
  | status text => text == "OK"
  | _ => false

/-- The code of the error for a script that the server does not know. -/
def unknownScriptCode : String := "NOSCRIPT"

def unknownScript : Reply := .error unknownScriptCode "No matching script. Please use EVAL."

mutual

def shown : Reply → String
  | nil => "nil"
  | status text => if text = "OK" then "ok" else s!"simple-string({Text.quoted text})"
  | bulk text => s!"bulk-string('{Text.quoted text}')"
  | int n => s!"int({n})"
  | error code text => s!"error({code} {text})"
  | array items => s!"array([{shownItems items}])"

def shownItems : List Reply → String
  | [] => ""
  | [item] => shown item
  | item :: items => shown item ++ ", " ++ shownItems items

end

mutual

/-- The first error in a reply: its code and text. -/
def fault? : Reply → Option (String × String)
  | error code text => some (code, text)
  | array items => faultIn? items
  | nil | status _ | bulk _ | int _ => none

def faultIn? : List Reply → Option (String × String)
  | [] => none
  | item :: items => fault? item <|> faultIn? items

end

end Reply
end LeaseLock.Redis
