import LeaseLock.Redis.Script

/-!
# Servers

A server replies to messages, and keeps the scripts that were loaded beside the keys. Replies
can be planned for messages to come, which are then not carried out. `Server.wire` is what it
received and `Server.calls` what its scripts ran.
-/

namespace LeaseLock.Redis

inductive Message
  | auth (username : Option String) (password : String)
  | select (database : Int)
  | setName (name : String)
  | ping
  | load (script : Script)
  | eval (request : Request)

/-- The messages for which replies can be planned. -/
inductive Family
  | eval
  | script
  | ping
  | client
  deriving DecidableEq

/-- What awaits a message. -/
inductive Planned
  | normal
  /-- No reply, for ever. -/
  | stall
  | reply (r : Reply)

namespace Message

def family? : Message → Option Family
  | eval _ => some .eval
  | load _ => some .script
  | ping => some .ping
  | setName _ => some .client
  | auth .. | select _ => none

/-- The words of a message; the script to evaluate has a name once it is known. -/
def words (isKnown : Script → Bool) : Message → List String
  | auth username password => "AUTH" :: username.toList ++ [password]
  | select n => ["SELECT", toString n]
  | setName name => ["CLIENT", "SETNAME", name]
  | ping => ["PING"]
  | load script => ["SCRIPT", "LOAD", script.name]
  | eval r =>
    let script := Script.of r
    "EVALSHA" :: (if isKnown script then script.name else "unknown") :: "1" :: Script.words r

end Message

structure Server where
  keyspace : Keyspace
  loaded : List Script
  plans : List (Family × Planned)
  wire : List (List String)
  calls : List Command

namespace Server

def start : Server := ⟨.start, [], [], [], []⟩

/-- Other plans for a family of messages. -/
def plan (s : Server) (family : Family) (plans : List Planned) : Server :=
  { s with plans := s.plans.filter (·.1 ≠ family) ++ plans.map ((family, ·)) }

/-- The plan for a message, and the plans left after it. -/
def takePlan (s : Server) (m : Message) : Planned × Server :=
  match s.plans.find? (some ·.1 = m.family?) with
  | some (_, planned) => (planned, { s with plans := s.plans.eraseP (some ·.1 = m.family?) })
  | none => (.normal, s)

/-- Carries a message out. -/
def carryOut (s : Server) : Message → Reply × Server
  | .ping => (.status "PONG", s)
  | .load script => (.bulk script.name, { s with loaded := script :: s.loaded })
  | .eval r =>
    if s.loaded.contains (Script.of r) then
      let (reply, keyspace, calls) := (Script.program r).run s.keyspace
      (reply, { s with keyspace, calls := s.calls ++ calls })
    else (.unknownScript, s)
  | .auth .. | .select _ | .setName _ => (.ok, s)

/-- Receives a message; `none` is no reply. -/
def receive (s : Server) (m : Message) : Option Reply × Server :=
  let (planned, s) := s.takePlan m
  let s := { s with wire := s.wire ++ [m.words s.loaded.contains] }
  match planned with
  | .normal =>
    let (reply, s) := s.carryOut m
    (some reply, s)
  | .stall => (none, s)
  | .reply r => (some r, s)

/-- Puts a request to the script for it. A server that does not know the script is sent it and
asked once more. -/
def evaluate (s : Server) (r : Request) : Option Reply × Server :=
  match s.receive (.eval r) with
  | (some reply, s) =>
    if (reply.fault?.map (·.1)) = some Reply.unknownScriptCode then
      match s.receive (.load (Script.of r)) with
      | (some reply, s) => if reply.fault?.isSome then (some reply, s) else s.receive (.eval r)
      | (none, s) => (none, s)
    else (some reply, s)
  | (none, s) => (none, s)

end Server
end LeaseLock.Redis
