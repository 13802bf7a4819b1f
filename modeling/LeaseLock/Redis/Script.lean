import LeaseLock.Redis.Keyspace

/-!
# Scripts

What a server does for a lock, in one go and undisturbed. A script runs commands, each of which
may depend on what the ones before came to, and ends with a reply. If a command fails the script
ends there with the error as its reply, and what it did before stays done.
-/

namespace LeaseLock.Redis

inductive Program
  | reply (r : Reply)
  | call (c : Command) (next : Value → Program)

namespace Program

/-- What a program comes to: its reply, what it leaves behind, and the commands that it ran. -/
def run : Program → Keyspace → Reply × Keyspace × List Command
  | reply r, ks => (r, ks, [])
  | call c next, ks =>
    match ks.run c with
    | (.error refusal, ks) => (refusal.reply, ks, [c])
    | (.ok value, ks) =>
      let (r, ks, calls) := (next value).run ks
      (r, ks, c :: calls)

end Program

/-- What a value is as a reply. -/
def Value.reply : Value → Reply
  | nothing => .nil
  | ok => .ok
  | value token => .bulk token.text
  | number n => .int n

/-- The reply to an owner. -/
def granted : Reply := .bulk "OK"

/-- Sets a key that is not there, and prolongs one that is the owner's own. -/
def acquireProgram (key : String) (token : Token) (millis : Nat) : Program :=
  .call (.get key) fun
    | .value owner =>
      if owner = token then .call (.pexpire key millis) fun _ => .reply granted
      else .reply .nil
    | _ => .call (.set key token millis) fun _ => .reply granted

/-- Does something with a key that is the owner's own. -/
def ownerProgram (key : String) (token : Token) (command : Command) : Program :=
  .call (.get key) fun value =>
    if value = .value token then .call command fun value => .reply value.reply
    else .reply (.int 0)

/-- A span in milliseconds, of which a server takes at least one and 64 bits. -/
def ttlMillis (d : Span) : Nat := max 1 (min d.millis (Width.bits64 - 1))

/-- The scripts that a lock needs. -/
inductive Script
  | acquire
  | refresh
  | release
  deriving DecidableEq

namespace Script

def name : Script → String
  | acquire => "acquire"
  | refresh => "refresh"
  | release => "release"

/-- The script for a request. -/
def of : Request → Script
  | .acquire .. => acquire
  | .refresh .. => refresh
  | .release .. => release

/-- What the script does for a request. -/
def program : Request → Program
  | .acquire key token ttl => acquireProgram key token (ttlMillis ttl)
  | .refresh key token ttl => ownerProgram key token (.pexpire key (ttlMillis ttl))
  | .release key token => ownerProgram key token (.del key)

/-- The words that go with a request. -/
def words (r : Request) : List String :=
  r.key :: r.token.text :: (r.ttl?.map fun d => toString (ttlMillis d)).toList

end Script
end LeaseLock.Redis
