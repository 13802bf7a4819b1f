import LeaseLock.Settings.RedisCheck
import LeaseLock.Url.Query

/-!
# Targets of Connections

Where an address leads: to a port of a host or to a local socket, with a database and
credentials to present there. `Target.ofAddress` says which addresses a client refuses before it
turns to the network.
-/

namespace LeaseLock.Redis

inductive Endpoint
  | tcp (host : Url.Host) (port : Nat)
  | socket (path : List UInt8)
  deriving DecidableEq

structure Target where
  endpoint : Endpoint
  database : Int
  username : Option String
  password : Option String
  deriving DecidableEq

/-- Why a client refuses an address. -/
inductive Target.Fault
  | noAddress
  | noHost
  /-- The host stands for every address of this machine. -/
  | wildcard
  | noPath
  | encrypted
  | database
  | username
  | password
  | version (text : String)
  deriving DecidableEq

namespace Target

def Fault.description : Fault → String
  | noAddress => "Redis URL did not parse"
  | noHost => "Missing hostname"
  | wildcard => "Cannot connect to a wildcard address (0.0.0.0 or ::)"
  | noPath => "Missing path"
  | encrypted => "can't connect with TLS, the feature is not enabled"
  | database => "Invalid database number"
  | username => "Username is not valid UTF-8 string"
  | password => "Password is not valid UTF-8 string"
  | version _ => "Invalid protocol version"

def Fault.detail : Fault → Option String
  | version text => some text
  | _ => none

def Fault.error (f : Fault) : ClientError := .client "InvalidClientConfig" f.description f.detail

/-- The port of a server whose address names none. -/
def standardPort : Nat := 6379

/-- The number of a database, which is zero where none is named. -/
def databaseOf (cs : List Char) : Except Fault Int :=
  if cs = [] then .ok 0
  else match Text.readSigned Width.bits63 cs with
    | some n => .ok n
    | none => .error .database

/-- Checks the version of the protocol that an address asks for. -/
def checkVersion (url : Url) : Except Fault Unit :=
  match url.parameter? "protocol" with
  | none => .ok ()
  | some v => if ["2", "resp2", "3", "resp3"].contains v then .ok () else .error (.version v)

/-- Credentials as they were before they were put into an address. -/
def decoded (fault : Fault) : Option (List Char) → Except Fault (Option String)
  | none => .ok none
  | some cs =>
    match Url.percentDecodeText cs with
    | some text => .ok (some text)
    | none => .error fault

def ofTcp (url : Url) : Except Fault Target := do
  let some host := url.host | .error .noHost
  if host.isWildcard then .error .wildcard
  else if url.scheme = ['r', 'e', 'd', 'i', 's', 's'] then .error .encrypted
  else
    let path := (url.path.dropWhile (· == '/')).reverse.dropWhile (· == '/')
    let database ← databaseOf path.reverse
    let username ← decoded .username (if url.username = [] then none else some url.username)
    let password ← decoded .password url.password
    checkVersion url
    return ⟨.tcp host (url.port.getD standardPort), database, username, password⟩

/-- The file that a path leads to, on this machine. -/
def socket? (url : Url) : Option (List UInt8) :=
  if url.path.head? = some '/' ∧ (url.host.all (· = .name "localhost".toList)) then
    some (Url.percentDecode url.path)
  else none

def ofSocket (url : Url) : Except Fault Target := do
  let some path := socket? url | .error .noPath
  let database ← match url.parameter? "db" with
    | some text => if text.isEmpty then .error .database else databaseOf text.toList
    | none => .ok 0
  checkVersion url
  return ⟨.socket path, database, url.parameter? "user", url.parameter? "pass"⟩

/-- Where an address leads. -/
def ofAddress (text : String) : Except Fault Target :=
  match Url.parse text with
  | .error _ => .error .noAddress
  | .ok url =>
    let scheme := String.ofList url.scheme
    if ["redis", "rediss"].contains scheme then ofTcp url
    else if ["unix", "redis+unix"].contains scheme then ofSocket url
    else .error .noAddress

end Target
end LeaseLock.Redis
