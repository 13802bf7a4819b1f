import LeaseLock.Call.Turn
import LeaseLock.Redis.Reading
import LeaseLock.Redis.Server
import LeaseLock.Redis.Target

/-!
# Links

How a client speaks with a server: it makes a connection, asks whether the server is there, and
puts the requests of a lock to it. What never gets a reply is given up after a while, with the
message still out there.
-/

namespace LeaseLock.Redis

/-- A server, and where it can be reached, if it can. -/
structure Link where
  server : Server
  reachable : Option Endpoint

namespace Link

/-- Sends a message; `none` is no reply. -/
def send (l : Link) (m : Message) : Option Reply × Link :=
  let (reply, server) := l.server.receive m
  (reply, { l with server })

/-- Sends messages whose replies do not matter. -/
def sendAll (l : Link) (ms : List Message) : Link := ms.foldl (fun l m => (l.send m).2) l

/-- What a server says that is there. -/
def pong : String := "PONG"

/-- Asks whether the server is there. -/
def ping (l : Link) : Except RedisError Unit × Link :=
  match l.send .ping with
  | (none, l) => (.error .timeout, l)
  | (some reply, l) =>
    match reply.readText with
    | .error e => (.error (.connection e.message), l)
    | .ok text =>
      if text = pong then (.ok (), l)
      else (.error (.connection s!"unexpected PING reply: {text}"), l)

/-- What a target is told first. -/
def greeting (t : Target) : List Message :=
  (t.password.map fun word => .auth t.username word).toList ++
    (if t.database = 0 then [] else [.select t.database])

/-- Gives the connection a name. -/
def name (l : Link) (name : String) : Except RedisError Unit × Link :=
  match l.send (.setName name) with
  | (none, l) => (.error .timeout, l)
  | (some reply, l) => (reply.checked.map (fun _ => ()) |>.mapError .client, l)

/-- Makes a connection as settings say. -/
def connect (l : Link) (s : RedisSettings) : Except RedisError Unit × Link :=
  match s.validate, Target.ofAddress s.connectionUrl with
  | .error fault, _ => (.error (.config fault.message), l)
  | .ok _, .error fault => (.error (.connection fault.error.message), l)
  | .ok _, .ok target =>
    if l.reachable ≠ some target.endpoint then (.error .timeout, l)
    else
      let l := l.sendAll (greeting target)
      match s.connectionName.elim (.ok (), l) l.name with
      | (.error e, l) => (.error e, l)
      | (.ok _, l) => l.ping

/-- What the reply to a request means for a lock. -/
def response (r : Request) (reply : Reply) : Response :=
  let granted : Except ClientError Bool :=
    match r with
    | .acquire .. => reply.readText?.map (· = some "OK")
    | .refresh .. | .release .. => reply.readNumber.map (· = 1)
  match granted with
  | .ok yes => .granted yes
  | .error e => .failed (.redis e)

/-- Puts a request to the server; `none` if there never is a reply. -/
def put (l : Link) (r : Request) : Option Response × Link :=
  let (reply, server) := l.server.evaluate r
  (reply.map (response r), { l with server })

end Link
end LeaseLock.Redis
