import LeaseLock.Error.Redis
import LeaseLock.Settings.Redis
import LeaseLock.Url.Parse

/-!
# Checking the Address of a Server

What is wrong with the settings of a connection before any connection is made: the address is
none, its scheme is not one of a Redis server, or a database is named both in the address and
beside it.
-/

namespace LeaseLock

inductive AddressFault
  | invalid (url : String) (cause : Url.Error)
  | scheme (scheme : String)
  | databaseTwice
  deriving DecidableEq

namespace AddressFault

def message : AddressFault → String
  | invalid url cause => s!"invalid url '{url}': {cause.message}"
  | scheme s => s!"unsupported scheme '{s}', expected redis or rediss"
  | databaseTwice => "database set both in url path and in config"

end AddressFault

namespace RedisSettings

/-- The schemes of addresses of Redis servers. -/
def schemes : List String := ["redis", "rediss", "redis+unix", "unix"]

def validate (s : RedisSettings) : Except AddressFault Unit :=
  match Url.parse s.url with
  | .error e => .error (.invalid s.url e)
  | .ok url =>
    if !schemes.contains (String.ofList url.scheme) then
      .error (.scheme (String.ofList url.scheme))
    else if url.path.any (· != '/') && s.database.isSome then .error .databaseTwice
    else .ok ()

end RedisSettings
end LeaseLock
