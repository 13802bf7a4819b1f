/-!
# Failures of Redis

`ClientError` is what goes wrong in an exchange with a server: the transport fails, the client
refuses, or the server replies with an error or with what makes no sense. `RedisError` adds
what goes wrong around it, while a connection is set up.
-/

namespace LeaseLock

/-- How a transport failed. -/
inductive TransportFault
  | timedOut
  | wouldBlock
  | brokenPipe
  | reset
  | refused
  | aborted
  | unexpectedEnd
  | notConnected
  | notFound
  | other
  deriving DecidableEq

namespace TransportFault

/-- The exchange was given up for lack of an answer in time. -/
def isTimeout : TransportFault → Bool
  | timedOut | wouldBlock => true
  | _ => false

/-- The other side would not have the connection. -/
def isRefusal : TransportFault → Bool
  | refused | notFound => true
  | _ => false

/-- The connection is gone. -/
def isDropped : TransportFault → Bool
  | brokenPipe | reset | refused | aborted | unexpectedEnd | notConnected | notFound => true
  | timedOut | wouldBlock | other => false

end TransportFault

/-- Why a reply is not what was asked for. -/
inductive Misfit
  | noText
  | noNumber
  /-- A text that is no number. -/
  | badDigits
  deriving DecidableEq

def Misfit.message : Misfit → String
  | noText => "Response type not string compatible."
  | noNumber => "Response type not convertible to numeric."
  | badDigits => "Could not convert from string."

inductive ClientError
  | transport (fault : TransportFault) (text : String)
  /-- A failure of one of the client's own kinds, known by the kind's name. -/
  | client (kind description : String) (detail : Option String)
  /-- An error reply `code text` of the server. -/
  | reply (code text : String)
  /-- A reply, as it is shown, that cannot be taken for what was asked for. -/
  | misfit (why : Misfit) (shown : String)
  deriving DecidableEq

namespace ClientError

/-- The name of the client's own kind of transport failures. -/
def transportKind : String := "Io"

/-- The names of the error codes that the client knows. -/
def codeName : String → String
  | "ERR" => "ResponseError"
  | "LOADING" => "BusyLoading"
  | "READONLY" => "ReadOnly"
  | "MASTERDOWN" => "MasterDown"
  | "NOSCRIPT" => "NoScript"
  | code => "\"" ++ code ++ "\""

def message : ClientError → String
  | transport _ text => text
  | client kind description none => s!"{description} - {kind}"
  | client kind description (some detail) => s!"{description} - {kind}: {detail}"
  | reply code text => s!"{codeName code}: {text}"
  | misfit why shown => s!"Incompatible type - \"{why.message}\" (value was {shown})"

def isTimeout : ClientError → Bool
  | transport f _ => f.isTimeout
  | _ => false

def isTransport : ClientError → Bool
  | transport .. => true
  | client kind .. => kind == transportKind
  | reply .. | misfit .. => false

def isDropped : ClientError → Bool
  | transport f _ => f.isDropped
  | client kind .. => kind == transportKind
  | reply .. | misfit .. => false

def isRefusal : ClientError → Bool
  | transport f _ => f.isRefusal
  | _ => false

/-- The texts of the failures behind this one. -/
def sources : ClientError → List String
  | transport _ text => [text]
  | _ => []

end ClientError

inductive RedisError
  | connection (text : String)
  | config (text : String)
  | timeout
  | client (cause : ClientError)
  deriving DecidableEq

namespace RedisError

def message : RedisError → String
  | connection text => s!"Connection error: {text}"
  | config text => s!"Configuration error: {text}"
  | timeout => "Operation timed out"
  | client e => s!"Redis error: {e.message}"

/-- Whether the same exchange may succeed later. -/
def isRetryable : RedisError → Bool
  | connection _ | timeout => true
  | client e => e.isTimeout || e.isDropped || e.isTransport
  | config _ => false

/-- Whether the connection was lost or never made. -/
def isConnectionLoss : RedisError → Bool
  | connection _ => true
  | client e => e.isDropped || e.isRefusal
  | _ => false

/-- The texts of the failures behind this one, the nearest first. -/
def sources : RedisError → List String
  | client e => e.message :: e.sources
  | _ => []

end RedisError
end LeaseLock
