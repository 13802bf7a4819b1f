import LeaseLock.Settings.Environment

/-!
# Settings of a Redis Connection

Where the server is and how it is spoken to. A setter that asks for an encrypted connection,
and one that gives an address to settings that ask for it, make the scheme of the address the
encrypted one. `connectionUrl` is the address with the credentials and the database put in.
-/

namespace LeaseLock

structure RedisSettings where
  url : String
  connectionTimeout : Span
  commandTimeout : Span
  database : Option UInt8
  username : Option String
  password : Option String
  tls : Bool
  connectionName : Option String
  deriving DecidableEq

namespace RedisSettings

def plainScheme : List Char := "redis://".toList

def encryptedScheme : List Char := "rediss://".toList

/-- The text with the first occurrence of `pattern` replaced. -/
def replaceFirst (pattern replacement : List Char) : List Char → List Char
  | [] => if pattern = [] then replacement else []
  | c :: cs =>
    if pattern.isPrefixOf (c :: cs) then replacement ++ (c :: cs).drop pattern.length
    else c :: replaceFirst pattern replacement cs

/-- The address with the encrypted scheme for the plain one. -/
def encrypted (url : String) : String :=
  let cs := url.toList
  if plainScheme.isPrefixOf cs then
    String.ofList (encryptedScheme ++ cs.drop plainScheme.length)
  else url

def standardTimeout : Span := .ofSecs 5

/-- The settings for an address, with everything else standard. -/
def ofUrl (url : String) : RedisSettings where
  url := url
  connectionTimeout := standardTimeout
  commandTimeout := standardTimeout
  database := none
  username := none
  password := none
  tls := false
  connectionName := none

def standard : RedisSettings := ofUrl "redis://localhost:6379"

instance : Inhabited RedisSettings := ⟨standard⟩

/-- One setting, given by hand. -/
inductive Setter
  | url (url : String)
  | connectionTimeout (d : Span)
  | commandTimeout (d : Span)
  | database (n : UInt8)
  | username (name : String)
  | password (word : String)
  | tls (enabled : Bool)
  | connectionName (name : String)

def set (s : RedisSettings) : Setter → RedisSettings
  | .url url => { s with url := if s.tls then encrypted url else url }
  | .connectionTimeout d => { s with connectionTimeout := d }
  | .commandTimeout d => { s with commandTimeout := d }
  | .database n => { s with database := some n }
  | .username name => { s with username := some name }
  | .password word => { s with password := some word }
  | .tls enabled => { s with tls := enabled, url := if enabled then encrypted s.url else s.url }
  | .connectionName name => { s with connectionName := some name }

/-- Settings with some given by hand, one after another. -/
def setAll (s : RedisSettings) (setters : List Setter) : RedisSettings := setters.foldl set s

/-- What an environment sets of a connection. Any text at all asks for encryption. -/
def settersOf (env : Environment) : List Setter :=
  [ (env.text? "REDIS_URL").map .url,
    (env.number? Width.bits8 "REDIS_DATABASE").map fun n => .database n.toUInt8,
    (env.text? "REDIS_USERNAME").map .username,
    (env.text? "REDIS_PASSWORD").map .password,
    (env.text? "REDIS_TLS").map fun _ => .tls true,
    (env.number? Width.bits64 "REDIS_CONNECTION_TIMEOUT_SECS").map fun n =>
      .connectionTimeout (.ofSecs n),
    (env.number? Width.bits64 "REDIS_COMMAND_TIMEOUT_SECS").map fun n => .commandTimeout (.ofSecs n)
  ].filterMap id

def ofEnvironment (env : Environment) : RedisSettings := standard.setAll (settersOf env)

/-- The address with credentials after its scheme. -/
def withCredentials (url credentials : List Char) : List Char :=
  let first := replaceFirst plainScheme (plainScheme ++ credentials) url
  replaceFirst encryptedScheme (encryptedScheme ++ credentials) first

/-- The text without the slashes at its end. -/
def trimSlashes (cs : List Char) : List Char := (cs.reverse.dropWhile (· == '/')).reverse

/-- The credentials as they stand in an address; without a password there are none. -/
def credentials? (s : RedisSettings) : Option (List Char) :=
  s.password.map fun word => (s.username.getD "").toList ++ ':' :: word.toList ++ ['@']

/-- The address that a connection is made to, as characters. -/
def connectionChars (s : RedisSettings) : List Char :=
  let url := match s.credentials? with
    | some credentials => withCredentials s.url.toList credentials
    | none => s.url.toList
  match s.database with
  | some n => trimSlashes url ++ '/' :: Text.digits n.toNat
  | none => url

def connectionUrl (s : RedisSettings) : String := String.ofList s.connectionChars

end RedisSettings
end LeaseLock
