import LeaseLock.Json.Record
import LeaseLock.Json.Text
import LeaseLock.Settings.Redis

/-!
# Settings of a Redis Connection as a Document

The settings as an object. Spans are written in whole seconds, and what is not given as
`null`; of what is missing only the address is missed.
-/

namespace LeaseLock.RedisSettings

open Json

def readSecs : Reader Span := fun cs => do
  let (n, rest) ← readNatural Width.bits64 "u64" cs
  .ok (.ofSecs n, rest)

def readDatabase : Reader (Option UInt8) := fun cs => do
  let (n, rest) ← readOptional (readNatural Width.bits8 "u8") cs
  .ok (n.map (·.toUInt8), rest)

def record : Record RedisSettings where
  expected := "struct RedisConfig"
  fields :=
    [ .of "url" readText fun url s => { s with url },
      .of "connection_timeout" readSecs fun d s => { s with connectionTimeout := d },
      .of "command_timeout" readSecs fun d s => { s with commandTimeout := d },
      .of "database" readDatabase fun database s => { s with database },
      .of "username" (readOptional readText) fun username s => { s with username },
      .of "password" (readOptional readText) fun password s => { s with password },
      .of "tls" readBool fun tls s => { s with tls },
      .of "connection_name" (readOptional readText) fun name s =>
        { s with connectionName := name } ]
  required := ["url"]

def read (text : String) : Except Fault RedisSettings := record.read standard text

/-- The members of the written form. -/
def members (s : RedisSettings) : List (List Char) :=
  let secs (name : String) (d : Span) := writeMember name (writeNatural d.secs)
  let text (name : String) (t : Option String) := writeMember name (writeOptional writeText t)
  [ writeMember "url" (writeText s.url),
    secs "connection_timeout" s.connectionTimeout,
    secs "command_timeout" s.commandTimeout,
    writeMember "database" (writeOptional (fun n => writeNatural n.toNat) s.database),
    text "username" s.username,
    text "password" s.password,
    writeMember "tls" (writeBool s.tls),
    text "connection_name" s.connectionName ]

def write (s : RedisSettings) : String := String.ofList (writeObject s.members)

end LeaseLock.RedisSettings
