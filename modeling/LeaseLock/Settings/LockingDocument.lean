import LeaseLock.Json.Record
import LeaseLock.Json.Text
import LeaseLock.Settings.Locking

/-!
# Settings of a Lock as a Document

The settings as an object. Spans are written in whole milliseconds, as far as 64 bits go, and
a refresh interval only if one is given; what is missing has its standard value.
-/

namespace LeaseLock.LockSettings

open Json

/-- A span in milliseconds, as a number of 64 bits. -/
def writtenMillis (d : Span) : Nat := min d.millis (Width.bits64 - 1)

def readMillis : Reader Span := fun cs => do
  let (n, rest) ← readNatural Width.bits64 "u64" cs
  .ok (.ofMillis n, rest)

def record : Record LockSettings where
  expected := "struct LockConfig"
  fields :=
    [ .of "ttl" readMillis fun d s => { s with ttl := d },
      .of "acquire_timeout" readMillis fun d s => { s with acquireTimeout := d },
      .of "retry_interval" readMillis fun d s => { s with retryInterval := d },
      .of "max_retries" (readNatural Width.bits32 "u32") fun n s =>
        { s with maxRetries := n.toUInt32 },
      .of "refresh_interval" (readOptional readMillis) fun d s => { s with refreshInterval := d },
      .of "refresh_timeout" readMillis fun d s => { s with refreshTimeout := d } ]
  required := []

def read (text : String) : Except Fault LockSettings := record.read standard text

/-- The members of the written form. -/
def members (s : LockSettings) : List (List Char) :=
  let millis (name : String) (d : Span) := writeMember name (writeNatural (writtenMillis d))
  [ millis "ttl" s.ttl,
    millis "acquire_timeout" s.acquireTimeout,
    millis "retry_interval" s.retryInterval,
    writeMember "max_retries" (writeNatural s.maxRetries.toNat) ] ++
  (s.refreshInterval.map (millis "refresh_interval")).toList ++
  [ millis "refresh_timeout" s.refreshTimeout ]

def write (s : LockSettings) : String := String.ofList (writeObject s.members)

end LeaseLock.LockSettings
