import LeaseLock.Retry.Fixed

/-!
# Settings of a Lock

How long a lease lasts, how an acquisition is bounded and repeated, and how a lease is
renewed. `validate` accepts the settings under which a lease can be renewed before it ends;
`strategy` is the retry strategy they describe.
-/

namespace LeaseLock

structure LockSettings where
  ttl : Span
  acquireTimeout : Span
  retryInterval : Span
  /-- How many attempts follow the first one; zero for no limit. -/
  maxRetries : UInt32
  /-- A third of the lifetime if none is given. -/
  refreshInterval : Option Span
  refreshTimeout : Span
  deriving DecidableEq

namespace LockSettings

def standard : LockSettings where
  ttl := .ofSecs 30
  acquireTimeout := .ofSecs 1
  retryInterval := .ofMillis 100
  maxRetries := 10
  refreshInterval := none
  refreshTimeout := .ofSecs 1

instance : Inhabited LockSettings := ⟨standard⟩

/-- The interval between renewals. -/
def effectiveRefreshInterval (s : LockSettings) : Span := s.refreshInterval.getD s.ttl.third

def strategy (s : LockSettings) : Except ConfigError Retry.Fixed :=
  Retry.Fixed.make s.retryInterval s.maxRetries

/-- The first thing wrong with the settings, if there is one. -/
def validate (s : LockSettings) : Except ConfigError Unit :=
  if s.ttl.isZero then .error .ttl
  else if s.acquireTimeout.isZero then .error (.timeout s.acquireTimeout)
  else if s.refreshTimeout.isZero then .error (.timeout s.refreshTimeout)
  else if s.effectiveRefreshInterval.isZero || s.ttl ≤ s.effectiveRefreshInterval then
    .error (.refreshInterval s.effectiveRefreshInterval s.ttl)
  else s.strategy.map fun _ => ()

/-- One setting, given by hand. -/
inductive Setter
  | ttl (d : Span)
  | acquireTimeout (d : Span)
  | retryInterval (d : Span)
  | maxRetries (n : UInt32)
  | refreshInterval (d : Span)
  | refreshTimeout (d : Span)

def set (s : LockSettings) : Setter → LockSettings
  | .ttl d => { s with ttl := d }
  | .acquireTimeout d => { s with acquireTimeout := d }
  | .retryInterval d => { s with retryInterval := d }
  | .maxRetries n => { s with maxRetries := n }
  | .refreshInterval d => { s with refreshInterval := some d }
  | .refreshTimeout d => { s with refreshTimeout := d }

/-- Settings with some given by hand, the later ones over the earlier. -/
def setAll (s : LockSettings) (setters : List Setter) : LockSettings := setters.foldl set s

end LockSettings
end LeaseLock
