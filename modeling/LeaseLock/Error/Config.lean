import LeaseLock.Time.Span

/-!
# Refused Settings

Why a retry strategy or a lock configuration is refused before it is used.
-/

namespace LeaseLock

inductive ConfigError
  /-- An interval between attempts or renewals is zero. -/
  | interval (given : Span)
  /-- The longest interval of a backoff is shorter than its first one. -/
  | maxInterval (longest first : Span)
  /-- The lifetime of a lease is zero. -/
  | ttl
  /-- The deadline of a call is zero. -/
  | timeout (given : Span)
  /-- The renewal interval is zero, or no shorter than the lifetime of the lease. -/
  | refreshInterval (interval ttl : Span)
  deriving DecidableEq

namespace ConfigError

def message : ConfigError → String
  | interval d => s!"interval must be positive, got {d.text}"
  | maxInterval m i => s!"max interval {m.text} is shorter than initial interval {i.text}"
  | ttl => "lease TTL must be positive"
  | timeout d => s!"timeout must be positive, got {d.text}"
  | refreshInterval i t =>
    s!"refresh interval {i.text} must be positive and shorter than TTL {t.text}"

end ConfigError
end LeaseLock
