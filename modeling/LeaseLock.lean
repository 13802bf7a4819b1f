import LeaseLock.Scenario.Run
import LeaseLock.Scenario.Remote
import LeaseLock.Settings.LockingDocument
import LeaseLock.Settings.RedisDocument
import LeaseLock.Settings.RedisCheck
import LeaseLock.Proofs.Store.Expiry
import LeaseLock.Proofs.Store.Cells
import LeaseLock.Proofs.Redis.Agreement
import LeaseLock.Proofs.Redis.Mail
import LeaseLock.Proofs.Shared.Traffic
import LeaseLock.Proofs.World.Exclusion
import LeaseLock.Proofs.World.Loss
import LeaseLock.Proofs.World.Collapse
import LeaseLock.Proofs.World.Renewing
import LeaseLock.Proofs.World.Fading
import LeaseLock.Proofs.World.KeepAlive
import LeaseLock.Proofs.World.Orphans
import LeaseLock.Proofs.World.Leaving
import LeaseLock.Proofs.World.Signals
import LeaseLock.Proofs.World.Accounting
import LeaseLock.Proofs.World.Cancelling
import LeaseLock.Proofs.World.Rounds
import LeaseLock.Proofs.Settings.Usable
import LeaseLock.Proofs.Settings.Connecting
import LeaseLock.Proofs.Settings.Setters
import LeaseLock.Proofs.Settings.Restoring
import LeaseLock.Store.Guarded
import LeaseLock.Proofs.Store.Overflow
import LeaseLock.Proofs.World.Fitting
import LeaseLock.Proofs.World.Punctual
import LeaseLock.Proofs.World.Takeover
import LeaseLock.Proofs.World.Tempo
import LeaseLock.Proofs.Retry.Limits
import LeaseLock.Proofs.Retry.Streaks
