import LeaseLock.Redis.Link
import LeaseLock.Store.Memory

/-!
# Two Stores Side by Side

The store in memory and a server reached by a link, both given the same requests, with whole
milliseconds that pass in between. `holding` is what each of them says of a key: its owner and
the nanoseconds left to it. A key on a server may also be held for ever.
-/

namespace LeaseLock

/-- What both stores undergo. -/
inductive Beat
  | request (r : Request)
  | pass (millis : Nat)

namespace ClockedMemory

/-- Goes through a beat; `none` if there is no answer. -/
def beat (c : ClockedMemory) : Beat → Option Bool × ClockedMemory
  | .request r =>
    let (answer, memory) := c.memory.serve c.now r
    (answer, { c with memory })
  | .pass millis => (none, { c with now := c.now + millis * 1000000 })

def play (c : ClockedMemory) (beats : List Beat) : ClockedMemory :=
  beats.foldl (fun c b => (c.beat b).2) c

def holding (c : ClockedMemory) (key : String) : Option (Token × Nat) :=
  (c.memory.live? c.now key).map fun e => (e.token, e.expires - c.now)

end ClockedMemory

namespace Redis

def Keyspace.holding (ks : Keyspace) (key : String) : Option (Token × Option Nat) :=
  (ks.live? key).map fun row => (row.value, row.expires.map fun t => (t - ks.now) * 1000000)

namespace Link

/-- Goes through a beat; `none` if there is no response. -/
def beat (l : Link) : Beat → Option Response × Link
  | .request r => l.put r
  | .pass millis =>
    (none, { l with server := { l.server with keyspace := l.server.keyspace.advance millis } })

def play (l : Link) (beats : List Beat) : Link := beats.foldl (fun l b => (l.beat b).2) l

end Link
end Redis

namespace Beat

/-- The times that beats ask for are whole milliseconds, at least one, and end before the clocks
do: that of the server, which shows `millis`, and that of the store in memory, which shows
`nanos`. -/
def Suit (millis nanos : Nat) : List Beat → Prop
  | [] => True
  | .request r :: beats =>
    (∀ d, r.ttl? = some d → d.nanos % 1000000 = 0 ∧ 0 < d.nanos ∧
      millis + d.millis < Redis.Keyspace.limit ∧ nanos + d.nanos < Instant.limit) ∧
    Suit millis nanos beats
  | .pass d :: beats => Suit (millis + d) (nanos + d * 1000000) beats

end Beat
end LeaseLock
