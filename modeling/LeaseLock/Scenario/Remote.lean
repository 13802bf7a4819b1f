import LeaseLock.Redis.Link
import LeaseLock.Scenario.Basic

/-!
# Scenarios over a Server

A scenario in which one caller at a time locks keys at a Redis server. The clocks are two: the
server's moves only when a step says so, and the caller's jumps to the next instant at which
its call has something to do. `Remote.play` reports on each step what the server received, what
its scripts ran, and what it keeps.
-/

namespace LeaseLock.Remote

open Redis

/-- A client over a connection, and how long it waits for a reply. -/
structure Peer where
  client : Client
  patience : Span

/-- A client that shares its flights with no other. -/
def Peer.alone (settings : LockSettings) (patience : Span) : Peer :=
  ⟨⟨settings, "main"⟩, patience⟩

structure State where
  link : Link
  /-- The caller's clock. -/
  now : Nat
  minted : Nat
  signals : Nat
  fired : List Signal
  /-- Whether there is a connection that is neither a store's nor a client's. -/
  hasRaw : Bool
  /-- How long the store waits for a reply. -/
  store : Option Span
  peer : Option Peer
  leases : Table Lease

inductive Step
  | connect (s : RedisSettings)
  | connectClient (s : RedisSettings) (settings : LockSettings)
  | connectRaw (s : RedisSettings)
  | ping
  /-- Makes a store and a client over the connection. -/
  | overRaw (patience : Option Span)
  /-- Puts a request to the store. -/
  | request (r : Request)
  /-- The lease is kept under the name `as`. -/
  | obtain (wish : Scenario.Wish) (as : String)
  | refresh (lease : String)
  | unlock (lease : String)
  | advance (millis : Nat)
  | flushScripts
  | put (key value : String)
  | plan (family : Family) (plans : List Planned)

/-- What a step lacks. -/
inductive Missing
  | store
  | client
  | lease
  | raw

/-- What a step comes to. -/
inductive Result
  | ok
  | granted (yes : Bool)
  | patience (d : Span)
  | ttl (d : Span)
  | lease (grant : Grant)
  | failed (e : LockError)
  | redisFailed (e : RedisError)
  | broken (text : String)
  | stuck
  | missing (what : Missing)

/-- What is seen after a step. -/
structure Report where
  result : Result
  wire : List (List String)
  calls : List Command
  data : List (String × Token × Option Nat)

namespace State

def start (reachable : Option Endpoint) : State :=
  { link := ⟨.start, reachable⟩, now := 0, minted := 0, signals := 0, fired := [],
    hasRaw := false, store := none, peer := none, leases := .empty }

def mapServer (s : State) (f : Server → Server) : State :=
  { s with link := { s.link with server := f s.link.server } }

/-- Puts a request to the server: the response, and when it is there. -/
def put (s : State) (patience : Span) (r : Request) : (Nat × Response) × State :=
  let (response, link) := s.link.put r
  (response.elim (Instant.timer s.now patience, .failed .timeout) (s.now, ·), { s with link })

/-- How many turns a call may take. -/
def turnsPerCall : Nat := 1000000

/-- Lets a call take its turns, with a request under way or without one, until it ends. -/
def drive (turn : σ → Glimpse → Turn σ α) (wake? : σ → Option Nat) (patience : Span) :
    Nat → σ → Option (Nat × Response) → State → Option (Outcome α) × State
  | 0, _, _, s => (none, s)
  | fuel + 1, call, pending, s =>
    let response := pending.bind fun (due, r) => if due ≤ s.now then some r else none
    let drive := drive turn wake? patience fuel
    match turn call ⟨s.now, false, response, .minted (s.minted + 1)⟩ with
    | .rest =>
      match ((wake? call).toList ++ (pending.map (·.1)).toList).min? with
      | some due => drive call pending { s with now := max s.now due }
      | none => (none, s)
    | .go call => drive call none s
    | .fire call signal => drive call pending { s with fired := signal :: s.fired }
    | .ask call r =>
      let minted := match r with
        | .acquire .. => s.minted + 1
        | _ => s.minted
      let (pending, s) := { s with minted }.put patience r
      drive call (some pending) s
    | .fin outcome => (some outcome, s)

def runErrand (s : State) (patience : Span) (e : Errand) :
    Option (Outcome (Option Grant)) × State :=
  drive Errand.turn (fun _ => none) patience turnsPerCall e none s

def runAcquisition (s : State) (patience : Span) (a : Acquisition) :
    Option (Outcome Grant) × State :=
  drive Acquisition.turn (·.wake?) patience turnsPerCall a none s

/-- Keeps what was granted as a lease. -/
def keep (s : State) (as : String) (grant : Grant) : State :=
  { s with
    leases := s.leases.put as { grant with stop := s.signals }
    signals := s.signals + 1 }

/-- What an acquisition comes to; one that is shared fails where another breaks down. -/
def conclude (shared : Bool) (as : String) : Option (Outcome Grant) × State → Result × State
  | (none, s) => (.stuck, s)
  | (some (.ok grant), s) => (.lease grant, s.keep as grant)
  | (some (.failed e), s) => (.failed e, s)
  | (some (.broken text), s) => (if shared then .failed (.ofBreakdown text) else .broken text, s)

/-- Grants a client's wish. -/
def grant (s : State) (p : Peer) (as : String) : Scenario.Wish → Result × State
  | .attempt key ttl =>
    match s.runErrand p.patience (.attempt key ttl) with
    | (some (.ok (some grant)), s) => (.lease grant, s.keep as grant)
    | (some (.ok none), s) => (.ok, s)
    | (some (.failed e), s) => (.failed e, s)
    | (some (.broken text), s) => (.broken text, s)
    | (none, s) => (.stuck, s)
  | .acquire key =>
    match p.client.acquire key with
    | .acquisition a => conclude false as (s.runAcquisition p.patience a)
    | .refused e => (.failed e, s)
    | .errand _ | .renewal _ | .caller _ => (.stuck, s)
  | .lock _ _ _ _ (.error e) _ => (.failed (.invalidConfig e), s)
  | .lock shared key ttl timeout (.ok strategy) _ =>
    conclude shared as
      (s.runAcquisition p.patience (.start key ttl timeout strategy none))

/-- Runs an errand for a lease. -/
def withLease (s : State) (name : String) (errand : Lease → Errand) : Result × State :=
  match s.leases.find? name, s.peer with
  | some lease, some p =>
    match s.runErrand p.patience (errand lease) with
    | (some (.ok _), s) => (.ok, s)
    | (some (.failed e), s) => (.failed e, s)
    | (some (.broken text), s) => (.broken text, s)
    | (none, s) => (.stuck, s)
  | _, _ => (.missing .lease, s)

/-- Makes a connection, and something over it. -/
def connect (s : State) (settings : RedisSettings) (fail : RedisError → Result)
    (made : State → Result × State) : Result × State :=
  match s.link.connect settings with
  | (.ok _, link) => made { s with link }
  | (.error e, link) => (fail e, { s with link })

end State

/-- Takes a step. -/
def step (s : State) : Step → Result × State
  | .connect settings =>
    s.connect settings (fun e => .failed (.ofRedis e)) fun s =>
      (.patience settings.commandTimeout, { s with store := some settings.commandTimeout })
  | .connectClient settings lock =>
    s.connect settings (fun e => .failed (.ofRedis e)) fun s =>
      (.ttl lock.ttl, { s with peer := some (Peer.alone lock settings.commandTimeout) })
  | .connectRaw settings =>
    s.connect settings .redisFailed fun s => (.ok, { s with hasRaw := true })
  | .ping =>
    if s.hasRaw then
      match s.link.ping with
      | (.ok _, link) => (.ok, { s with link })
      | (.error e, link) => (.redisFailed e, { s with link })
    else (.missing .raw, s)
  | .overRaw patience =>
    if s.hasRaw then
      let patience := patience.getD RedisSettings.standardTimeout
      (.patience patience,
        { s with store := some patience, peer := some (Peer.alone .standard patience) })
    else (.missing .raw, s)
  | .request r =>
    match s.store with
    | none => (.missing .store, s)
    | some patience =>
      match s.put patience r with
      | ((_, .granted yes), s) => (.granted yes, s)
      | ((_, .failed e), s) => (.failed e, s)
      | ((_, .broken text), s) => (.broken text, s)
  | .obtain wish as =>
    match s.peer with
    | some p => s.grant p as wish
    | none => (.missing .client, s)
  | .refresh lease => s.withLease lease .refresh
  | .unlock lease => s.withLease lease .unlock
  | .advance millis =>
    (.ok, s.mapServer fun v => { v with keyspace := v.keyspace.advance millis })
  | .flushScripts => (.ok, s.mapServer fun v => { v with loaded := [] })
  | .put key value =>
    (.ok, s.mapServer fun v =>
      { v with keyspace := v.keyspace.put key ⟨.named value, none⟩ })
  | .plan family plans => (.ok, s.mapServer fun v => v.plan family plans)

/-- Plays the steps in order. -/
def play : State → List Step → List Report
  | _, [] => []
  | s, next :: steps =>
    let (result, s) := step s next
    let server := s.link.server
    { result, wire := server.wire, calls := server.calls, data := server.keyspace.data } ::
      play (s.mapServer fun v => { v with wire := [], calls := [] }) steps

end LeaseLock.Remote
