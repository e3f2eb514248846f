import Panorama.Spec.Registry

/-!
# The Java client

`DHClient` (client/java/.../DHClient.java) is the library through which a local module
reaches the health server of its machine. `init` builds a gRPC channel and registers the
module's `(module, id)` pair; once the client is `ready`, `report` submits reports under the
handle `Register` returned, with `id` as their observer, and `ping` pings the server.
`shutdown` shuts the channel down; `setId` changes `id` without registering again.

A `Session` is one client together with the server's handle registry. Each step is a call of
the client, or a call that some other caller makes under `regMu`. The client's calls may reach
the server in `Start`'s window, before the registry has loaded `old_registrations`.
-/

namespace Panorama

/-- The fields of `DHClient` that `init`, `shutdown`, `setId`, `report` and `ping` read and
write. Channels are numbered in the order `init` builds them. -/
structure Client where
  module : String
  id : String
  serverAddr : String
  serverPort : Int
  handle : UInt64
  ready : Bool
  /-- `channel`: the last channel `init` built, `none` while it is `null`. -/
  channel : Option Nat
  /-- How many channels `init` has built. -/
  built : Nat
  /-- The channels `shutdown` has shut down, in order. -/
  shut : List Nat
  deriving DecidableEq, Repr

namespace Client

/-- The instance `getInstance()` creates: every field at its Java default. A `null` string is
empty here; the methods modelled read `module`, `id` and the address only after `init` has
set them. -/
def new : Client := ⟨"", "", "", 0, 0, false, none, 0, []⟩

/-- `init(addr, port, module, id)` (DHClient.java:129-163), when its `register` call answers
`reply` (`none`: the call threw `StatusRuntimeException`). Returns what `init` returns, and the
client after it. A ready client returns `true` at once; otherwise `init` sets the fields,
builds a channel, and becomes ready only on a reply. -/
def init (c : Client) (addr : String) (port : Int) (module id : String)
    (reply : Option UInt64) : Bool × Client :=
  if c.ready then (true, c)
  else
    let c' := { c with
      serverAddr := addr, serverPort := port, module := module, id := id
      channel := some c.built, built := c.built + 1 }
    match reply with
    | none => (false, c')
    | some handle => (true, { c' with handle := handle, ready := true })

/-- `shutdown()` (DHClient.java:190-198). On a ready client it shuts the tracker, the
processor and the channel down. When `awaitTermination` is `interrupted`, the channel has
already been shut down, but `InterruptedException` skips `ready = false`. -/
def shutdown (c : Client) (interrupted : Bool) : Client :=
  if c.ready then
    let c' := { c with shut := c.shut ++ c.channel.toList }
    if interrupted then c' else { c' with ready := false }
  else c

/-- `setId(ID)` (DHClient.java:180-183). -/
def setId (c : Client) (ID : String) : Client := { c with id := ID }

/-- The `SubmitReportRequest` that `report(time, subject, metrics)` (DHClient.java:349-367)
sends; `observation` is what `DHBuilder.NewObservation(time, metrics)` builds (`DHBuilder` is
not under src/). Returns `none` when the client is not ready: `report` then returns `null`
without a call. `selfReport` (subject `id`) and `reportAsync` send the same request. -/
def report (c : Client) (subject : String) (observation : Observation) :
    Option SubmitReportRequest :=
  if c.ready then some ⟨c.handle, some ⟨c.id, subject, some observation⟩⟩ else none

/-- The `PingRequest` that `ping()` (DHClient.java:405-424) sends at `time`, the value of
`Timestamps.fromMillis(System.currentTimeMillis())`. Returns `none` when the client is not
ready: `ping` then returns `-1` without a call. The source's address `"localhost"` is a field
of `pb.Peer` that the model omits. -/
def ping (c : Client) (time : Timestamp) : Option PingRequest :=
  if c.ready then some ⟨some ⟨c.id⟩, some time⟩ else none

/-- A call of the client: `init`, whatever its `register` call answers; `shutdown`, interrupted
or not; or `setId`. -/
inductive Step : Client → Client → Prop
  | init {c : Client} (addr : String) (port : Int) (module id : String) (reply : Option UInt64) :
      Step c (c.init addr port module id reply).2
  | shutdown {c : Client} (interrupted : Bool) : Step c (c.shutdown interrupted)
  | setId {c : Client} (ID : String) : Step c (c.setId ID)

/-- The client states that calls from `getInstance()` on reach. -/
def Reachable (c : Client) : Prop := Relation.ReflTransGen Step new c

/-! ## Equations -/

/-- `init` in closed form: on a client that is not ready it sets the fields and builds channel
`built`, and the reply, if any, becomes the handle and makes the client ready. -/
theorem init_snd (c : Client) (addr : String) (port : Int) (module id : String)
    (reply : Option UInt64) :
    (c.init addr port module id reply).2 = if c.ready then c else { c with
      serverAddr := addr, serverPort := port, module := module, id := id
      channel := some c.built, built := c.built + 1
      handle := reply.getD c.handle, ready := reply.isSome } := by
  unfold init
  split
  · rfl
  · cases reply <;> simp_all

theorem shutdown_eq (c : Client) (interrupted : Bool) :
    c.shutdown interrupted = if c.ready then { c with
      shut := c.shut ++ c.channel.toList, ready := interrupted } else c := by
  unfold shutdown
  cases c.ready <;> cases interrupted <;> rfl

theorem report_eq_some {c : Client} {subject : String} {observation : Observation}
    {req : SubmitReportRequest} : c.report subject observation = some req ↔
      c.ready = true ∧ req = ⟨c.handle, some ⟨c.id, subject, some observation⟩⟩ := by
  unfold report
  split <;> simp_all [@eq_comm _ req]

theorem ping_eq_some {c : Client} {time : Timestamp} {req : PingRequest} :
    c.ping time = some req ↔ c.ready = true ∧ req = ⟨some ⟨c.id⟩, some time⟩ := by
  unfold ping
  split <;> simp_all [@eq_comm _ req]

@[simp] theorem init_none_ready (c : Client) (addr : String) (port : Int) (module id : String) :
    (c.init addr port module id none).2.ready = c.ready := by
  rw [init_snd]
  split <;> simp_all

@[simp] theorem init_none_handle (c : Client) (addr : String) (port : Int) (module id : String) :
    (c.init addr port module id none).2.handle = c.handle := by
  rw [init_snd]
  split <;> rfl

@[simp] theorem shutdown_ready (c : Client) (interrupted : Bool) :
    (c.shutdown interrupted).ready = (c.ready && interrupted) := by
  rw [shutdown_eq]
  split <;> simp_all

@[simp] theorem shutdown_handle (c : Client) (interrupted : Bool) :
    (c.shutdown interrupted).handle = c.handle := by
  rw [shutdown_eq]
  split <;> rfl

@[simp] theorem setId_eq (c : Client) (ID : String) : c.setId ID = { c with id := ID } := rfl

end Client

/-- One client and the handle registry of the server it talks to. -/
structure Session where
  reg : Registry
  client : Client

/-- One step of a session. -/
inductive Session.Step : Session → Session → Prop
  /-- A call under `regMu` from any caller: another client's `Register`, or the handle check of
  any `SubmitReport`, including this client's own reports. -/
  | server {s : Session} {reg : Registry} (h : Registry.Step s.reg reg) :
      Session.Step s ⟨reg, s.client⟩
  /-- `init` on a client that is not ready, whose `register` call the server handled, visiting
  `registrations` in `order`. The reply reaches the client when `delivered`; otherwise it is
  lost and the call throws. -/
  | initServed {s : Session} {order : List RegEntry} (addr : String) (port : Int)
      (module id : String) (now : Nat) (horder : order.Perm s.reg.registrations.entries)
      (delivered : Bool) (hready : s.client.ready = false) :
      Session.Step s ⟨(s.reg.register order ⟨module, id⟩ now).2,
        (s.client.init addr port module id
          (if delivered then some (s.reg.register order ⟨module, id⟩ now).1 else none)).2⟩
  /-- `init` on a ready client, or an `init` whose `register` call never reached the server. -/
  | initUnserved {s : Session} (addr : String) (port : Int) (module id : String) :
      Session.Step s ⟨s.reg, (s.client.init addr port module id none).2⟩
  | shutdown {s : Session} (interrupted : Bool) :
      Session.Step s ⟨s.reg, s.client.shutdown interrupted⟩
  | setId {s : Session} (ID : String) : Session.Step s ⟨s.reg, s.client.setId ID⟩

/-- The sessions reachable from a server that `Start` began on `persisted` and a client fresh
from `getInstance()`: the client's calls may come in `Start`'s window, before the registry's
load, and after it. -/
def Session.Reachable (persisted : Option RegTable) (s : Session) : Prop :=
  StartRun Session.Step ⟨.new, .new⟩ (fun s => ⟨s.reg.load persisted, s.client⟩) s

end Panorama
