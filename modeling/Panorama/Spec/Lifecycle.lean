import Panorama.Spec.Node

/-!
# The server's lifecycle

`NewHealthGServer` sets the process-wide `GC` parameters when its configuration enables
`GC` (`gcParams`): `gc_frequency`, `gc_threshold` and `gc_relative` are package variables of
service.go, shared by every server of the process. `Start` sets `self.s` and serves RPCs
(`Server.start`); only then does the rest of it (`Server.finish`) reload
`old_registrations` from the database, start the inference engine, and start a `GC`
goroutine when `gc_frequency` is positive. In between, the server's other steps interleave,
`Stop` included. `Stop` stops serving and stops the inference engine.

A `GC` goroutine tests `self.s != nil` at the head of its loop only; past the test it
sleeps for `gc_frequency`, calls `storage.GC`, and asks the inference engine to re-infer
each subject with retired observations (`GcLoop.step`). The node model's `GC` task
(`Task.gcLoop`) is the goroutine of a server that is never stopped.

`Server.Step` interleaves the two parts of `Start`, `Stop` and the steps of the `GC`
goroutines, for a process whose `gc_frequency` is fixed.
-/

namespace Panorama

/-- A `GC` goroutine (service.go:357-371), at its program points. -/
inductive GcLoop where
  /-- At the loop condition `self.s != nil`. -/
  | head
  /-- Past the condition: `time.Sleep(gc_frequency)`, then `storage.GC`. -/
  | asleep
  /-- Over the retired subjects it has still to re-infer. -/
  | infer (subjects : List String)
  deriving DecidableEq, Repr

/-- One step of a `GC` goroutine, when `self.s != nil` is `serving` and `storage.GC` retires
`retired`: its calls, and where it goes next (`none` once it has returned). -/
def GcLoop.step (serving : Bool) (retired : List (String × Nat)) :
    GcLoop → List Event × Option GcLoop
  | .head => ([], if serving then some .asleep else none)
  | .asleep => ([.gc retired], some (if retired = [] then .head else .infer (retired.map Prod.fst)))
  | .infer [] => ([], some .head)
  | .infer (s :: rest) => ([.inferSubject s], some (.infer rest))

/-- A `HealthGServer` as `Start`, `Stop` and its `GC` goroutines see it. -/
structure Server where
  /-- `Addr`, where `Start` listens. -/
  addr : String
  /-- The handle registry; `Start` reloads its `old_registrations`. -/
  reg : Registry
  /-- `self.s != nil`. -/
  serving : Bool
  /-- The inference engine runs, between `inference.Start()` and `inference.Stop()`. -/
  inferring : Bool
  /-- The running `GC` goroutines. -/
  loops : List GcLoop
  /-- The calls of the `GC` goroutines, in order. -/
  log : List Event
  /-- The `Start` calls past `go self.s.Serve(self.l)` whose rest has still to run. -/
  starting : Nat

/-- A server as `NewHealthGServer` builds it: not serving, no registration, `next_handle =
HANDLE_START`, no `old_registrations` and no database yet. -/
def Server.new (addr : String) : Server := ⟨addr, .new, false, false, [], [], 0⟩

/-- What `Start` meets outside the code: whether `net.Listen` succeeds, whether the database
opens, and what `ReadRegistrations` returns then (`none` on an error). -/
structure StartEnv where
  listens : Bool
  opens : Bool
  read : Option RegTable

/-- `Start` up to `go self.s.Serve(self.l)` (service.go:90-109): from here the server serves
RPCs, and the rest of this `Start` has still to run. -/
def Server.start (e : StartEnv) (s : Server) : Except String Server :=
  if s.serving then .error "HealthGServer is already started\n"
  else if !e.listens then .error ("Fail to register RPC server at " ++ s.addr ++ "\n")
  else .ok { s with serving := true, starting := s.starting + 1 }

/-- The rest of `Start` (service.go:110-128), in a process whose `gc_frequency` is
`gcFrequency`: when the database opens, `old_registrations` is what it reads; the inference
engine starts; a `GC` goroutine starts when `gc_frequency` is positive. It does not look at
`self.s` again. -/
def Server.finish (gcFrequency : Int) (e : StartEnv) (s : Server) : Server :=
  { s with
    reg := if e.opens then s.reg.load e.read else s.reg,
    inferring := true,
    loops := if gcFrequency > 0 then s.loops ++ [.head] else s.loops,
    starting := s.starting - 1 }

/-- `Stop(graceful)` (service.go:131-147). Draining or aborting the RPCs in flight, it stops
serving and stops the inference engine. -/
def Server.stop (s : Server) : Except String Server :=
  if s.serving then .ok { s with serving := false, inferring := false }
  else .error "HealthGServer has not started\n"

/-- The server after its `GC` goroutine `l` stepped, `storage.GC` retiring `retired`. -/
def Server.collect (s : Server) (l : GcLoop) (retired : List (String × Nat)) : Server :=
  { s with loops := s.loops.erase l ++ (l.step s.serving retired).2.toList,
           log := s.log ++ (l.step s.serving retired).1 }

/-- One step of a server's lifecycle, in a process whose `gc_frequency` is `gcFrequency`:
`Start` up to serving, the rest of a `Start`, `Stop`, or a step of one of its `GC`
goroutines. -/
inductive Server.Step (gcFrequency : Int) : Server → Server → Prop
  | start {s s' : Server} (e : StartEnv) (h : s.start e = .ok s') :
      Server.Step gcFrequency s s'
  | finish {s : Server} (e : StartEnv) (h : 0 < s.starting) :
      Server.Step gcFrequency s (s.finish gcFrequency e)
  | stop {s s' : Server} (h : s.stop = .ok s') : Server.Step gcFrequency s s'
  | collect {s : Server} {l : GcLoop} (retired : List (String × Nat)) (hl : l ∈ s.loops) :
      Server.Step gcFrequency s (s.collect l retired)

/-- The states of a server at `addr` from `NewHealthGServer` on. -/
def Server.Reachable (gcFrequency : Int) (addr : String) (s : Server) : Prop :=
  Relation.ReflTransGen (Server.Step gcFrequency) (Server.new addr) s

/-- Whether an event is a call of `storage.GC`. -/
def Event.isGc : Event → Bool
  | .gc _ => true
  | _ => false

end Panorama
