import Panorama.Spec.Registry
import Panorama.Spec.Components

/-!
# The handlers and goroutines of `HealthGServer`

A node of the service: the registry, the store, the hold buffer, the exchange and the clock.
Every RPC handler and every goroutine of service.go is a `Task`, whose constructors are its
program points: the places where it next calls into a component. `Task.step` runs a task up
to its next such call, makes the call, and returns what it emits (`Out`): the events of the
call, where the task goes next, the goroutines it starts (`go`), and the handler's answer
when it returns one. A field read through `nil` is a fault (`Fault.nilDeref`).

The rest of `Start` runs as a task too (`Task.start`), beside the handlers: it loads the
registry's `old_registrations` and starts the `GC` loop when `gc_frequency` is positive. The
inference engine and the pings of `Start` are not modelled. A process of the service builds
one server (`main`), so `gc_frequency` is what `NewHealthGServer` set from this node's
`GCConfig`.

`Env` is what a step reads from outside the code: the order in which `range` visits
`registrations`, and what `storage.GC` returns. `Task.solo` runs one task alone, step after
step, to the answer it returns. `Ping`, which touches no state of the node, is a function of
its request and the clock (`ping`).
-/

namespace Panorama

/-- Which of the service's paths called `storage.AddReport`. -/
inductive Caller where
  /-- `SubmitReport`. -/
  | submit
  /-- `LearnReport` of kind `NORMAL`. -/
  | learn
  /-- `AnalyzeReport`'s drain, re-adding hold-buffer entry `id`. -/
  | drain (id : Nat)
  deriving DecidableEq, Repr

/-- The events of a run: the service's calls into its collaborators. -/
inductive Event where
  /-- `storage.AddReport(r, ...)` answered `rc`. -/
  | add (caller : Caller) (r : Report) (rc : Rc)
  /-- `hold_buffer.Set(r.Subject, r)` held `it`. -/
  | hold (it : HoldItem)
  /-- `hold_buffer.Empty(subject)` erased `erased`. -/
  | empty (subject : String) (erased : List HoldItem)
  /-- `inference.InferReportAsync(r)`. -/
  | inferReport (r : Report)
  /-- `inference.InferSubjectAsync(subject)`. -/
  | inferSubject (subject : String)
  /-- `storage.GC` returned `retired` (retired observations per subject). -/
  | gc (retired : List (String × Nat))
  /-- The exchange sent `msg` to `peer`. -/
  | send (peer : String) (msg : LearnReportRequest)
  deriving DecidableEq, Repr

/-- The state of a node. `holds` counts the `Set`s of the run, so it is the identity of the
next hold-buffer entry. -/
structure Node where
  config : Config
  reg : Registry
  store : Store
  hold : CacheList
  exchange : Exchange
  now : Nat
  holds : Nat

/-- `NewHealthGServer` (service.go:58-88): the watch list is `config.Subjects`, the hold
buffer is `BufConfig` when its time is positive and the defaults otherwise, and the registry
has no `old_registrations` and no database until `Start` opens it. -/
def Node.new (config : Config) : Node where
  config := config
  reg := .new
  store := ⟨config.subjects, config.shapeFirst⟩
  hold := if config.holdTime > 0 then ⟨config.holdTime, config.holdListLen, fun _ => []⟩
    else ⟨holdTimeDefault, holdListLenDefault, fun _ => []⟩
  exchange := ⟨[]⟩
  now := 0
  holds := 0

/-- The node once the whole of `Start` has run with no call in its window, on `persisted`. -/
def Node.start (config : Config) (persisted : Option RegTable) : Node :=
  { Node.new config with reg := .start persisted }

/-- What the environment decides at a step. -/
structure Env where
  /-- The order in which `range` visits `registrations`. -/
  order : List RegEntry
  /-- What `storage.GC` returns. -/
  retired : List (String × Nat)

/-- The handlers and goroutines of service.go, at their program points. -/
inductive Task where
  /-- `Register` (service.go:149). -/
  | register (req : RegisterRequest)
  /-- `SubmitReport`, at its handle check under `regMu` (service.go:180). -/
  | submitReport (req : SubmitReportRequest)
  /-- `SubmitReport` after the check, at `storage.AddReport` (service.go:220). -/
  | submitAdd (report : Option Report)
  /-- `LearnReport` (service.go:239). -/
  | learnReport (req : LearnReportRequest)
  /-- `LearnReport`, ignored report, at `hold_buffer.Set` (service.go:251). -/
  | learnHold (r : Report) (err : Option String)
  /-- `LearnReport`, accepted report, at `exchange.Interested` (service.go:257). -/
  | learnInterested (source : String) (r : Report) (err : Option String)
  /-- `Observe` (service.go:310). -/
  | observe (subject : String)
  /-- `StopObserving` (service.go:316). -/
  | stopObserving (subject : String)
  /-- `AnalyzeReport(r, check_hold)` (service.go:373). -/
  | analyzeReport (r : Report) (checkHold : Bool)
  /-- `AnalyzeReport`'s loop over the held entries it has still to re-add (service.go:378). -/
  | drain (r : Report) (items : List HoldItem)
  /-- `AnalyzeReport` at `inference.InferReportAsync` (service.go:392). -/
  | inferReport (r : Report)
  /-- The `GC` loop at its head (service.go:358). -/
  | gcLoop
  /-- The `GC` loop over the retired subjects still to re-infer (service.go:362). -/
  | gcInfer (subjects : List String)
  /-- `go exchange.Subscribe(subject)`. -/
  | subscribe (subject : String)
  /-- `go exchange.Unsubscribe(subject)`. -/
  | unsubscribe (subject : String)
  /-- `go exchange.Propagate(r)`. -/
  | propagate (r : Report)
  /-- `Start` past `go self.s.Serve(self.l)` (service.go:110), while RPCs are already served:
  it opens the database, whose `ReadRegistrations` returns `persisted`. -/
  | start (persisted : Option RegTable)
  deriving DecidableEq

/-- What one step of a task does. -/
structure Out where
  node : Node
  events : List Event
  /-- The task's next program point; `none` when it has returned. -/
  next : Option Task
  /-- The goroutines it started. -/
  spawned : List Task
  /-- The handler's answer, at the step that returns it. -/
  reply : Option Reply

/-- The peers a broadcast goes to: every configured peer but this node. -/
def Config.others (c : Config) : List String := c.peers.filter (· ≠ c.id)

/-- One step of a task: its next call into a component, and what it emits. -/
def Task.step (env : Env) (n : Node) : Task → Except Fault Out
  | .register req =>
    match Registry.scan req.module req.observer env.order 0 with
    | .found h => .ok ⟨n, [], none, [], some (.register h)⟩
    | .fresh mx =>
      .ok ⟨{ n with reg := (n.reg.allocate mx req n.now).2,
                    store := (n.store.addSubject req.observer).2 },
        [], none, [], some (.register (n.reg.allocate mx req n.now).1)⟩
  | .submitReport req => do
    let p ← n.reg.check req.handle req.report
    match p.1 with
    | .invalid => .ok ⟨{ n with reg := p.2 }, [], none, [],
        some (.submitReport ⟨none, some "Invalid submission handle"⟩)⟩
    | .live => .ok ⟨{ n with reg := p.2 }, [], some (.submitAdd req.report), [], none⟩
    | .restored reg => .ok ⟨{ n with reg := p.2, store := (n.store.addSubject reg.observer).2 },
        [], some (.submitAdd req.report), [], none⟩
  | .submitAdd report => do
    let r ← deref report
    let a := n.store.addReport r false
    match a.1 with
    | .ignored => .ok ⟨n, [.add .submit r a.1], none, [],
        some (.submitReport ⟨none, some "Should not ignore local report. Probably due to a bug"⟩)⟩
    | .failed => .ok ⟨n, [.add .submit r a.1], none, [],
        some (.submitReport ⟨some .failed, a.2⟩)⟩
    | .accepted => .ok ⟨n, [.add .submit r a.1], none, [.analyzeReport r true, .propagate r],
        some (.submitReport ⟨some .accepted, a.2⟩)⟩
  | .learnReport req =>
    match req.kind with
    | .normal => do
      let r ← deref req.report
      let src ← deref req.source
      let a := n.store.addReport r n.config.filterSubmission
      match a.1 with
      | .ignored => .ok ⟨n, [.add .learn r a.1], some (.learnHold r a.2), [], none⟩
      | .failed => .ok ⟨n, [.add .learn r a.1], none, [],
          some (.learnReport ⟨some .failed, a.2⟩)⟩
      | .accepted => .ok ⟨n, [.add .learn r a.1], some (.learnInterested src.id r a.2), [], none⟩
    | .subscription => do
      let r ← deref req.report
      let src ← deref req.source
      .ok ⟨{ n with exchange := n.exchange.interested src.id r.subject }, [], none, [],
        some (.learnReport ⟨some .accepted, none⟩)⟩
    | .unsubscription => do
      let r ← deref req.report
      let src ← deref req.source
      .ok ⟨{ n with exchange := n.exchange.uninterested src.id r.subject }, [], none, [],
        some (.learnReport ⟨some .accepted, none⟩)⟩
    | .other _ => .ok ⟨n, [], none, [], some (.learnReport ⟨some .failed, none⟩)⟩
  | .learnHold r err =>
    let it : HoldItem := ⟨n.holds, n.now, r⟩
    .ok ⟨{ n with hold := n.hold.set n.now r.subject it, holds := n.holds + 1 }, [.hold it], none,
      [], some (.learnReport ⟨some .ignored, err⟩)⟩
  | .learnInterested src r err =>
    .ok ⟨{ n with exchange := n.exchange.interested src r.subject }, [], none,
      [.analyzeReport r false], some (.learnReport ⟨some .accepted, err⟩)⟩
  | .observe s =>
    .ok ⟨{ n with store := (n.store.addSubject s).2 }, [], none, [.subscribe s],
      some (.observe (n.store.addSubject s).1)⟩
  | .stopObserving s =>
    .ok ⟨{ n with store := (n.store.removeSubject s).2 }, [], none, [.unsubscribe s],
      some (.observe (n.store.removeSubject s).1)⟩
  | .analyzeReport r checkHold =>
    if checkHold then
      if n.hold.get n.now r.subject = [] then .ok ⟨n, [], some (.inferReport r), [], none⟩
      else .ok ⟨n, [], some (.drain r (n.hold.get n.now r.subject)), [], none⟩
    else .ok ⟨n, [.inferReport r], none, [], none⟩
  | .drain r [] =>
    .ok ⟨{ n with hold := (n.hold.empty r.subject).2 }, [.empty r.subject (n.hold.empty r.subject).1],
      some (.inferReport r), [.subscribe r.subject], none⟩
  | .drain r (it :: rest) =>
    .ok ⟨n, [.add (.drain it.id) it.report (n.store.addReport it.report false).1],
      some (.drain r rest), [], none⟩
  | .inferReport r => .ok ⟨n, [.inferReport r], none, [], none⟩
  | .gcLoop =>
    .ok ⟨n, [.gc env.retired], some (if env.retired = [] then .gcLoop
      else .gcInfer (env.retired.map Prod.fst)), [], none⟩
  | .gcInfer [] => .ok ⟨n, [], some .gcLoop, [], none⟩
  | .gcInfer (s :: rest) => .ok ⟨n, [.inferSubject s], some (.gcInfer rest), [], none⟩
  | .subscribe s =>
    .ok ⟨n, n.config.others.map (fun p => .send p (notice n.config.id .subscription s)), none, [],
      none⟩
  | .unsubscribe s =>
    .ok ⟨n, n.config.others.map (fun p => .send p (notice n.config.id .unsubscription s)), none,
      [], none⟩
  | .propagate r =>
    .ok ⟨n, (n.exchange.interest.filter (·.2 = r.subject)).map
      (fun q => .send q.1 (propagation n.config.id r)), none, [], none⟩
  | .start persisted =>
    .ok ⟨{ n with reg := n.reg.load persisted }, [], none,
      if (gcParams [n.config.gc]).frequency > 0 then [.gcLoop] else [], none⟩

/-- The tasks a request starts: the RPC handlers. -/
def Task.isRequest : Task → Bool
  | .register _ | .submitReport _ | .learnReport _ | .observe _ | .stopObserving _ => true
  | _ => false

/-- A task run alone, with no other goroutine interleaved, for at most `fuel` steps: the
answer it returns, or the fault that ends it. -/
def Task.solo (env : Env) : Nat → Node → Task → Except Fault (Option Reply)
  | 0, _, _ => .ok none
  | fuel + 1, n, t => do
    let o ← t.step env n
    match o.next with
    | none => .ok o.reply
    | some t' => Task.solo env fuel o.node t'

/-! ## Ping -/

/-- Why `ptypes.Timestamp` rejects a timestamp. -/
inductive TimestampError where
  /-- "timestamp: nil Timestamp" -/
  | nil
  /-- "timestamp: %v before 0001-01-01" -/
  | before
  /-- "timestamp: %v after 10000-01-01" -/
  | after
  /-- "timestamp: %v: nanos not in range [0, 1e9)" -/
  | nanos
  deriving DecidableEq, Repr

/-- The validation of `ptypes.Timestamp` and `ptypes.TimestampProto`: seconds from 0001-01-01
to before 10000-01-01, and nanos in `[0, 1e9)`. -/
def validateTimestamp : Option Timestamp → Option TimestampError
  | none => some .nil
  | some ts =>
    if ts.seconds < -62135596800 then some .before
    else if ts.seconds ≥ 253402300800 then some .after
    else if ts.nanos < 0 ∨ ts.nanos ≥ 1000000000 then some .nanos
    else none

/-- `Ping` (service.go:343) at wall-clock time `now`: the time of the `GOOD` reply, or the
error of `ptypes`. It logs `in.Source.Id` once the request's time is valid. -/
def ping (now : Timestamp) (req : PingRequest) : Except Fault (Except TimestampError Timestamp) :=
  match validateTimestamp req.time with
  | some err => .ok (.error err)
  | none => do
    let _ ← deref req.source
    match validateTimestamp (some now) with
    | some err => .ok (.error err)
    | none => .ok (.ok now)

end Panorama
