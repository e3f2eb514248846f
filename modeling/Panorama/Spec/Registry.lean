import Panorama.Spec.Types

/-!
# The handle registry

The fields of `HealthGServer` that `regMu` guards: `registrations`, `old_registrations`,
`next_handle`, and the registration table of the database, which `Register` writes
(`db.InsertRegistration`) and `Start` reads back (`db.ReadRegistrations`) after a restart.

`Start` serves RPCs from service.go:103 on, but opens the database and reads
`old_registrations` only at service.go:111-121. Calls in this window see a registry with no
`old_registrations` and no database (`new`); `Start`'s `load` then sets both, whatever the
window's calls did. A run of the registry (`StartRun`, `Reachable`) is calls in the window,
the load, and calls after it.

Two operations run under the mutex, one at a time:

* `Register` (`register`): a scan of `registrations` in Go's map order for the
  `(module, observer)` pair (`scan`), then, if the pair is new, the allocation of
  `max(next_handle, max_handle + 1)` in `uint64` arithmetic (`allocate`).
* the handle check of `SubmitReport` (`check`), which restores an entry of
  `old_registrations` when the report's observer matches it.

Go's map iteration order is unspecified, so `register` takes the order as an argument and a
step of the registry (`Step`) allows any permutation of the entries.
-/

namespace Panorama

/-- A Go `map[uint64]*dt.Registration`. -/
abbrev RegTable := AList (fun _ : UInt64 => Registration)

/-- An entry of a `RegTable`, as `range` visits it. -/
abbrev RegEntry := Σ _ : UInt64, Registration

/-- A run through `Start`'s window: steps of `step` from `init`, the state `NewHealthGServer`
builds, while `Start` has yet to read the database; then `Start`'s `load`, and steps after it.
The states of the window are states of the run too. -/
inductive StartRun {α : Type} (step : α → α → Prop) (init : α) (load : α → α) : α → Prop
  /-- A state of the window. -/
  | window {s : α} (h : Relation.ReflTransGen step init s) : StartRun step init load s
  /-- A state after `Start` loaded the state `w` of the window. -/
  | loaded {w s : α} (hw : Relation.ReflTransGen step init w)
      (h : Relation.ReflTransGen step (load w) s) : StartRun step init load s

/-- What holds of the initial state, after each step and after the load holds of every state
of a run through `Start`. -/
theorem StartRun.invariant {α : Type} {step : α → α → Prop} {init : α} {load : α → α} {s : α}
    (hs : StartRun step init load s) {P : α → Prop} (hinit : P init)
    (hstep : ∀ a b, P a → step a b → P b) (hload : ∀ a, P a → P (load a)) : P s := by
  have run {a b : α} (hab : Relation.ReflTransGen step a b) (ha : P a) : P b := by
    induction hab with
    | refl => exact ha
    | tail _ h ih => exact hstep _ _ ih h
  cases hs with
  | window h => exact run h hinit
  | loaded hw h => exact run h (hload _ (run hw hinit))

/-- The registry of a `HealthGServer`. `db` is `none` when no database is open. -/
structure Registry where
  registrations : RegTable
  oldRegistrations : Option RegTable
  nextHandle : UInt64
  db : Option RegTable

namespace Registry

/-- `NewHealthGServer`: no registrations, `next_handle = HANDLE_START`, and, until `Start`
has opened the database, no `old_registrations` and no database. -/
def new : Registry := ⟨∅, none, handleStart, none⟩

/-- The rest of `Start` (service.go:111-121), which runs while RPCs are already served: the
database opens and `old_registrations` is what `db.ReadRegistrations` returns (`persisted`;
`none` when the database does not open). -/
def load (s : Registry) (persisted : Option RegTable) : Registry :=
  { s with oldRegistrations := persisted, db := persisted }

/-- `NewHealthGServer` then the whole of `Start`, with no call in its window. -/
def start (persisted : Option RegTable) : Registry := new.load persisted

/-- A process restart: the next process starts from what this one persisted. -/
def restart (s : Registry) : Registry := start s.db

/-- The outcome of `Register`'s loop over `registrations`. -/
inductive Scan where
  /-- An entry for the pair: `Register` returns its handle. -/
  | found (handle : UInt64)
  /-- No entry for the pair; the largest handle seen (`0` for an empty map). -/
  | fresh (maxHandle : UInt64)
  deriving DecidableEq, Repr

/-- `Register`'s loop (service.go:153-160), visiting the entries in `order`. -/
def scan (module observer : String) : List RegEntry → UInt64 → Scan
  | [], maxHandle => .fresh maxHandle
  | ⟨handle, r⟩ :: rest, maxHandle =>
    if r.module = module ∧ r.observer = observer then .found handle
    else scan module observer rest (if handle > maxHandle then handle else maxHandle)

/-- The handle `Register` allocates after a scan that saw `maxHandle` (service.go:161-165). -/
def fresh (s : Registry) (maxHandle : UInt64) : UInt64 :=
  if s.nextHandle > maxHandle then s.nextHandle else maxHandle + 1

/-- The allocation of `Register` (service.go:161-175): insert the registration, persist it,
advance `next_handle`. -/
def allocate (s : Registry) (maxHandle : UInt64) (req : RegisterRequest) (now : Nat) :
    UInt64 × Registry :=
  let h := s.fresh maxHandle
  let registration : Registration := ⟨req.module, req.observer, h, now⟩
  (h, ⟨s.registrations.insert h registration, s.oldRegistrations, h + 1,
    s.db.map (·.insert h registration)⟩)

/-- `Register` (service.go:149-177), with `registrations` visited in `order`: the handle it
returns and the registry after it. -/
def register (s : Registry) (order : List RegEntry) (req : RegisterRequest) (now : Nat) :
    UInt64 × Registry :=
  match scan req.module req.observer order 0 with
  | .found handle => (handle, s)
  | .fresh maxHandle => s.allocate maxHandle req now

/-- What `SubmitReport`'s handle check decides. -/
inductive Check where
  /-- The handle is in `registrations`. -/
  | live
  /-- The handle was restored from `old_registrations`. -/
  | restored (reg : Registration)
  /-- "Invalid submission handle". -/
  | invalid
  deriving DecidableEq, Repr

/-- The handle check of `SubmitReport` (service.go:180-218). Reading `in.Report.Observer`
faults when the request carries no report. -/
def check (s : Registry) (handle : UInt64) (report : Option Report) :
    Except Fault (Check × Registry) :=
  match s.registrations.lookup handle with
  | some _ => .ok (.live, s)
  | none =>
    match s.oldRegistrations with
    | none => .ok (.invalid, s)
    | some old =>
      match old.lookup handle with
      | none => .ok (.invalid, s)
      | some oldReg => do
        let r ← deref report
        if oldReg.observer = r.observer then
          .ok (.restored oldReg, { s with registrations := s.registrations.insert handle oldReg })
        else .ok (.invalid, s)

/-- A call under `regMu`: `Register` with any map order, or `SubmitReport`'s check. -/
inductive Step : Registry → Registry → Prop
  | register {s : Registry} {order : List RegEntry} (req : RegisterRequest) (now : Nat)
      (horder : order.Perm s.registrations.entries) : Step s (s.register order req now).2
  | submit {s s' : Registry} {c : Check} (handle : UInt64) (report : Option Report)
      (h : s.check handle report = .ok (c, s')) : Step s s'

/-- The registries a run started by `Start` on `persisted` reaches, in the window and after
the load. -/
def Reachable (persisted : Option RegTable) (s : Registry) : Prop :=
  StartRun Step new (·.load persisted) s

/-- A call under `regMu` in a scripted run; `Register` visits the map in its entries' order. -/
inductive Call where
  | register (req : RegisterRequest) (now : Nat)
  | submit (handle : UInt64) (report : Option Report)

/-- What a call answers: `Register`'s handle, or the check's decision. -/
inductive Result where
  | handle (h : UInt64)
  | check (c : Check)
  deriving DecidableEq, Repr

/-- One scripted call. -/
def call (s : Registry) : Call → Except Fault (Result × Registry)
  | .register req now => .ok (.handle (s.register s.registrations.entries req now).1,
      (s.register s.registrations.entries req now).2)
  | .submit handle report => (s.check handle report).map fun p => (.check p.1, p.2)

/-- Scripted calls, one after the other. -/
def calls (s : Registry) : List Call → Except Fault (List Result × Registry)
  | [] => .ok ([], s)
  | c :: cs => do
    let p ← s.call c
    let q ← p.2.calls cs
    .ok (p.1 :: q.1, q.2)

/-! ## Equations -/

@[simp] theorem new_registrations : new.registrations = ∅ := rfl
@[simp] theorem start_registrations (p : Option RegTable) : (start p).registrations = ∅ := rfl
@[simp] theorem start_old (p : Option RegTable) : (start p).oldRegistrations = p := rfl
@[simp] theorem start_nextHandle (p : Option RegTable) : (start p).nextHandle = handleStart := rfl

theorem register_found {s : Registry} {order : List RegEntry} {req : RegisterRequest} {h : UInt64}
    (hs : scan req.module req.observer order 0 = .found h) (now : Nat) :
    s.register order req now = (h, s) := by
  simp [register, hs]

theorem register_fresh {s : Registry} {order : List RegEntry} {req : RegisterRequest}
    {m : UInt64} (hs : scan req.module req.observer order 0 = .fresh m) (now : Nat) :
    s.register order req now = s.allocate m req now := by
  simp [register, hs]

@[simp] theorem allocate_fst (s : Registry) (m : UInt64) (req : RegisterRequest) (now : Nat) :
    (s.allocate m req now).1 = s.fresh m := rfl

@[simp] theorem allocate_registrations (s : Registry) (m : UInt64) (req : RegisterRequest)
    (now : Nat) : (s.allocate m req now).2.registrations =
      s.registrations.insert (s.fresh m) ⟨req.module, req.observer, s.fresh m, now⟩ := rfl

@[simp] theorem allocate_old (s : Registry) (m : UInt64) (req : RegisterRequest) (now : Nat) :
    (s.allocate m req now).2.oldRegistrations = s.oldRegistrations := rfl

@[simp] theorem allocate_nextHandle (s : Registry) (m : UInt64) (req : RegisterRequest)
    (now : Nat) : (s.allocate m req now).2.nextHandle = s.fresh m + 1 := rfl

theorem check_live {s : Registry} {handle : UInt64} (hh : handle ∈ s.registrations)
    (report : Option Report) : s.check handle report = .ok (.live, s) := by
  obtain ⟨r, hr⟩ := Option.isSome_iff_exists.1 (AList.lookup_isSome.2 hh)
  simp [check, hr]

end Registry

end Panorama
