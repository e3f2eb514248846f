import Mathlib.Data.List.AList

/-!
# The data model of the health service

The messages and records that `HealthGServer` (`service/service.go`) reads and writes. A Go
pointer to a sub-message (`in.Report`, `in.Source`, `in.Time`, `report.Observation`) is an
`Option`: `none` is `nil`, and reading a field through `nil` is a run-time fault
(`Fault.nilDeref`), which `deref` makes explicit.

The configuration a node is built with includes `GCConfig`, from which `NewHealthGServer`
sets the process-wide `GC` parameters (`gcParams`).

Handles are the code's `uint64`, so `UInt64`: `max_handle + 1` wraps at `2 ^ 64 - 1`. The
lemmas at the end turn handle comparisons and the successor into `Nat` arithmetic.
-/

namespace Panorama

/-- `pb.Peer`, as the handlers read it: the sender's identity. -/
structure Peer where
  id : String
  deriving DecidableEq, Repr

/-- `pb.Observation`: the timestamp of a set of metrics (the metrics are not read here). -/
structure Observation where
  ts : Nat
  deriving DecidableEq, Repr

/-- `pb.Report`: an observer's observation about a subject. -/
structure Report where
  observer : String
  subject : String
  observation : Option Observation
  deriving DecidableEq, Repr

/-- `dt.Registration`: a `(module, observer)` pair, its handle and the time of `Register`. -/
structure Registration where
  module : String
  observer : String
  handle : UInt64
  time : Nat
  deriving DecidableEq, Repr

/-- `pb.RegisterRequest`. -/
structure RegisterRequest where
  module : String
  observer : String
  deriving DecidableEq, Repr

/-- `pb.SubmitReportRequest`. -/
structure SubmitReportRequest where
  handle : UInt64
  report : Option Report
  deriving DecidableEq, Repr

/-- `pb.LearnReportRequest_Kind`: the three named values, and any other value of the enum. -/
inductive Kind where
  | normal
  | subscription
  | unsubscription
  | other (value : Int)
  deriving DecidableEq, Repr

/-- `pb.LearnReportRequest`. -/
structure LearnReportRequest where
  source : Option Peer
  kind : Kind
  report : Option Report
  deriving DecidableEq, Repr

/-- `tspb.Timestamp`. -/
structure Timestamp where
  seconds : Int
  nanos : Int
  deriving DecidableEq, Repr

/-- `pb.PingRequest`. -/
structure PingRequest where
  source : Option Peer
  time : Option Timestamp
  deriving DecidableEq, Repr

/-- The result codes of `storage.AddReport` (`store.REPORT_*`). -/
inductive Rc where
  | accepted
  | ignored
  | failed
  deriving DecidableEq, Repr

/-- The `Result` of `SubmitReportReply` and `LearnReportReply`. -/
inductive Status where
  | accepted
  | ignored
  | failed
  deriving DecidableEq, Repr

/-- What a handler returns: its reply message (`nil` is `none`) and its `error`. -/
structure Answer (α : Type) where
  reply : Option α
  err : Option String
  deriving DecidableEq, Repr

/-- The answers of the handlers that change the node. -/
inductive Reply where
  | register (handle : UInt64)
  | submitReport (answer : Answer Status)
  | learnReport (answer : Answer Status)
  | observe (success : Bool)
  deriving DecidableEq, Repr

/-- A run-time fault of the handlers: a field read through a `nil` pointer. -/
inductive Fault where
  | nilDeref
  deriving DecidableEq, Repr

/-- Reading through a Go pointer. -/
def deref {α : Type} : Option α → Except Fault α
  | some a => .ok a
  | none => .error .nilDeref

@[simp] theorem deref_some {α : Type} (a : α) : deref (some a) = .ok a := rfl
@[simp] theorem deref_none {α : Type} : deref (none : Option α) = .error .nilDeref := rfl

@[simp] theorem deref_some_bind {α β : Type} (a : α) (f : α → Except Fault β) :
    (deref (some a) >>= f) = f a := rfl

@[simp] theorem deref_none_bind {α β : Type} (f : α → Except Fault β) :
    (deref none >>= f) = .error .nilDeref := rfl

/-! ## The `GC` parameters -/

/-- `GCConfig` of a server's configuration, in seconds. -/
structure GcConfig where
  enable : Bool
  frequency : Int
  threshold : Int
  relative : Bool
  deriving DecidableEq, Repr

/-- The package variables `gc_frequency` and `gc_threshold` (in nanoseconds, as
`time.Duration`) and `gc_relative`. They are shared by every server of the process. -/
structure GcParams where
  frequency : Int
  threshold : Int
  relative : Bool
  deriving DecidableEq, Repr

/-- Their values when the process starts: `0`, `0` and `GC_RELATIVE`. -/
def GcParams.initial : GcParams := ⟨0, 0, true⟩

/-- A value of Go's `int64`, whose arithmetic wraps. -/
def wrapInt64 (x : Int) : Int :=
  (x + 9223372036854775808) % 18446744073709551616 - 9223372036854775808

/-- A value that fits Go's `int64`. -/
def IsInt64 (x : Int) : Prop := -9223372036854775808 ≤ x ∧ x < 9223372036854775808

instance (x : Int) : Decidable (IsInt64 x) := inferInstanceAs (Decidable (_ ∧ _))

theorem wrapInt64_of_isInt64 {x : Int} (hx : IsInt64 x) : wrapInt64 x = x := by
  unfold wrapInt64
  unfold IsInt64 at hx
  omega

/-- `time.Duration(seconds) * time.Second`. -/
def durationOfSeconds (seconds : Int) : Int := wrapInt64 (seconds * 1000000000)

/-- `GC_FREQUENCY`: 3 minutes. -/
def gcFrequencyDefault : Int := 180000000000

/-- `GC_THRESHOLD`: 5 minutes. -/
def gcThresholdDefault : Int := 300000000000

/-- The `GC` part of `NewHealthGServer` (service.go:71-80): with `GC` enabled, the
configured frequency and threshold when the frequency is positive and the defaults
otherwise; with `GC` disabled, the parameters stay as earlier servers left them. -/
def GcParams.configure (p : GcParams) (c : GcConfig) : GcParams :=
  if c.enable then
    if c.frequency > 0 then
      ⟨durationOfSeconds c.frequency, durationOfSeconds c.threshold, c.relative⟩
    else ⟨gcFrequencyDefault, gcThresholdDefault, c.relative⟩
  else p

/-- The `GC` parameters after the process has built servers with `configs`, in order. -/
def gcParams (configs : List GcConfig) : GcParams := configs.foldl GcParams.configure .initial

/-! ## The configuration -/

/-- The fields of `dt.HealthServerConfig` the service reads. `holdTime` and `holdListLen` are
`BufConfig`, `gc` is `GCConfig`.

`shapeFirst` is no field of the configuration: it fixes the one choice the spec leaves open in
the store's `AddReport` (§4.1), whose code is not in the source, namely whether a report's
fields are checked before the watch list. Every run of the model is a run for one of the two
choices. -/
structure Config where
  id : String
  peers : List String
  subjects : List String
  filterSubmission : Bool
  holdTime : Nat
  holdListLen : Nat
  gc : GcConfig
  shapeFirst : Bool
  deriving DecidableEq, Repr

/-- `HANDLE_START`. -/
def handleStart : UInt64 := 10000

/-- `HOLD_TIME`, in seconds. -/
def holdTimeDefault : Nat := 180

/-- `HOLD_LIST_LEN`. -/
def holdListLenDefault : Nat := 60

/-! ## Handles as numbers -/

theorem UInt64.lt_iff_toNat {a b : UInt64} : a < b ↔ a.toNat < b.toNat := Iff.rfl

theorem UInt64.le_iff_toNat {a b : UInt64} : a ≤ b ↔ a.toNat ≤ b.toNat := Iff.rfl

theorem UInt64.toNat_inj {a b : UInt64} : a.toNat = b.toNat ↔ a = b :=
  ⟨UInt64.toNat.inj, congrArg _⟩

theorem UInt64.toNat_succ (a : UInt64) :
    (a + 1).toNat = (a.toNat + 1) % 18446744073709551616 := rfl

theorem UInt64.toNat_succ_of_lt {a : UInt64} (h : a.toNat < 18446744073709551615) :
    (a + 1).toNat = a.toNat + 1 := by
  rw [UInt64.toNat_succ, Nat.mod_eq_of_lt (by omega)]

@[simp] theorem toNat_handleStart : handleStart.toNat = 10000 := rfl

end Panorama
