import Panorama.Proof.Handles
import Panorama.Spec.World

/-!
# Which requests crash the server

The handlers read fields of a request's sub-messages without checking that they are
present: `SubmitReport` reads `in.Report.Observer` to restore an old handle and
`report.Subject` before `AddReport`; `LearnReport` logs `report.Subject` and `in.Source.Id`
for each of its three kinds; `Ping` logs `in.Source.Id` once the request's time is valid.
Reading through `nil` panics, and the panic ends the process.

* `handlers_fault_iff`: the three handlers fault exactly on the requests and registry states
  where they read through an absent sub-message, and otherwise answer;
* `absent_submessages_fault`: so a `SubmitReport` without a report on a live or persisted
  handle, a `LearnReport` of a kind it handles without a report or without a source, and a
  `Ping` with a valid time and no source all fault, from every node state; and a
  `SubmitReport` without a report crashes a running node;
* `only_handlers_fault`: no other handler, no goroutine and not the rest of `Start` ever
  faults, and `Ping` only on an absent source.
-/

namespace Panorama

namespace Registry

/-- The handle check faults exactly when it must compare a persisted observer with the
observer of an absent report. -/
theorem check_fault_iff (s : Registry) (handle : UInt64) (report : Option Report) :
    s.check handle report = .error .nilDeref ↔
      report = none ∧ handle ∉ s.registrations ∧
        ∃ old, s.oldRegistrations = some old ∧ handle ∈ old := by
  unfold check
  cases hl : s.registrations.lookup handle with
  | some reg => simp [← AList.lookup_isSome, hl]
  | none =>
    cases ho : s.oldRegistrations with
    | none => simp
    | some old =>
      cases hol : old.lookup handle with
      | none => simp [← AList.lookup_isSome, hol]
      | some oldReg =>
        cases report with
        | none => simp [← AList.lookup_isSome, hl, hol, bind, Except.bind]
        | some r => simp only [hol, deref_some_bind]; split_ifs <;> simp

end Registry

section Solo

variable {env : Env} {n : Node} {k : Nat}

theorem Task.solo_succ (t : Task) : t.solo env (k + 1) n = (t.step env n) >>= fun o =>
    match o.next with
    | none => .ok o.reply
    | some t' => t'.solo env k o.node := rfl

/-- `SubmitReport`'s second step, on a present report, answers. -/
theorem solo_submitAdd (r : Report) :
    (Task.submitAdd (some r)).solo env (k + 1) n ≠ .error .nilDeref ∧
      (Task.submitAdd (some r)).solo env (k + 1) n ≠ .ok none := by
  simp only [Task.solo_succ, Task.step, deref_some_bind]
  cases (n.store.addReport r false).1 <;> simp [bind, Except.bind]

theorem submitReport_solo (req : SubmitReportRequest) :
    ((Task.submitReport req).solo env (k + 2) n = .error .nilDeref ↔
      req.report = none ∧ (req.handle ∈ n.reg.registrations ∨
        ∃ old, n.reg.oldRegistrations = some old ∧ req.handle ∈ old)) ∧
    (Task.submitReport req).solo env (k + 2) n ≠ .ok none := by
  obtain ⟨handle, report⟩ := req
  rw [Task.solo_succ]
  simp only [Task.step]
  cases hc : n.reg.check handle report with
  | error e =>
    cases e
    have hf := (Registry.check_fault_iff n.reg handle report).1 hc
    simp only [bind, Except.bind, hc]
    exact ⟨iff_of_true trivial ⟨hf.1, .inr hf.2.2⟩, by simp⟩
  | ok p =>
    obtain ⟨c, s'⟩ := p
    have hnf : ¬(report = none ∧ handle ∉ n.reg.registrations ∧
        ∃ old, n.reg.oldRegistrations = some old ∧ handle ∈ old) := fun h => by
      rw [(Registry.check_fault_iff n.reg handle report).2 h] at hc
      cases hc
    rcases Registry.check_cases hc with ⟨rfl, rfl, hmem⟩ |
      ⟨old, reg, r, rfl, -, -, -, rfl, -, rfl⟩ | ⟨rfl, rfl⟩
    · cases report with
      | none => simp [bind, Except.bind, Task.solo_succ, Task.step, hmem]
      | some r => simp [bind, Except.bind, solo_submitAdd]
    · simp [bind, Except.bind, solo_submitAdd]
    · have hlive : handle ∉ n.reg.registrations := fun hmem => by
        rw [Registry.check_live hmem] at hc
        cases hc
      simp only [bind, Except.bind]
      simp_all

theorem learnReport_solo (req : LearnReportRequest) :
    ((Task.learnReport req).solo env (k + 2) n = .error .nilDeref ↔
      req.kind ∈ [.normal, .subscription, .unsubscription] ∧
        (req.report = none ∨ req.source = none)) ∧
    (Task.learnReport req).solo env (k + 2) n ≠ .ok none := by
  obtain ⟨source, kind, report⟩ := req
  rw [Task.solo_succ]
  cases kind with
  | normal =>
    cases report with
    | none => simp [Task.step, bind, Except.bind]
    | some r =>
      cases source with
      | none => simp [Task.step, bind, Except.bind]
      | some src =>
        simp only [Task.step, deref_some_bind]
        split <;> simp [Task.solo_succ, Task.step, bind, Except.bind]
  | subscription => cases report <;> cases source <;> simp [Task.step, bind, Except.bind]
  | unsubscription => cases report <;> cases source <;> simp [Task.step, bind, Except.bind]
  | other v => simp [Task.step, bind, Except.bind]

end Solo

theorem ping_fault_iff (now : Timestamp) (req : PingRequest) :
    ping now req = .error .nilDeref ↔ validateTimestamp req.time = none ∧ req.source = none := by
  unfold ping
  cases hv : validateTimestamp req.time with
  | some err => simp
  | none =>
    cases req.source with
    | none => simp [bind, Except.bind]
    | some src => simp only [deref_some_bind]; split <;> simp

/-- **The handlers fault exactly where they read through an absent sub-message.** Run alone
from any node state, `SubmitReport` faults exactly when its report is absent and its handle
is live or persisted, `LearnReport` exactly when its kind is one it handles and its report or
source is absent, and `Ping` exactly when its time is valid and its source absent. Otherwise
`SubmitReport` and `LearnReport` answer. -/
theorem handlers_fault_iff (env : Env) (n : Node) (k : Nat) (now : Timestamp) :
    (∀ req : SubmitReportRequest,
      ((Task.submitReport req).solo env (k + 2) n = .error .nilDeref ↔
        req.report = none ∧ (req.handle ∈ n.reg.registrations ∨
          ∃ old, n.reg.oldRegistrations = some old ∧ req.handle ∈ old)) ∧
      (Task.submitReport req).solo env (k + 2) n ≠ .ok none) ∧
    (∀ req : LearnReportRequest,
      ((Task.learnReport req).solo env (k + 2) n = .error .nilDeref ↔
        req.kind ∈ [.normal, .subscription, .unsubscription] ∧
          (req.report = none ∨ req.source = none)) ∧
      (Task.learnReport req).solo env (k + 2) n ≠ .ok none) ∧
    (∀ req : PingRequest,
      ping now req = .error .nilDeref ↔ validateTimestamp req.time = none ∧ req.source = none) :=
  ⟨submitReport_solo, learnReport_solo, ping_fault_iff now⟩

/-- `Register(m, o)`, then `SubmitReport` on the handle it returned, with no report. -/
def submitWithoutReport : List World.Choice :=
  [.run 0 [], .arrive (.register ⟨"m", "o"⟩), .run 1 [], .arrive (.submitReport ⟨10000, none⟩),
   .run 1 [], .run 1 []]

/-- **Requests without the sub-messages the handlers read crash the server.** From every node
state, a `SubmitReport` without a report on a live or persisted handle, a `LearnReport` of
kind `NORMAL`, `SUBSCRIPTION` or `UNSUBSCRIPTION` without a report or without a source, and a
`Ping` with a valid time and no source read through `nil`. A run of `nodeA` in which
`Register(m, o)` is followed by `SubmitReport` on its handle with no report ends crashed. -/
theorem absent_submessages_fault (env : Env) (n : Node) (k : Nat) (now : Timestamp) :
    (∀ req : SubmitReportRequest, req.report = none →
      (req.handle ∈ n.reg.registrations ∨
        ∃ old, n.reg.oldRegistrations = some old ∧ req.handle ∈ old) →
      (Task.submitReport req).solo env (k + 2) n = .error .nilDeref) ∧
    (∀ req : LearnReportRequest, req.kind ∈ [.normal, .subscription, .unsubscription] →
      (req.report = none ∨ req.source = none) →
      (Task.learnReport req).solo env (k + 2) n = .error .nilDeref) ∧
    (∀ req : PingRequest, validateTimestamp req.time = none → req.source = none →
      ping now req = .error .nilDeref) ∧
    ∃ w : World, World.Reachable nodeA none w ∧ w.crashed = true ∧
      w.tasks = [.gcLoop, .submitAdd none] := by
  obtain ⟨hsubmit, hlearn, hping⟩ := handlers_fault_iff env n k now
  exact ⟨fun req hr hh => ((hsubmit req).1.2 ⟨hr, hh⟩),
    fun req hk hr => (hlearn req).1.2 ⟨hk, hr⟩, fun req ht hs => (hping req).2 ⟨ht, hs⟩,
    World.exists_of_exec submitWithoutReport (by decide)⟩

/-- **Only `SubmitReport`, `LearnReport` and `Ping` fault.** No step of another handler, of
a goroutine the service starts, or of the rest of `Start` reads through an absent
sub-message; `Ping` faults only on a request without a source. -/
theorem only_handlers_fault :
    (∀ {env : Env} {n : Node} {t : Task} {e : Fault}, t.step env n = .error e →
      (∃ req, t = .submitReport req) ∨ t = .submitAdd none ∨ ∃ req, t = .learnReport req) ∧
    ∀ (now : Timestamp) (req : PingRequest) (e : Fault), ping now req = .error e →
      req.source = none := by
  refine ⟨fun {env n t e} h => ?_, fun now req e h => ?_⟩
  · cases t with
    | submitReport req => exact .inl ⟨req, rfl⟩
    | learnReport req => exact .inr (.inr ⟨req, rfl⟩)
    | submitAdd report =>
      cases report with
      | none => exact .inr (.inl rfl)
      | some r =>
        simp only [Task.step, deref_some_bind] at h
        split at h <;> cases h
    | register req =>
      simp only [Task.step] at h
      split at h <;> cases h
    | analyzeReport r checkHold =>
      simp only [Task.step] at h
      split at h
      · split at h <;> cases h
      · cases h
    | drain r items => cases items <;> cases h
    | gcInfer subjects => cases subjects <;> cases h
    | _ => cases h
  · cases e
    exact ((ping_fault_iff now req).1 h).2

/-- `SubmitReport`'s second step without a report, on the node `NewHealthGServer` builds, and
a `Ping` with a valid time and no source. -/
theorem only_handlers_fault_submitAdd :
    (Task.submitAdd none).step ⟨[], []⟩ (Node.new nodeA) = .error .nilDeref ∧
      ((∃ req, Task.submitAdd none = .submitReport req) ∨ Task.submitAdd none = .submitAdd none ∨
        ∃ req, Task.submitAdd none = .learnReport req) ∧
      ping ⟨1, 0⟩ ⟨none, some ⟨0, 0⟩⟩ = .error .nilDeref ∧
      (⟨none, some ⟨0, 0⟩⟩ : PingRequest).source = none :=
  ⟨rfl, only_handlers_fault.1 (show (Task.submitAdd none).step ⟨[], []⟩ (Node.new nodeA) =
    .error .nilDeref from rfl), rfl, only_handlers_fault.2 ⟨1, 0⟩ _ .nilDeref rfl⟩

end Panorama
