import Mathlib.Algebra.Order.BigOperators.Group.List
import Panorama.Proof.Progress

/-!
# Every accepted report reaches the inference engine

Three paths of service.go hand a report to `storage.AddReport`: `SubmitReport`,
`LearnReport` of kind `NORMAL`, and the drain of `AnalyzeReport`. When the store accepts it,
the inference of the report's subject is out of date, and the service owes a request to
recompute it (`InferReportAsync` on a report about that subject). Likewise the `GC` loop owes
an `InferSubjectAsync` for every subject that `storage.GC` retired observations of.

A run's log opens such a `Demand` at each accepted `AddReport` and each `GC`, and closes the
demands of a subject at an inference request for it (`openDemands`). The invariant
`World.Owed` says that every demand still open is owed by a running task: the goroutine
that will make the request. It holds at every state of every run, whatever the
interleaving (`Reachable.owed`), because each step of each task answers what it owes or hands
it on to the task it continues as or starts (`Task.step_hands_on`), and hands on what its own
events open (`Task.step_opens`). What a task owes, it hands on only to a task of smaller
`Task.weight` (`Task.step_progress`).

* `accepted_reports_reach_inference`: at every state of every run, every accepted report has
  been followed by an inference request for its subject, or a running goroutine owes that
  request, and every step of a goroutine that owes it makes it or hands it to one of smaller
  weight; likewise every retired subject and its `InferSubjectAsync`. So each request is made
  within as many steps of the goroutines owing it as the weight of the first of them.
-/

namespace Panorama

/-- What the service owes the inference engine: recomputing `subject` after an accepted
report about it, or after `storage.GC` retired observations of it. -/
inductive Demand where
  | report (subject : String)
  | retired (subject : String)
  deriving DecidableEq, Repr

/-- The demands an event opens. -/
def Event.opens : Event → List Demand
  | .add _ r .accepted => [.report r.subject]
  | .gc retired => retired.map fun p => .retired p.1
  | _ => []

/-- The demand an event answers: an inference request answers the demand of its subject. -/
def Event.answers : Event → Option Demand
  | .inferReport r => some (.report r.subject)
  | .inferSubject s => some (.retired s)
  | _ => none

/-- The demands open after event `e`. -/
def openAfter (ds : List Demand) (e : Event) : List Demand :=
  ds.filter (fun d => e.answers ≠ some d) ++ e.opens

/-- The demands a log leaves open. -/
def openDemands (log : List Event) : List Demand := log.foldl openAfter []

/-- What a running task will ask of the inference engine: an `AnalyzeReport` goroutine (and
`LearnReport` just before it starts one) the inference of its report's subject; the `GC`
loop, the subjects it has still to re-infer. -/
def Task.owes : Task → List Demand
  | .learnInterested _ r _ | .analyzeReport r _ | .drain r _ | .inferReport r =>
    [.report r.subject]
  | .gcInfer subjects => subjects.map .retired
  | _ => []

theorem mem_openAfter {ds : List Demand} {e : Event} {d : Demand} :
    d ∈ openAfter ds e ↔ (d ∈ ds ∧ e.answers ≠ some d) ∨ d ∈ e.opens := by
  simp [openAfter]

/-- Sending messages opens and answers nothing. -/
theorem foldl_openAfter_sends {α : Type} (ds : List Demand) (l : List α)
    (g : α → String) (f : α → LearnReportRequest) :
    (l.map fun x => Event.send (g x) (f x)).foldl openAfter ds = ds := by
  induction l with
  | nil => rfl
  | cons x l ih => simpa [openAfter, Event.answers, Event.opens] using ih

/-- A demand no later event answers stays open. -/
theorem mem_foldl_openAfter {d : Demand} {l : List Event} {ds : List Demand} (hd : d ∈ ds)
    (hl : ∀ e ∈ l, e.answers ≠ some d) : d ∈ l.foldl openAfter ds := by
  induction l generalizing ds with
  | nil => exact hd
  | cons e l ih =>
    exact ih (mem_openAfter.2 (.inl ⟨hd, hl e (.head _)⟩)) fun e' he' => hl e' (.tail _ he')

/-- Starting from more open demands leaves more open. -/
theorem foldl_openAfter_mono {l : List Event} {ds ds' : List Demand} (h : ds ⊆ ds') :
    l.foldl openAfter ds ⊆ l.foldl openAfter ds' := by
  induction l generalizing ds ds' with
  | nil => exact h
  | cons e l ih =>
    exact ih fun d hd => mem_openAfter.2 ((mem_openAfter.1 hd).imp_left fun h' => ⟨h h'.1, h'.2⟩)

/-- A demand open after a stretch of the log was open before it and not answered in it, or
was opened in it. -/
theorem mem_foldl_openAfter_cases {d : Demand} {l : List Event} {ds : List Demand}
    (hd : d ∈ l.foldl openAfter ds) :
    (d ∈ ds ∧ ∀ e ∈ l, e.answers ≠ some d) ∨ d ∈ l.foldl openAfter [] := by
  induction l generalizing ds with
  | nil => exact .inl ⟨hd, fun _ h => absurd h (List.not_mem_nil _)⟩
  | cons e l ih =>
    rw [List.foldl_cons] at hd ⊢
    rcases ih hd with ⟨h₁, h₂⟩ | h₁
    · rcases mem_openAfter.1 h₁ with ⟨h₃, h₄⟩ | h₃
      · exact .inl ⟨h₃, List.forall_mem_cons.2 ⟨h₄, h₂⟩⟩
      · exact .inr (mem_foldl_openAfter (mem_openAfter.2 (.inr h₃)) h₂)
    · exact .inr (foldl_openAfter_mono (List.nil_subset _) h₁)

/-- A demand an event of the log opens is answered later in the log, or is still open. -/
theorem answered_or_open {log : List Event} {i : Nat} {e : Event} (hi : log[i]? = some e)
    {d : Demand} (hd : d ∈ e.opens) :
    (∃ j e', i < j ∧ log[j]? = some e' ∧ e'.answers = some d) ∨ d ∈ openDemands log := by
  by_contra hne
  push_neg at hne
  have hopen : d ∈ (log.take (i + 1)).foldl openAfter [] := by
    rw [List.take_succ, hi, Option.toList_some, List.foldl_append, List.foldl_cons,
      List.foldl_nil]
    exact mem_openAfter.2 (.inr hd)
  have hrest : ∀ e' ∈ log.drop (i + 1), e'.answers ≠ some d := by
    intro e' he'
    obtain ⟨k, hk⟩ := List.mem_iff_getElem?.1 he'
    exact hne.1 (i + 1 + k) e' (by omega) (by rwa [List.getElem?_drop] at hk)
  have := mem_foldl_openAfter hopen hrest
  rw [← List.foldl_append, List.take_append_drop] at this
  exact hne.2 this

variable {env : Env} {n : Node} {t : Task} {o : Out}

/-- What a step's events open is owed by the task's continuation or by a goroutine it
started. -/
theorem Task.step_opens (hwf : t.WF) (h : t.step env n = .ok o) {d : Demand}
    (hd : d ∈ o.events.foldl openAfter []) : ∃ t' ∈ o.next.toList ++ o.spawned, d ∈ t'.owes := by
  revert hwf hd
  apply Task.step_cases h
  case drainReadd =>
    intro r it rest hwf hd
    simp only [Task.WF, List.forall_mem_cons] at hwf
    cases hrc : (n.store.addReport it.report false).1 <;>
      simp_all [openAfter, Event.opens, Task.owes]
  case gcLoop => intro _ hd; split <;> simp_all [openAfter, Event.opens, Task.owes]
  all_goals intros; simp_all [openAfter, Event.opens, Task.owes, foldl_openAfter_sends]

/-- What a task owes, its step answers or hands on to its continuation or to a goroutine
it started. -/
theorem Task.step_hands_on (h : t.step env n = .ok o) {d : Demand} (hdt : d ∈ t.owes) :
    (∃ e ∈ o.events, e.answers = some d) ∨ ∃ t' ∈ o.next.toList ++ o.spawned, d ∈ t'.owes := by
  revert hdt
  apply Task.step_cases h
  case gcInfer =>
    intro s rest hdt
    simp only [Task.owes, List.map_cons, List.mem_cons] at hdt
    rcases hdt with rfl | hdt
    · simp [Event.answers]
    · exact .inr ⟨.gcInfer rest, .head _, hdt⟩
  all_goals intros; simp_all [Task.owes, Event.answers]

/-- **Each step of a task that owes a request makes it, or hands it on to a task of smaller
weight.** -/
theorem Task.step_progress (hb : n.hold.Bounded) (h : t.step env n = .ok o) {d : Demand}
    (hdt : d ∈ t.owes) :
    (∃ e ∈ o.events, e.answers = some d) ∨ ∃ t' ∈ o.next.toList ++ o.spawned, d ∈ t'.owes ∧
      t'.weight n.hold.maxLen < t.weight n.hold.maxLen := by
  have hne : t ≠ .gcLoop := by rintro rfl; cases hdt
  refine (Task.step_hands_on h hdt).imp_right fun ⟨t', ht', hd'⟩ => ⟨t', ht', hd', ?_⟩
  calc t'.weight n.hold.maxLen
      ≤ ((o.next.toList ++ o.spawned).map (Task.weight n.hold.maxLen)).sum :=
        List.le_sum_of_mem (List.mem_map_of_mem _ ht')
    _ < t.weight n.hold.maxLen := Task.step_weight hb hne h

namespace World

/-- Every demand the log leaves open is owed by a running task. -/
def Owed (w : World) : Prop := ∀ d ∈ openDemands w.log, ∃ t ∈ w.tasks, d ∈ t.owes

variable {w w' : World}

theorem Step.owed (hs : Step w w') (hsound : w.Sound) (hw : w.Owed) : w'.Owed := by
  cases hs with
  | arrive t _ _ =>
    intro d hd
    obtain ⟨t', ht', hdt⟩ := hw d hd
    exact ⟨t', List.mem_append_left _ ht', hdt⟩
  | tick => exact hw
  | @run t _ o ht _ _ h =>
    intro d hd
    simp only [resume, openDemands, List.foldl_append] at hd
    have hnew : ∀ t' ∈ o.next.toList ++ o.spawned, t' ∈ (w.resume t o).tasks :=
      fun _ ht' => mem_resume_tasks.2 (.inr ht')
    rcases mem_foldl_openAfter_cases hd with ⟨hd, hna⟩ | hd
    · obtain ⟨t', ht', hdt⟩ := hw d hd
      by_cases hne : t' = t
      · subst hne
        rcases Task.step_hands_on h hdt with ⟨e, he, hea⟩ | ⟨t'', ht'', hdt''⟩
        · exact absurd hea (hna e he)
        · exact ⟨t'', hnew t'' ht'', hdt''⟩
      · exact ⟨t', mem_resume_tasks.2 (.inl ((List.mem_erase_of_ne hne).2 ht')), hdt⟩
    · obtain ⟨t', ht', hdt⟩ := Task.step_opens (hsound.wf _ ht) h hd
      exact ⟨t', hnew t' ht', hdt⟩
  | fault => exact hw

/-- **Every open demand is owed by a running task**, at every state of every run. -/
theorem Reachable.owed {config : Config} {persisted : Option RegTable}
    (hw : Reachable config persisted w) : w.Owed := by
  induction hw with
  | refl => intro d hd; cases hd
  | tail hr hs ih => exact hs.owed (Reachable.sound hr) ih

end World

/-- **Accepted reports reach the inference engine.** At every state of every run, each report
the store accepted, on any of its three paths, has been followed by an inference request for
a report about the same subject, or a running goroutine owes that request; likewise each
subject that `storage.GC` retired observations of and its `InferSubjectAsync`. Every step of
a goroutine that owes a request makes it or hands it on to a goroutine of smaller weight, so
the request is made within the first owner's weight of its owners' own steps. -/
theorem accepted_reports_reach_inference {config : Config} {persisted : Option RegTable}
    {w : World} (hw : World.Reachable config persisted w) :
    (∀ (i : Nat) (c : Caller) (r : Report), w.log[i]? = some (.add c r .accepted) →
      (∃ (j : Nat) (r' : Report), i < j ∧ w.log[j]? = some (.inferReport r') ∧
        r'.subject = r.subject) ∨ ∃ t ∈ w.tasks, Demand.report r.subject ∈ t.owes) ∧
    (∀ (i : Nat) (retired : List (String × Nat)), w.log[i]? = some (.gc retired) →
      ∀ p ∈ retired, (∃ j : Nat, i < j ∧ w.log[j]? = some (.inferSubject p.1)) ∨
        ∃ t ∈ w.tasks, Demand.retired p.1 ∈ t.owes) ∧
    (∀ t ∈ w.tasks, ∀ d ∈ t.owes, ∀ (env : Env) (o : Out), t.step env w.node = .ok o →
      (∃ e ∈ o.events, e.answers = some d) ∨ ∃ t' ∈ o.next.toList ++ o.spawned, d ∈ t'.owes ∧
        t'.weight w.node.hold.maxLen < t.weight w.node.hold.maxLen) := by
  have howed := hw.owed
  refine ⟨fun i c r hi => ?_, fun i retired hi p hp => ?_,
    fun t _ d hd _ _ h => Task.step_progress (World.Reachable.bounded hw).1 h hd⟩
  · rcases answered_or_open hi (d := .report r.subject) (by simp [Event.opens]) with
      ⟨j, e, hij, hj, he⟩ | hopen
    · cases e <;> simp only [Event.answers, Option.some.injEq, Demand.report.injEq,
        reduceCtorEq] at he
      exact .inl ⟨j, _, hij, hj, he⟩
    · exact .inr (howed _ hopen)
  · rcases answered_or_open hi (d := .retired p.1) (List.mem_map.2 ⟨p, hp, rfl⟩) with
      ⟨j, e, hij, hj, he⟩ | hopen
    · cases e <;> simp only [Event.answers, Option.some.injEq, Demand.retired.injEq,
        reduceCtorEq] at he
      exact .inl ⟨j, hij, he ▸ hj⟩
    · exact .inr (howed _ hopen)

/-- Midway through `heldThenSubmitted`: the drain has re-added `b`'s held report, and the
drain, which owes its inference, is still running. -/
theorem accepted_reports_reach_inference_drain :
    ∃ w : World, World.Reachable nodeA none w ∧
      w.log[3]? = some (.add (.drain 0) ⟨"p", "s", some ⟨1⟩⟩ .accepted) ∧
      ((∃ (j : Nat) (r' : Report), 3 < j ∧ w.log[j]? = some (.inferReport r') ∧
        r'.subject = "s") ∨ ∃ t ∈ w.tasks, Demand.report "s" ∈ t.owes) := by
  obtain ⟨w, hw, hi⟩ : ∃ w, World.Reachable nodeA none w ∧
      w.log[3]? = some (.add (.drain 0) ⟨"p", "s", some ⟨1⟩⟩ .accepted) :=
    World.exists_of_exec (heldThenSubmitted.take 11) (by decide)
  exact ⟨w, hw, hi, (accepted_reports_reach_inference hw).1 3 _ _ hi⟩

end Panorama
