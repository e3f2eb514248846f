import Panorama.Proof.Drain

/-!
# What a node tells its peers

A node sends its peers two kinds of `LearnReport` message: the reports `Propagate` sends to
the peers interested in their subject, and the notices `Subscribe` and `Unsubscribe` send to
every peer. The spec has the exchange propagate the reports local modules submit, and has
the drain of the hold buffer, once it has re-added a subject's held reports, tell the peers
that the node now wants that subject (`go exchange.Subscribe(report.Subject)`).

* `propagates_only_submitted`: in every run, every report message the node sends carries a
  report that `SubmitReport` had the store accept earlier in the run: reports learned from
  peers are never relayed;
* `drain_subscribes`: once a run has nothing left running but the `GC` loop, every `Empty`
  of a drain is followed by a subscription notice about its subject to every other peer.

Both follow from one invariant of every run, `World.Told`, kept by each step because only
`SubmitReport` starts a `Propagate`, only a `Propagate` sends reports, and the drain's
`Empty` starts a `Subscribe` in the same step.
-/

namespace Panorama

/-- Appending events after index `i` puts each of them after `i`. -/
theorem exists_later_append {log es : List Event} {i : Nat} {e : Event} (hi : i < log.length)
    (he : e ∈ es) : ∃ j, i < j ∧ (log ++ es)[j]? = some e := by
  obtain ⟨k, hk⟩ := List.mem_iff_getElem?.1 he
  exact ⟨log.length + k, by omega, by rw [List.getElem?_append_right (by omega)]; simpa using hk⟩

section Steps

variable {env : Env} {n : Node} {t : Task} {o : Out}

theorem Task.step_config (h : t.step env n = .ok o) : o.node.config = n.config := by
  apply Task.step_cases h
  all_goals intros; rfl

/-- Only an accepted `SubmitReport` starts a `Propagate`, and it logs the acceptance. -/
theorem Task.step_propagate_logged (h : t.step env n = .ok o) {r : Report}
    (hd : Task.propagate r ∈ o.next.toList ++ o.spawned) :
    Event.add .submit r .accepted ∈ o.events := by
  revert hd
  apply Task.step_cases h
  case gcLoop => split <;> simp
  all_goals intros; simp_all

/-- Only `Propagate` sends report messages, each with its own report. -/
theorem Task.step_sends_report (h : t.step env n = .ok o) {q : String}
    {msg : LearnReportRequest} (he : Event.send q msg ∈ o.events) (hk : msg.kind = .normal) :
    ∃ r, t = .propagate r ∧ msg.report = some r := by
  revert he
  apply Task.step_cases h
  case propagate =>
    intro r he
    simp only [List.mem_map, Event.send.injEq] at he
    obtain ⟨_, -, -, rfl⟩ := he
    exact ⟨r, rfl, rfl⟩
  case subscribe | unsubscribe =>
    intro s he
    simp only [List.mem_map, Event.send.injEq] at he
    obtain ⟨_, -, -, rfl⟩ := he
    cases hk
  all_goals intros; simp_all

/-- The drain's `Empty` starts a `Subscribe` of its subject in the same step. -/
theorem Task.step_empty_subscribes (h : t.step env n = .ok o) {s : String}
    {erased : List HoldItem} (he : Event.empty s erased ∈ o.events) :
    Task.subscribe s ∈ o.spawned := by
  revert he
  apply Task.step_cases h
  all_goals intros; simp_all

end Steps

namespace World

/-- What a node has told its peers, at every state of a run from `Start` with `config`:
every running `Propagate` and every report message sent follows the acceptance of its report
by `SubmitReport`, and every `Empty` of a drain is followed by subscription notices about its
subject to every other peer, or has a `Subscribe` of it still to run. -/
structure Told (config : Config) (w : World) : Prop where
  configured : w.node.config = config
  propagating : ∀ r, Task.propagate r ∈ w.tasks → Event.add .submit r .accepted ∈ w.log
  reports : ∀ (i : Nat) (q : String) (msg : LearnReportRequest), w.log[i]? = some (.send q msg) →
    msg.kind = .normal → ∃ (r : Report) (j : Nat), msg.report = some r ∧ j < i ∧
      w.log[j]? = some (.add .submit r .accepted)
  subscribing : ∀ (i : Nat) (s : String) (erased : List HoldItem),
    w.log[i]? = some (.empty s erased) → Task.subscribe s ∈ w.tasks ∨
      ∀ p ∈ config.others, ∃ j, i < j ∧
        w.log[j]? = some (.send p (notice config.id .subscription s))

variable {config : Config} {w w' : World}

theorem told_init (persisted : Option RegTable) : (init config persisted).Told config where
  configured := rfl
  propagating := by simp [init]
  reports := by simp [init]
  subscribing := by simp [init]

/-- A `Subscribe` step sends its notice to every other peer. -/
theorem subscribe_sends {env : Env} {n : Node} {o : Out} {s : String}
    (h : (Task.subscribe s).step env n = .ok o) :
    ∀ p ∈ n.config.others, Event.send p (notice n.config.id .subscription s) ∈ o.events := by
  simp only [Task.step, Except.ok.injEq] at h
  subst h
  exact fun p hp => List.mem_map_of_mem _ hp

theorem Step.told (hs : Step w w') (hw : w.Told config) : w'.Told config := by
  cases hs with
  | @arrive t ht _ =>
    refine ⟨hw.configured, fun r hd => ?_, hw.reports, fun i s erased hi => ?_⟩
    · rcases List.mem_append.1 hd with hd | hd
      · exact hw.propagating r hd
      · rw [← List.mem_singleton.1 hd] at ht
        cases ht
    · exact (hw.subscribing i s erased hi).imp_left (List.mem_append_left _)
  | tick => exact ⟨hw.configured, hw.propagating, hw.reports, hw.subscribing⟩
  | @run t _ o ht _ _ h =>
    refine ⟨(Task.step_config h).trans hw.configured, fun r hd => ?_, fun i q msg hi hk => ?_,
      fun i s erased hi => ?_⟩
    · rcases mem_resume_tasks.1 hd with hd | hd
      · exact List.mem_append_left _ (hw.propagating r (List.mem_of_mem_erase hd))
      · exact List.mem_append_right _ (Task.step_propagate_logged h hd)
    · obtain ⟨j, _, hji, hj, r, hr, rfl⟩ :=
        exists_earlier_append (fun e => ∃ r, msg.report = some r ∧ e = .add .submit r .accepted) hi
          (fun hi => (hw.reports i q msg hi hk).elim fun r ⟨j, hr, hji, hj⟩ =>
            ⟨j, _, hji, hj, r, hr, rfl⟩)
          (fun he => by
            obtain ⟨r, rfl, hr⟩ := Task.step_sends_report h he hk
            exact ⟨_, hw.propagating r ht, r, hr, rfl⟩)
      exact ⟨r, j, hr, hji, hj⟩
    · simp only [resume] at hi ⊢
      rcases Nat.lt_or_ge i w.log.length with hlt | hge
      · rw [List.getElem?_append_left hlt] at hi
        rcases hw.subscribing i s erased hi with hsub | hsent
        · by_cases hts : t = .subscribe s
          · subst hts
            have hsend := subscribe_sends h
            rw [hw.configured] at hsend
            exact .inr fun p hp => exists_later_append hlt (hsend p hp)
          · exact .inl (mem_resume_tasks.2 (.inl ((List.mem_erase_of_ne (Ne.symm hts)).2 hsub)))
        · refine .inr fun p hp => ?_
          obtain ⟨j, hij, hj⟩ := hsent p hp
          exact ⟨j, hij, by rwa [List.getElem?_append_left (List.getElem?_eq_some_iff.1 hj).1]⟩
      · rw [List.getElem?_append_right hge] at hi
        exact .inl (mem_resume_tasks.2 (.inr (List.mem_append_right _
          (Task.step_empty_subscribes h (List.getElem?_mem hi)))))
  | fault => exact ⟨hw.configured, hw.propagating, hw.reports, hw.subscribing⟩

theorem Reachable.told {persisted : Option RegTable} (hw : Reachable config persisted w) :
    w.Told config := by
  induction hw with
  | refl => exact told_init persisted
  | tail _ hs ih => exact hs.told ih

end World

/-- **A node relays nothing it learned.** In every run, each report message the node sends a
peer carries a report that a local module submitted and the store accepted, earlier in the
run; a report learned from a peer is never propagated further. -/
theorem propagates_only_submitted {config : Config} {persisted : Option RegTable} {w : World}
    (hw : World.Reachable config persisted w) :
    ∀ (i : Nat) (q : String) (msg : LearnReportRequest), w.log[i]? = some (.send q msg) →
      msg.kind = .normal → ∃ (r : Report) (j : Nat), msg.report = some r ∧ j < i ∧
        w.log[j]? = some (.add .submit r .accepted) :=
  (World.Reachable.told hw).reports

/-- `b` subscribes to `s` at `a`; a local observer registers and submits a report about `s`,
which `a` propagates to `b`. -/
def subscribedThenSubmitted : List World.Choice :=
  [.run 0 [],
   .arrive (.learnReport ⟨some ⟨"b"⟩, .subscription, some ⟨"", "s", none⟩⟩), .run 1 [],
   .arrive (.register ⟨"m", "o"⟩), .run 1 [],
   .arrive (.submitReport ⟨10000, some ⟨"o", "s", some ⟨2⟩⟩⟩), .run 1 [], .run 1 [], .run 2 []]

theorem propagates_only_submitted_subscribed :
    ∃ w : World, World.Reachable nodeA none w ∧
      w.log[1]? = some (.send "b" (propagation "a" ⟨"o", "s", some ⟨2⟩⟩)) ∧
      ∃ (r : Report) (j : Nat), some ⟨"o", "s", some ⟨2⟩⟩ = some r ∧ j < 1 ∧
        w.log[j]? = some (.add .submit r .accepted) := by
  obtain ⟨w, hw, hi⟩ : ∃ w, World.Reachable nodeA none w ∧
      w.log[1]? = some (.send "b" (propagation "a" ⟨"o", "s", some ⟨2⟩⟩)) :=
    World.exists_of_exec subscribedThenSubmitted (by decide)
  exact ⟨w, hw, hi, propagates_only_submitted hw 1 "b" _ hi rfl⟩

/-- **A drain tells the peers.** In every run that has nothing left running but the `GC`
loop, each `Empty` of a drain of subject `s` is followed by a subscription notice about `s`
to every other configured peer. -/
theorem drain_subscribes {config : Config} {persisted : Option RegTable} {w : World}
    (hw : World.Reachable config persisted w) (hq : w.Quiescent) :
    ∀ (i : Nat) (s : String) (erased : List HoldItem), w.log[i]? = some (.empty s erased) →
      ∀ p ∈ config.others, ∃ j, i < j ∧
        w.log[j]? = some (.send p (notice config.id .subscription s)) := by
  intro i s erased hi
  refine ((World.Reachable.told hw).subscribing i s erased hi).resolve_left fun hsub => ?_
  cases hq.2 _ hsub

theorem drain_subscribes_heldThenSubmitted :
    ∃ w : World, World.Reachable nodeA none w ∧ w.Quiescent ∧
      w.log[4]? = some (.empty "s" [⟨0, 0, ⟨"p", "s", some ⟨1⟩⟩⟩]) ∧
      ∃ j, 4 < j ∧ w.log[j]? = some (.send "b" (notice "a" .subscription "s")) := by
  obtain ⟨w, hw, hq, hi⟩ : ∃ w, World.Reachable nodeA none w ∧ (w.Quiescent ∧
      w.log[4]? = some (.empty "s" [⟨0, 0, ⟨"p", "s", some ⟨1⟩⟩⟩])) :=
    World.exists_of_exec heldThenSubmitted (by decide)
  exact ⟨w, hw, hq, hi, drain_subscribes hw hq 4 "s" _ hi "b" (by decide)⟩

end Panorama
