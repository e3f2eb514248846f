import Panorama.Proof.Inference

/-!
# The hold buffer and its drain

`AnalyzeReport(r, true)` drains the hold buffer in three separate calls: `Get(r.Subject)`,
one `AddReport` per entry it got, then `Empty(r.Subject)`. Each call takes the buffer's own
lock, but nothing holds a lock across them, so other goroutines interleave:

* two drains of one subject that both `Get` before either `Empty`s re-add the same entries
  twice;
* an entry `LearnReport` holds between a drain's `Get` and its `Empty` is erased without
  ever being re-added, although it has neither expired nor been evicted.

`drain_race` exhibits both, as runs of the node from `Start`. What a drain does re-add is
always an entry put on hold earlier in the run (`drain_readds_only_held`), because every
entry of the buffer and every entry a running drain still holds was logged by its `Set`; and
every `Set` follows the store ignoring a report a peer sent (`held_reports_were_ignored`).
Both follow from one invariant of every run, `World.Held`. Whether the drain's unfiltered
re-add can fail depends on the order of the store's two checks, which the spec leaves open
(`drain_readds_accepted`). A store that checks a report's fields first ignores only well
formed reports, and accepts each of them unfiltered: the drain's error branch is dead. A store
that checks the watch list first also ignores, and so holds, a malformed report about a
subject it does not watch, and the drain's re-add of it fails.
-/

namespace Panorama

/-- The hold-buffer entry an event re-adds, when it is a drain's `AddReport`. -/
def Event.drained : Event → Option Nat
  | .add (.drain id) _ _ => some id
  | _ => none

/-- Two `SubmitReport`s about `s` after `b`'s report about `s` was held: both drains `Get`
the held entry before either re-adds it. -/
def twoDrains : List World.Choice :=
  [.run 0 [],
   .arrive (.learnReport ⟨some ⟨"b"⟩, .normal, some ⟨"p", "s", some ⟨1⟩⟩⟩), .run 1 [], .run 1 [],
   .arrive (.register ⟨"m", "o"⟩), .run 1 [],
   .arrive (.submitReport ⟨10000, some ⟨"o", "s", some ⟨2⟩⟩⟩), .run 1 [], .run 1 [],
   .arrive (.submitReport ⟨10000, some ⟨"o", "s", some ⟨3⟩⟩⟩), .run 3 [], .run 3 [],
   .run 1 [], .run 2 [], .run 3 [], .run 3 []]

/-- A drain `Get`s `b`'s held report about `s`; `b` sends a second report about `s`, which is
held; the drain re-adds the first and `Empty`s both; every goroutine runs to its end. -/
def holdDuringDrain : List World.Choice :=
  [.run 0 [],
   .arrive (.learnReport ⟨some ⟨"b"⟩, .normal, some ⟨"p", "s", some ⟨1⟩⟩⟩), .run 1 [], .run 1 [],
   .arrive (.register ⟨"m", "o"⟩), .run 1 [],
   .arrive (.submitReport ⟨10000, some ⟨"o", "s", some ⟨2⟩⟩⟩), .run 1 [], .run 1 [],
   .run 1 [],
   .arrive (.learnReport ⟨some ⟨"b"⟩, .normal, some ⟨"q", "s", some ⟨4⟩⟩⟩), .run 3 [], .run 3 [],
   .run 2 [], .run 2 [], .run 1 [], .run 1 [], .run 1 []]

/-- **The drain is neither at-most-once nor loss-free.** Some run re-adds a held report twice
by drains; some complete run erases, with `Empty`, a held report that is alive and was never
re-added by a drain. -/
theorem drain_race :
    (∃ (w : World) (it : HoldItem), World.Reachable nodeA none w ∧ .hold it ∈ w.log ∧
      2 ≤ w.log.countP (fun e => e.drained = some it.id)) ∧
    (∃ (w : World) (it : HoldItem), World.Reachable nodeA none w ∧ w.Quiescent ∧
      .hold it ∈ w.log ∧ (∃ erased, .empty it.report.subject erased ∈ w.log ∧ it ∈ erased) ∧
      w.node.hold.Alive w.node.now it ∧ ∀ e ∈ w.log, e.drained ≠ some it.id) := by
  constructor
  · obtain ⟨w, hw, hp⟩ : ∃ w, World.Reachable nodeA none w ∧
        (Event.hold ⟨0, 0, ⟨"p", "s", some ⟨1⟩⟩⟩ ∈ w.log ∧
          2 ≤ w.log.countP (fun e => e.drained = some 0)) :=
      World.exists_of_exec twoDrains (by decide)
    exact ⟨w, _, hw, hp⟩
  · obtain ⟨w, hw, hq, hh, he, ha, hn⟩ : ∃ w, World.Reachable nodeA none w ∧
        (w.Quiescent ∧ Event.hold ⟨1, 0, ⟨"q", "s", some ⟨4⟩⟩⟩ ∈ w.log ∧
          Event.empty "s" [⟨0, 0, ⟨"p", "s", some ⟨1⟩⟩⟩, ⟨1, 0, ⟨"q", "s", some ⟨4⟩⟩⟩] ∈ w.log ∧
          w.node.hold.Alive w.node.now ⟨1, 0, ⟨"q", "s", some ⟨4⟩⟩⟩ ∧
          ∀ e ∈ w.log, e.drained ≠ some 1) :=
      World.exists_of_exec holdDuringDrain (by decide)
    exact ⟨w, _, hw, hq, hh, ⟨_, he, by simp⟩, ha, hn⟩

/-! ## What a drain re-adds -/

section Logged

variable {env : Env} {n : Node} {t : Task} {o : Out} {log : List Event}

/-- A step keeps every hold-buffer entry logged: the entry a `Set` adds is logged by that
very step. -/
theorem Task.step_buffer_logged (h : t.step env n = .ok o)
    (hb : ∀ k, ∀ it ∈ n.hold.lists k, Event.hold it ∈ log) :
    ∀ k, ∀ it ∈ o.node.hold.lists k, Event.hold it ∈ log ++ o.events := by
  intro k it hit
  rcases Task.step_hold h with hh | ⟨r, err, rfl, hh⟩ | ⟨r, rfl, hh⟩ <;> rw [hh] at hit
  · exact List.mem_append_left _ (hb k it hit)
  · rcases CacheList.mem_set hit with ⟨-, rfl | hit⟩ | ⟨-, hit⟩
    · simp only [Task.step, Except.ok.injEq] at h
      subst h
      simp
    · exact List.mem_append_left _ (hb _ it hit)
    · exact List.mem_append_left _ (hb _ it hit)
  · exact List.mem_append_left _ (hb k it (CacheList.mem_empty hit).2)

/-- A drain a step starts takes its entries from the buffer, and one it continues from the
drain that stepped. -/
theorem Task.step_drain_logged (h : t.step env n = .ok o)
    (hb : ∀ k, ∀ it ∈ n.hold.lists k, Event.hold it ∈ log)
    (ht : ∀ r items, t = .drain r items → ∀ it ∈ items, Event.hold it ∈ log)
    {r : Report} {items : List HoldItem} (hd : Task.drain r items ∈ o.next.toList ++ o.spawned) :
    ∀ it ∈ items, Event.hold it ∈ log := by
  intro it hit
  rcases Task.step_drain h hd with ⟨-, rfl⟩ | ⟨it', rfl⟩
  · exact hb _ it (CacheList.mem_get hit)
  · exact ht r _ rfl it (.tail _ hit)

/-- A drain's re-add names an entry logged before the step. -/
theorem Task.step_readd_logged (h : t.step env n = .ok o)
    (ht : ∀ r items, t = .drain r items → ∀ it ∈ items, Event.hold it ∈ log)
    {id : Nat} {x : Report} {rc : Rc} (he : Event.add (.drain id) x rc ∈ o.events) :
    ∃ time, Event.hold ⟨id, time, x⟩ ∈ log := by
  obtain ⟨r, it, rest, rfl, rfl, rfl, -⟩ := Task.step_readd h he
  exact ⟨it.time, ht r _ rfl it (.head _)⟩

/-- A step that continues as `LearnReport`'s `Set` logged the store ignoring that report. -/
theorem Task.step_learnHold_logged (h : t.step env n = .ok o) {r : Report}
    {err : Option String} (hd : Task.learnHold r err ∈ o.next.toList ++ o.spawned) :
    Event.add .learn r .ignored ∈ o.events := by
  revert hd
  apply Task.step_cases h
  case gcLoop => split <;> simp
  all_goals intros; simp_all

/-- Only `LearnReport`'s `Set` logs a hold, of its own report. -/
theorem Task.step_logs_hold (h : t.step env n = .ok o) {it : HoldItem}
    (he : Event.hold it ∈ o.events) : ∃ err, t = .learnHold it.report err := by
  revert he
  apply Task.step_cases h
  all_goals intros; simp_all

/-- Only `LearnReport` logs `AddReport` ignoring a report, since `AddReport(r, false)` ignores
nothing; with a store that checks a report's fields first, it is a report every store
accepts unfiltered. -/
theorem Task.step_ignored (hs : n.store.shapeFirst = true) (h : t.step env n = .ok o)
    {c : Caller} {r : Report} (he : Event.add c r .ignored ∈ o.events) (st : Store) :
    (st.addReport r false).1 = .accepted := by
  revert he
  apply Task.step_cases h
  case submitIgnored =>
    exact fun r' _ hrc => absurd hrc (Store.addReport_unfiltered_ne_ignored _ _)
  case learnIgnored =>
    intro _ r' hrc he
    simp only [List.mem_singleton, Event.add.injEq] at he
    exact he.2.1 ▸ Store.addReport_accepted_of_ignored hs hrc
  case drainReadd =>
    intro _ it _ he
    simp only [List.mem_singleton, Event.add.injEq] at he
    exact absurd he.2.2.symm (Store.addReport_unfiltered_ne_ignored _ _)
  all_goals intros; simp_all

theorem Task.step_shapeFirst (h : t.step env n = .ok o) :
    o.node.store.shapeFirst = n.store.shapeFirst := by
  apply Task.step_cases h
  all_goals intros; simp

end Logged

/-- An event of a log grown by `es` has an earlier event satisfying `Q` when it had one in
the old log, or is new and some event of the old log satisfies `Q`. -/
theorem exists_earlier_append (Q : Event → Prop) {log es : List Event} {i : Nat} {e : Event}
    (hi : (log ++ es)[i]? = some e)
    (hold : log[i]? = some e → ∃ j e', j < i ∧ log[j]? = some e' ∧ Q e')
    (hnew : e ∈ es → ∃ e' ∈ log, Q e') :
    ∃ j e', j < i ∧ (log ++ es)[j]? = some e' ∧ Q e' := by
  rcases Nat.lt_or_ge i log.length with hlt | hge
  · rw [List.getElem?_append_left hlt] at hi
    obtain ⟨j, e', hji, hj, hq⟩ := hold hi
    exact ⟨j, e', hji, by rwa [List.getElem?_append_left (by omega)], hq⟩
  · rw [List.getElem?_append_right hge] at hi
    obtain ⟨e', he', hq⟩ := hnew (List.getElem?_mem hi)
    obtain ⟨j, hj⟩ := List.mem_iff_getElem?.1 he'
    obtain ⟨hjl, -⟩ := List.getElem?_eq_some_iff.1 hj
    exact ⟨j, e', by omega, by rwa [List.getElem?_append_left hjl], hq⟩

namespace World

/-- Where held reports come from. Every entry of the hold buffer, and every entry a running
drain has still to re-add, was put on hold earlier in the run, and every drain re-add of the
log follows the `Set` of its entry; every `Set`, and every `LearnReport` about to make one,
follows the store ignoring the learned report. -/
structure Held (w : World) : Prop where
  buffer : ∀ k, ∀ it ∈ w.node.hold.lists k, Event.hold it ∈ w.log
  drains : ∀ r items, Task.drain r items ∈ w.tasks → ∀ it ∈ items, Event.hold it ∈ w.log
  readds : ∀ (i id : Nat) (x : Report) (rc : Rc), w.log[i]? = some (.add (.drain id) x rc) →
    ∃ j time : Nat, j < i ∧ w.log[j]? = some (.hold ⟨id, time, x⟩)
  learned : ∀ r err, Task.learnHold r err ∈ w.tasks → Event.add .learn r .ignored ∈ w.log
  holds : ∀ (i : Nat) (it : HoldItem), w.log[i]? = some (.hold it) →
    ∃ j, j < i ∧ w.log[j]? = some (.add .learn it.report .ignored)

variable {w w' : World}

theorem held_init (config : Config) (persisted : Option RegTable) :
    (init config persisted).Held where
  buffer := by
    simp only [init, Node.new]
    split <;> simp
  drains := by simp [init]
  readds := by simp [init]
  learned := by simp [init]
  holds := by simp [init]

theorem Step.held (hs : Step w w') (hw : w.Held) : w'.Held := by
  cases hs with
  | @arrive t ht _ =>
    have hold {t' : Task} (h' : t' ∈ w.tasks ++ [t]) (hr : t'.isRequest = false) :
        t' ∈ w.tasks := by
      rcases List.mem_append.1 h' with h' | h'
      · exact h'
      · rw [List.mem_singleton.1 h', ht] at hr
        cases hr
    exact ⟨hw.buffer, fun r items hd => hw.drains r items (hold hd rfl), hw.readds,
      fun r err hd => hw.learned r err (hold hd rfl), hw.holds⟩
  | tick => exact ⟨hw.buffer, hw.drains, hw.readds, hw.learned, hw.holds⟩
  | @run t _ o ht _ _ h =>
    have htl : ∀ r items, t = .drain r items → ∀ it ∈ items, Event.hold it ∈ w.log := by
      rintro r items rfl
      exact hw.drains r items ht
    have hnew {t' : Task} (h' : t' ∈ (w.resume t o).tasks) :
        t' ∈ w.tasks ∨ t' ∈ o.next.toList ++ o.spawned :=
      (mem_resume_tasks.1 h').imp_left List.mem_of_mem_erase
    refine ⟨Task.step_buffer_logged h hw.buffer, fun r items hd it hit => ?_,
      fun i id x rc hi => ?_, fun r err hd => ?_, fun i it hi => ?_⟩
    · refine List.mem_append_left _ ?_
      rcases hnew hd with hd | hd
      · exact hw.drains r items hd it hit
      · exact Task.step_drain_logged h hw.buffer htl hd it hit
    · obtain ⟨j, _, hji, hj, time, rfl⟩ :=
        exists_earlier_append (fun e => ∃ time, e = .hold ⟨id, time, x⟩) hi
          (fun hi => (hw.readds i id x rc hi).imp fun j ⟨time, hji, hj⟩ => ⟨_, hji, hj, time, rfl⟩)
          (fun he => by
            obtain ⟨time, hh⟩ := Task.step_readd_logged h htl he
            exact ⟨_, hh, time, rfl⟩)
      exact ⟨j, time, hji, hj⟩
    · rcases hnew hd with hd | hd
      · exact List.mem_append_left _ (hw.learned r err hd)
      · exact List.mem_append_right _ (Task.step_learnHold_logged h hd)
    · obtain ⟨j, _, hji, hj, rfl⟩ :=
        exists_earlier_append (· = .add .learn it.report .ignored) hi
          (fun hi => (hw.holds i it hi).imp fun j ⟨hji, hj⟩ => ⟨_, hji, hj, rfl⟩)
          (fun he => by
            obtain ⟨err, rfl⟩ := Task.step_logs_hold h he
            exact ⟨_, hw.learned _ err ht, rfl⟩)
      exact ⟨j, hji, hj⟩
  | fault => exact ⟨hw.buffer, hw.drains, hw.readds, hw.learned, hw.holds⟩

theorem Reachable.held {config : Config} {persisted : Option RegTable}
    (hw : Reachable config persisted w) : w.Held := by
  induction hw with
  | refl => exact held_init config persisted
  | tail _ hs ih => exact hs.held ih

end World

/-- **Drains re-add only held reports.** In every run, each report a drain passes to
`AddReport` was put on hold earlier in the run, as the entry the drain names. -/
theorem drain_readds_only_held {config : Config} {persisted : Option RegTable} {w : World}
    (hw : World.Reachable config persisted w) :
    ∀ (i id : Nat) (x : Report) (rc : Rc), w.log[i]? = some (.add (.drain id) x rc) →
      ∃ j time : Nat, j < i ∧ w.log[j]? = some (.hold ⟨id, time, x⟩) :=
  (World.Reachable.held hw).readds

theorem drain_readds_only_held_twoDrains :
    ∃ w : World, World.Reachable nodeA none w ∧
      w.log[5]? = some (.add (.drain 0) ⟨"p", "s", some ⟨1⟩⟩ .accepted) ∧
      ∃ j time, j < 5 ∧ w.log[j]? = some (.hold ⟨0, time, ⟨"p", "s", some ⟨1⟩⟩⟩) := by
  obtain ⟨w, hw, hi⟩ : ∃ w, World.Reachable nodeA none w ∧
      w.log[5]? = some (.add (.drain 0) ⟨"p", "s", some ⟨1⟩⟩ .accepted) :=
    World.exists_of_exec twoDrains (by decide)
  exact ⟨w, hw, hi, drain_readds_only_held hw 5 0 _ _ hi⟩

/-- **The hold buffer holds only reports the store ignored.** In every run, each `Set` of the
hold buffer follows a `LearnReport` whose report the store ignored: the buffer keeps the
reports peers send about subjects the node does not watch, and nothing else. -/
theorem held_reports_were_ignored {config : Config} {persisted : Option RegTable} {w : World}
    (hw : World.Reachable config persisted w) :
    ∀ (i : Nat) (it : HoldItem), w.log[i]? = some (.hold it) →
      ∃ j, j < i ∧ w.log[j]? = some (.add .learn it.report .ignored) :=
  (World.Reachable.held hw).holds

theorem held_reports_were_ignored_twoDrains :
    ∃ w : World, World.Reachable nodeA none w ∧
      w.log[1]? = some (.hold ⟨0, 0, ⟨"p", "s", some ⟨1⟩⟩⟩) ∧
      ∃ j, j < 1 ∧ w.log[j]? = some (.add .learn ⟨"p", "s", some ⟨1⟩⟩ .ignored) := by
  obtain ⟨w, hw, hi⟩ : ∃ w, World.Reachable nodeA none w ∧
      w.log[1]? = some (.hold ⟨0, 0, ⟨"p", "s", some ⟨1⟩⟩⟩) :=
    World.exists_of_exec twoDrains (by decide)
  exact ⟨w, hw, hi, held_reports_were_ignored hw 1 _ hi⟩

/-! ## What a drain's re-add answers -/

namespace World

/-- Every report the log shows the store ignoring is one every store accepts unfiltered, and
every drain re-add of the log was accepted. -/
structure Readded (w : World) : Prop where
  ignored : ∀ c r, Event.add c r .ignored ∈ w.log →
    ∀ st : Store, (st.addReport r false).1 = .accepted
  readds : ∀ id x rc, Event.add (.drain id) x rc ∈ w.log → rc = .accepted

variable {w w' : World}

theorem Step.readded (hs : Step w w') (hshape : w.node.store.shapeFirst = true)
    (hheld : w.Held) (hw : w.Readded) : w'.Readded := by
  cases hs with
  | @run t _ o ht _ _ h =>
    refine ⟨fun c r he => ?_, fun id x rc he => ?_⟩ <;> rcases List.mem_append.1 he with he | he
    · exact hw.ignored c r he
    · exact Task.step_ignored hshape h he
    · exact hw.readds id x rc he
    · obtain ⟨r, it, rest, rfl, -, rfl, rfl⟩ := Task.step_readd h he
      obtain ⟨j, hj⟩ := List.mem_iff_getElem?.1 (hheld.drains r _ ht it (.head _))
      obtain ⟨k, -, hk⟩ := hheld.holds j it hj
      exact hw.ignored _ _ (List.getElem?_mem hk) w.node.store
  | _ => exact ⟨hw.ignored, hw.readds⟩

theorem Reachable.shapeFirst {config : Config} {persisted : Option RegTable}
    (hw : Reachable config persisted w) : w.node.store.shapeFirst = config.shapeFirst := by
  induction hw with
  | refl => rfl
  | tail _ hs ih =>
    cases hs with
    | run _ _ _ h => exact (Task.step_shapeFirst h).trans ih
    | _ => exact ih

theorem Reachable.readded {config : Config} {persisted : Option RegTable}
    (hshape : config.shapeFirst = true) (hw : Reachable config persisted w) : w.Readded := by
  induction hw with
  | refl => exact ⟨fun _ _ he => absurd he (List.not_mem_nil _),
      fun _ _ _ he => absurd he (List.not_mem_nil _)⟩
  | tail hr hs ih =>
    exact hs.readded ((Reachable.shapeFirst hr).trans hshape) (Reachable.held hr) ih

end World

/-- `b` sends a report about `s` with no observation, which `a`, checking its watch list
first, ignores and holds; a local observer registers and submits a report about `s`, whose
drain re-adds the held one. -/
def malformedHeld : List World.Choice :=
  [.run 0 [],
   .arrive (.learnReport ⟨some ⟨"b"⟩, .normal, some ⟨"p", "s", none⟩⟩), .run 1 [], .run 1 [],
   .arrive (.register ⟨"m", "o"⟩), .run 1 [],
   .arrive (.submitReport ⟨10000, some ⟨"o", "s", some ⟨2⟩⟩⟩), .run 1 [], .run 1 [],
   .run 1 [], .run 2 []]

/-- **A drain's re-add fails only for a store that checks the watch list first.** In every run
of a node whose store checks a report's fields before its watch list, each
`AddReport(r, false)` of `AnalyzeReport`'s drain answers `REPORT_ACCEPTED`: the report was put
on hold because the store ignored it, so it is well formed, and without the filter the store
accepts every well formed report. With the other order, a run of `nodeA` holds a report with
no observation and its drain's re-add fails. -/
theorem drain_readds_accepted :
    (∀ (config : Config) (persisted : Option RegTable) (w : World),
      config.shapeFirst = true → World.Reachable config persisted w →
        ∀ (id : Nat) (x : Report) (rc : Rc), Event.add (.drain id) x rc ∈ w.log →
          rc = .accepted) ∧
    ∃ w : World, World.Reachable { nodeA with shapeFirst := false } none w ∧
      w.log[3]? = some (.add (.drain 0) ⟨"p", "s", none⟩ .failed) :=
  ⟨fun _ _ _ hshape hw => (World.Reachable.readded hshape hw).readds,
    World.exists_of_exec malformedHeld (by decide)⟩

theorem drain_readds_accepted_twoDrains :
    ∃ w : World, nodeA.shapeFirst = true ∧ World.Reachable nodeA none w ∧
      (∃ rc, Event.add (.drain 0) ⟨"p", "s", some ⟨1⟩⟩ rc ∈ w.log) ∧
      ∀ rc, Event.add (.drain 0) ⟨"p", "s", some ⟨1⟩⟩ rc ∈ w.log → rc = .accepted := by
  obtain ⟨w, hw, hi⟩ : ∃ w, World.Reachable nodeA none w ∧
      w.log[5]? = some (.add (.drain 0) ⟨"p", "s", some ⟨1⟩⟩ .accepted) :=
    World.exists_of_exec twoDrains (by decide)
  exact ⟨w, rfl, hw, ⟨_, List.getElem?_mem hi⟩, drain_readds_accepted.1 nodeA none w rfl hw 0 _⟩

end Panorama
