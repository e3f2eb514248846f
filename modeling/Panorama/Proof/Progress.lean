import Mathlib.Algebra.BigOperators.Group.List
import Mathlib.Algebra.Order.Ring.Nat
import Panorama.Proof.Tasks

/-!
# The running tasks finish

Every handler and goroutine of service.go but the `GC` loop ends after a bounded number of
its own steps, and so do the goroutines it starts: a drain re-adds at most as many entries
as the hold buffer's length bound allows. `Task.weight` bounds what a task and its
goroutines still have to do; each step of a task other than the `GC` loop lowers the sum of
the weights (`Task.step_weight`).

* `work_runs_end`: from every state of every run, every run of the tasks already running
  but the `GC` loop, with no request arriving, is finite; where it stops, nothing runs but the
  `GC` loop, unless the process has crashed or a running task is about to fault.
-/

namespace Panorama

/-- A bound on the steps a task and the goroutines it starts have still to take, when the
hold buffer holds at most `m` entries per subject. -/
def Task.weight (m : Nat) : Task → Nat
  | .register _ => 1
  | .submitReport _ => m + 7
  | .submitAdd _ => m + 6
  | .learnReport _ => m + 6
  | .learnHold _ _ => 1
  | .learnInterested _ _ _ => m + 5
  | .observe _ | .stopObserving _ => 2
  | .analyzeReport _ _ => m + 4
  | .drain _ items => items.length + 3
  | .inferReport _ => 1
  | .gcLoop => 0
  | .gcInfer subjects => subjects.length + 1
  | .subscribe _ | .unsubscribe _ | .propagate _ => 1
  | .start _ => 1

variable {env : Env} {n : Node} {t : Task} {o : Out}

/-- **Each step of a task but the `GC` loop lowers the weight left.** -/
theorem Task.step_weight (hb : n.hold.Bounded) (hne : t ≠ .gcLoop) (h : t.step env n = .ok o) :
    ((o.next.toList ++ o.spawned).map (Task.weight n.hold.maxLen)).sum <
      t.weight n.hold.maxLen := by
  have hget (r : Report) : (n.hold.get n.now r.subject).length ≤ n.hold.maxLen :=
    (List.length_filter_le _ _).trans (hb _)
  revert hne
  apply Task.step_cases h
  case gcLoop => exact fun hne => absurd rfl hne
  case analyzeHeld => intro r _ _; have := hget r; simp [Task.weight]; omega
  case start => intro _ _; split <;> simp [Task.weight]
  all_goals intros; simp [Task.weight]

namespace World

/-- What the running tasks have still to do. -/
def work (w : World) : Nat := (w.tasks.map (Task.weight w.node.hold.maxLen)).sum

variable {w w' : World}

theorem work_resume (hb : w.node.hold.Bounded) (ht : t ∈ w.tasks) (hne : t ≠ .gcLoop)
    (h : t.step env w.node = .ok o) : (w.resume t o).work < w.work := by
  have hm := (Task.step_bounded hb h).2
  have hperm := ((List.perm_cons_erase ht).map (Task.weight w.node.hold.maxLen)).sum_eq
  have hlt := Task.step_weight hb hne h
  simp only [List.map_append, List.sum_append] at hlt
  simp only [work, resume, hm, List.map_append, List.sum_append, List.append_assoc]
  simp only [List.map_cons, List.sum_cons] at hperm
  omega

/-- A step of a task already running, other than the `GC` loop: no request arrives, the
clock stands still, and nothing faults. -/
def WorkStep (w w' : World) : Prop :=
  w.crashed = false ∧ ∃ t ∈ w.tasks, t ≠ .gcLoop ∧ ∃ (env : Env) (o : Out),
    env.order.Perm w.node.reg.registrations.entries ∧ t.step env w.node = .ok o ∧
      w' = w.resume t o

theorem WorkStep.step (h : WorkStep w w') : Step w w' := by
  obtain ⟨hc, t, ht, -, env, o, horder, hs, rfl⟩ := h
  exact .run ht horder hc hs

end World

/-- **The running tasks finish.** From every state of every run, every run of the tasks
already running but the `GC` loop, with no request arriving, is finite. A state where no
such step is left has nothing running but the `GC` loop, unless the process has crashed or a
running task is about to fault; as every state such a run reaches is a state of a run, this
is where each of them stops. -/
theorem work_runs_end {config : Config} {persisted : Option RegTable} {w : World}
    (hw : World.Reachable config persisted w) :
    Acc (fun b a => World.WorkStep a b) w ∧
      ((∀ w', ¬World.WorkStep w w') → w.Quiescent ∨ w.crashed = true ∨
        ∃ t ∈ w.tasks, ∃ (env : Env) (e : Fault),
          env.order.Perm w.node.reg.registrations.entries ∧ t.step env w.node = .error e) := by
  constructor
  · obtain ⟨k, hk⟩ : ∃ k, w.work = k := ⟨_, rfl⟩
    induction k using Nat.strong_induction_on generalizing w with
    | _ k ih =>
      refine Acc.intro w fun w' hs => ?_
      have hw' := hw.tail hs.step
      obtain ⟨-, t, ht, hne, env, o, -, h, rfl⟩ := hs
      exact ih _ (hk ▸ World.work_resume (World.Reachable.bounded hw).1 ht hne h) hw' rfl
  · intro hend
    cases hc : w.crashed
    · by_cases hq : ∀ t ∈ w.tasks, t = .gcLoop
      · exact .inl ⟨hc, hq⟩
      push_neg at hq
      obtain ⟨t, ht, hne⟩ := hq
      cases hs : t.step ⟨w.node.reg.registrations.entries, []⟩ w.node with
      | error e => exact .inr (.inr ⟨t, ht, _, e, List.Perm.refl _, hs⟩)
      | ok o => exact absurd ⟨hc, t, ht, hne, _, o, List.Perm.refl _, hs, rfl⟩ (hend _)
    · exact .inr (.inl rfl)

/-- `b` sends a report about `s`, which `a` holds; a local observer registers and submits a
report about `s`, whose `AnalyzeReport` drains the held one back into the store; then `GC`
retires observations of `s`. Every goroutine runs to its end. -/
def heldThenSubmitted : List World.Choice :=
  [.run 0 [],
   .arrive (.learnReport ⟨some ⟨"b"⟩, .normal, some ⟨"p", "s", some ⟨1⟩⟩⟩), .run 1 [], .run 1 [],
   .arrive (.register ⟨"m", "o"⟩), .run 1 [],
   .arrive (.submitReport ⟨10000, some ⟨"o", "s", some ⟨2⟩⟩⟩), .run 1 [], .run 1 [],
   .run 1 [], .run 2 [], .run 2 [], .run 2 [], .run 1 [], .run 1 [],
   .tick, .run 0 [("s", 2)], .run 0 [], .run 0 []]

/-- Midway through `heldThenSubmitted`, four tasks run. -/
theorem work_runs_end_heldThenSubmitted :
    ∃ w : World, World.Reachable nodeA none w ∧ w.tasks.length = 4 ∧
      Acc (fun b a => World.WorkStep a b) w ∧
      ((∀ w', ¬World.WorkStep w w') → w.Quiescent ∨ w.crashed = true ∨
        ∃ t ∈ w.tasks, ∃ (env : Env) (e : Fault),
          env.order.Perm w.node.reg.registrations.entries ∧ t.step env w.node = .error e) := by
  obtain ⟨w, hw, hl⟩ : ∃ w, World.Reachable nodeA none w ∧ w.tasks.length = 4 :=
    World.exists_of_exec (heldThenSubmitted.take 12) (by decide)
  exact ⟨w, hw, hl, work_runs_end hw⟩

end Panorama
