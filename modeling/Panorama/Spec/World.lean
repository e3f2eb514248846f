import Panorama.Spec.Node

/-!
# Runs of a node

A run interleaves the node's tasks at their calls into components: requests arrive and start
their handlers, the clock advances, and any running task takes its next step, with any map
order for `Register` and any answer of `storage.GC`. A fault ends the process (`crashed`):
nothing steps after it. The log collects the events of every step, in order.

`World.exec` runs a script of such choices, so that particular interleavings can be
evaluated; `exec_run` says each script is a run, and `exists_of_exec` turns what a script's
last world is evaluated to satisfy into a fact about a reachable world. The scripted runs of
the proofs are runs of the node `nodeA`, and begin with the rest of `Start` (`.run 0 []`)
unless they say otherwise.
-/

namespace Panorama

/-- A node at some point of a run: its state, the events so far, the running tasks, and
whether a fault has ended the process. -/
structure World where
  node : Node
  log : List Event
  tasks : List Task
  crashed : Bool

namespace World

/-- The node once `Start` serves RPCs, with the rest of `Start` still to run, on the table
`persisted` of the database. -/
def init (config : Config) (persisted : Option RegTable) : World :=
  ⟨Node.new config, [], [.start persisted], false⟩

/-- The world after task `t` stepped with outcome `o`. -/
def resume (w : World) (t : Task) (o : Out) : World :=
  ⟨o.node, w.log ++ o.events, w.tasks.erase t ++ o.next.toList ++ o.spawned, false⟩

/-- The tasks running after a step: those running before but the one that stepped, its
continuation, and the goroutines it started. -/
theorem mem_resume_tasks {w : World} {t t' : Task} {o : Out} :
    t' ∈ (w.resume t o).tasks ↔ t' ∈ w.tasks.erase t ∨ t' ∈ o.next.toList ++ o.spawned := by
  simp only [resume, List.append_assoc, List.mem_append]

/-- One step of a run. -/
inductive Step : World → World → Prop
  /-- A request arrives and its handler starts. -/
  | arrive {w : World} (t : Task) (ht : t.isRequest) (hc : w.crashed = false) :
      Step w { w with tasks := w.tasks ++ [t] }
  /-- A second passes. -/
  | tick {w : World} (hc : w.crashed = false) :
      Step w { w with node := { w.node with now := w.node.now + 1 } }
  /-- A running task takes its next step. -/
  | run {w : World} {t : Task} {env : Env} {o : Out} (ht : t ∈ w.tasks)
      (horder : env.order.Perm w.node.reg.registrations.entries) (hc : w.crashed = false)
      (h : t.step env w.node = .ok o) : Step w (w.resume t o)
  /-- A running task faults, and the process ends. -/
  | fault {w : World} {t : Task} {env : Env} {e : Fault} (ht : t ∈ w.tasks)
      (horder : env.order.Perm w.node.reg.registrations.entries) (hc : w.crashed = false)
      (h : t.step env w.node = .error e) : Step w { w with crashed := true }

/-- The worlds a run from `Start` reaches. -/
def Reachable (config : Config) (persisted : Option RegTable) (w : World) : Prop :=
  Relation.ReflTransGen Step (init config persisted) w

/-- Nothing is running but the `GC` loop, at its head. -/
def Quiescent (w : World) : Prop := w.crashed = false ∧ ∀ t ∈ w.tasks, t = .gcLoop

instance : DecidablePred Quiescent := fun w =>
  inferInstanceAs (Decidable (w.crashed = false ∧ ∀ t ∈ w.tasks, t = .gcLoop))

/-- A choice of a scripted run. `run i retired` steps the `i`-th task, with `Register`
visiting the map in its entries' order and `storage.GC` answering `retired`. -/
inductive Choice where
  | arrive (t : Task)
  | tick
  | run (i : Nat) (retired : List (String × Nat))

/-- One scripted choice, `none` when it is not a step. -/
def choose (w : World) : Choice → Option World
  | .arrive t => if t.isRequest ∧ w.crashed = false then some { w with tasks := w.tasks ++ [t] }
    else none
  | .tick => if w.crashed = false then some { w with node := { w.node with now := w.node.now + 1 } }
    else none
  | .run i retired =>
    match w.crashed, w.tasks[i]? with
    | false, some t =>
      match t.step ⟨w.node.reg.registrations.entries, retired⟩ w.node with
      | .ok o => some (w.resume t o)
      | .error _ => some { w with crashed := true }
    | _, _ => none

/-- A scripted run. -/
def exec (w : World) : List Choice → Option World
  | [] => some w
  | c :: cs => (w.choose c).bind (·.exec cs)

theorem choose_step {w w' : World} {c : Choice} (h : w.choose c = some w') : Step w w' := by
  cases c with
  | arrive t =>
    simp only [choose] at h
    split at h
    · rename_i hc
      cases h
      exact .arrive t (by simpa using hc.1) (by simpa using hc.2)
    · cases h
  | tick =>
    simp only [choose] at h
    split at h
    · rename_i hc
      cases h
      exact .tick (by simpa using hc)
    · cases h
  | run i retired =>
    cases hc : w.crashed
    · cases ht : w.tasks[i]? with
      | none => simp [choose, hc, ht] at h
      | some t =>
        have hmem : t ∈ w.tasks := List.getElem?_mem ht
        cases ho : t.step ⟨w.node.reg.registrations.entries, retired⟩ w.node with
        | error e =>
          simp only [choose, hc, ht, ho, Option.some.injEq] at h
          exact h ▸ .fault hmem (List.Perm.refl _) hc ho
        | ok o =>
          simp only [choose, hc, ht, ho, Option.some.injEq] at h
          exact h ▸ .run hmem (List.Perm.refl _) hc ho
    · simp [choose, hc] at h

/-- A scripted run is a run. -/
theorem exec_run {w w' : World} {cs : List Choice} (h : w.exec cs = some w') :
    Relation.ReflTransGen Step w w' := by
  induction cs generalizing w with
  | nil => cases h; exact .refl
  | cons c cs ih =>
    simp only [exec, Option.bind_eq_some] at h
    obtain ⟨w₁, h₁, h₂⟩ := h
    exact .head (choose_step h₁) (ih h₂)

/-- What a scripted run from `Start` ends in holds of a reachable world. -/
theorem exists_of_exec {config : Config} {persisted : Option RegTable} {P : World → Prop}
    [DecidablePred P] (cs : List Choice)
    (h : ((init config persisted).exec cs).any (fun w => decide (P w)) = true) :
    ∃ w, Reachable config persisted w ∧ P w := by
  cases hw : (init config persisted).exec cs with
  | none => simp [hw] at h
  | some w => exact ⟨w, exec_run hw, by simpa [hw] using h⟩

end World

/-- A node `a` with peer `b`, watching nothing, filtering the reports it learns, with `GC`
at its default frequency, and a store that checks a report's fields first: the node of the
scripted runs. -/
def nodeA : Config := ⟨"a", ["a", "b"], [], true, 180, 60, ⟨true, 0, 0, true⟩, true⟩

end Panorama
