import Panorama.Proof.Tasks

/-!
# The node's registry refines the registry model

The results about handles (`Proof/Handles`, `Proof/Recovery`) are stated over the registry
alone: its states from `NewHealthGServer`, under `Register` and `SubmitReport`'s handle check,
each serialized by `regMu` (`Registry.Step`), before and after `Start`'s load
(`Registry.Reachable`). In the node, these calls interleave with every other handler and
goroutine, and the load is a step of the rest of `Start`. Only `Register` and the handle
check touch the registry otherwise, each by one step of the registry model
(`Task.step_reg`), and the rest of `Start` runs once, so the registry of every state of every
run of the node is a state of the registry model (`node_registry_reachable`): every result
about `Registry.Reachable` holds of the whole node.
-/

namespace Panorama

variable {env : Env} {n : Node} {t : Task} {o : Out}

/-- Only `Register`, the handle check of `SubmitReport` and the rest of `Start` change the
registry: the first two by one step of the registry model, the last by `Start`'s load. -/
theorem Task.step_reg (h : t.step env n = .ok o)
    (horder : env.order.Perm n.reg.registrations.entries) :
    o.node.reg = n.reg ∨ Registry.Step n.reg o.node.reg ∨
      ∃ p, t = .start p ∧ o.node.reg = n.reg.load p := by
  apply Task.step_cases h
  case registerFresh =>
    intro req mx _ hscan
    have hs := Registry.Step.register req n.now horder
    rw [Registry.register_fresh hscan] at hs
    exact .inr (.inl hs)
  case submitInvalid => exact fun req _ _ hc => .inr (.inl (.submit _ _ hc))
  case submitLive => exact fun req _ hc => .inr (.inl (.submit _ _ hc))
  case submitRestored => exact fun req _ _ hc => .inr (.inl (.submit _ _ hc))
  case start => exact fun p => .inr (.inr ⟨p, rfl, rfl⟩)
  all_goals intros; exact .inl rfl

/-- No step continues as, or starts, the rest of `Start`. -/
theorem Task.step_not_start (h : t.step env n = .ok o) (p : Option RegTable) :
    Task.start p ∉ o.next.toList ++ o.spawned := by
  apply Task.step_cases h
  case gcLoop => split <;> simp
  case start => intro _; split <;> simp
  all_goals intros; simp

theorem Registry.Reachable.tail {persisted : Option RegTable} {s s' : Registry}
    (hs : Registry.Reachable persisted s) (h : Registry.Step s s') :
    Registry.Reachable persisted s' := by
  cases hs with
  | window hw => exact .window (hw.tail h)
  | loaded hw hl => exact .loaded hw (hl.tail h)

namespace World

/-- Where the registry of a run from `Start` on `persisted` stands: in `Start`'s window, with
the rest of `Start` to run once, or past the load, with no rest of `Start` left. -/
def RegPhase (persisted : Option RegTable) (w : World) : Prop :=
  (w.tasks.count (.start persisted) = 1 ∧ (∀ p, Task.start p ∈ w.tasks → p = persisted) ∧
    Relation.ReflTransGen Registry.Step .new w.node.reg) ∨
  ((∀ p, Task.start p ∉ w.tasks) ∧ Registry.Reachable persisted w.node.reg)

variable {persisted : Option RegTable} {w w' : World}

theorem RegPhase.reachable (hw : w.RegPhase persisted) :
    Registry.Reachable persisted w.node.reg :=
  hw.elim (fun h => .window h.2.2) (·.2)

/-- A step that adds no rest of `Start` and does not load keeps the phase. -/
theorem RegPhase.frame (hw : w.RegPhase persisted)
    (hreg : w'.node.reg = w.node.reg ∨ Registry.Step w.node.reg w'.node.reg)
    (hc : w'.tasks.count (.start persisted) = w.tasks.count (.start persisted))
    (hm : ∀ p, Task.start p ∈ w'.tasks → Task.start p ∈ w.tasks) : w'.RegPhase persisted := by
  have run {v : Registry} (h : Relation.ReflTransGen Registry.Step v w.node.reg) :
      Relation.ReflTransGen Registry.Step v w'.node.reg :=
    hreg.elim (fun e => e ▸ h) h.tail
  rcases hw with ⟨h1, h2, h3⟩ | ⟨h1, h2⟩
  · exact .inl ⟨hc ▸ h1, fun p hp => h2 p (hm p hp), run h3⟩
  · refine .inr ⟨fun p hp => h1 p (hm p hp), ?_⟩
    rcases hreg with e | e
    · exact e ▸ h2
    · exact h2.tail e

theorem Step.regPhase (hs : Step w w') (hw : w.RegPhase persisted) : w'.RegPhase persisted := by
  cases hs with
  | @arrive t ht _ =>
    have hnot : ∀ p, t ≠ .start p := by rintro p rfl; cases ht
    refine hw.frame (.inl rfl) ?_ fun p hp => ?_
    · simp [List.count_singleton, Ne.symm (hnot persisted)]
    · rcases List.mem_append.1 hp with hp | hp
      · exact hp
      · exact absurd (List.mem_singleton.1 hp).symm (hnot p)
  | tick => exact hw.frame (.inl rfl) rfl fun _ => id
  | fault => exact hw.frame (.inl rfl) rfl fun _ => id
  | @run t _ o ht horder _ h =>
    have hnew (p : Option RegTable) : (o.next.toList ++ o.spawned).count (.start p) = 0 :=
      List.count_eq_zero_of_not_mem (Task.step_not_start h p)
    have hmem {p : Option RegTable} (hp : Task.start p ∈ (w.resume t o).tasks) :
        Task.start p ∈ w.tasks.erase t := by
      rcases mem_resume_tasks.1 hp with hp | hp
      · exact hp
      · exact absurd hp (Task.step_not_start h p)
    by_cases hst : ∃ p, t = .start p
    · -- the rest of `Start` runs: it is the one left, and it loads `persisted`
      obtain ⟨p, rfl⟩ := hst
      rcases hw with ⟨h1, h2, h3⟩ | ⟨h1, -⟩
      · obtain rfl := h2 p ht
        have hreg : o.node.reg = w.node.reg.load p := by
          simp only [Task.step, Except.ok.injEq] at h
          rw [← h]
        refine .inr ⟨fun q hq => ?_, .loaded h3 (hreg ▸ .refl)⟩
        have hq' := hmem hq
        obtain rfl := h2 q (List.mem_of_mem_erase hq')
        simpa [h1] using List.count_pos_iff.2 hq'
      · exact absurd ht (h1 p)
    · push_neg at hst
      refine hw.frame ((Task.step_reg h horder).imp_right (·.resolve_right (by simp [hst]))) ?_
        fun p hp => List.mem_of_mem_erase (hmem hp)
      simp only [resume, List.append_assoc, List.count_append, hnew, Nat.add_zero,
        List.count_erase_of_ne (Ne.symm (hst persisted))]

theorem Reachable.regPhase {config : Config} (hw : Reachable config persisted w) :
    w.RegPhase persisted := by
  induction hw with
  | refl => exact .inl ⟨by simp [init], by simp [init], .refl⟩
  | tail _ hs ih => exact hs.regPhase ih

end World

/-- **The node's registry refines the registry model.** Under every interleaving of the
node's handlers and goroutines with the rest of `Start`, the registry passes only through
states that `Register` and `SubmitReport`'s handle check, one at a time, reach from
`NewHealthGServer`, in `Start`'s window and after its load of `persisted`. -/
theorem node_registry_reachable {config : Config} {persisted : Option RegTable} {w : World}
    (hw : World.Reachable config persisted w) : Registry.Reachable persisted w.node.reg :=
  (World.Reachable.regPhase hw).reachable

/-- `Register(m, o)` served in `Start`'s window, before the rest of `Start` runs. -/
theorem node_registry_reachable_register :
    ∃ w : World, World.Reachable nodeA none w ∧ w.node.reg.nextHandle = 10001 ∧
      Task.start none ∈ w.tasks ∧ Registry.Reachable none w.node.reg := by
  obtain ⟨w, hw, hn, hs⟩ : ∃ w, World.Reachable nodeA none w ∧
      (w.node.reg.nextHandle = 10001 ∧ Task.start none ∈ w.tasks) :=
    World.exists_of_exec [.arrive (.register ⟨"m", "o"⟩), .run 1 []] (by decide)
  exact ⟨w, hw, hn, hs, node_registry_reachable hw⟩

end Panorama
