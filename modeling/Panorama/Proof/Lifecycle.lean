import Mathlib.Algebra.BigOperators.Group.List
import Mathlib.Algebra.Order.Ring.Nat
import Panorama.Spec.Lifecycle

/-!
# What `Start` and `Stop` do to the `GC` goroutines

A `GC` goroutine tests `self.s != nil` only at the head of its loop, and `Start` starts one
only after it has begun to serve. So `Stop` ends the goroutines, but not at once, and a
`Start` that comes before a goroutine's next test keeps it running beside the one `Start`
adds.

* `stopped_gc_bounded`: once the server is stopped, on every run without `Start`, the
  goroutines call `storage.GC` at most once each, and only those already past their test;
* `stopped_gc_ends`: and every such run is finite: the goroutines all return, those that
  the rest of an earlier `Start` adds included;
* `stop_in_start_window_infers`: a `Stop` between `Start`'s `go Serve` and its
  `inference.Start()` leaves the inference engine running on the stopped server;
* `serving_has_gc`: while the server serves and no `Start` is midway, some `GC` goroutine
  runs;
* `gc_goroutines_unbounded`: `Stop` then `Start` ends no goroutine, so some run has any
  number of `GC` goroutines at once, each between its test and its `storage.GC`;
* `gc_runs_iff`: in a process that builds several servers, `Start` runs `GC` exactly when
  the last server built with `GC` enabled asked for a non-positive frequency (the default
  is used) or for one whose nanoseconds, wrapped to `int64`, are positive; a server built
  with `GC` disabled inherits what earlier servers set.

`GcLoop.step_serving` relates the goroutine of a serving server to the node model's `GC`
task: past its test, it makes exactly the calls of `Task.gcLoop` and `Task.gcInfer`.
-/

namespace Panorama

/-! ## `Start` and `Stop` -/

namespace Server

variable {f : Int} {e : StartEnv} {s s' : Server}

/-- `Start` succeeds exactly on a stopped server whose address it can listen on: it serves,
with the rest of `Start` to run. -/
theorem start_ok (h : s.start e = .ok s') :
    s.serving = false ∧ e.listens = true ∧
      s' = { s with serving := true, starting := s.starting + 1 } := by
  unfold start at h
  split_ifs at h with h₁ h₂
  cases h
  simp_all

theorem stop_ok (h : s.stop = .ok s') :
    s.serving = true ∧ s' = { s with serving := false, inferring := false } := by
  unfold stop at h
  split_ifs at h with h₁
  cases h
  exact ⟨h₁, rfl⟩

theorem start_of_stopped (e : StartEnv) (hs : s.serving = false) (he : e.listens = true) :
    s.start e = .ok { s with serving := true, starting := s.starting + 1 } := by
  simp [start, hs, he]

theorem stop_of_serving (hs : s.serving = true) :
    s.stop = .ok { s with serving := false, inferring := false } := by
  simp [stop, hs]

@[simp] theorem collect_serving (l : GcLoop) (r : List (String × Nat)) :
    (s.collect l r).serving = s.serving := rfl

@[simp] theorem finish_loops :
    (s.finish f e).loops = if f > 0 then s.loops ++ [.head] else s.loops := rfl

end Server

/-! ## A stopped server's `GC` goroutines -/

/-- How many steps a `GC` goroutine of a stopped server takes before its loop test ends it,
beyond its one pending `storage.GC` when it is `asleep`. -/
def GcLoop.stepsLeft : GcLoop → Nat
  | .head => 1
  | .asleep => 0
  | .infer subjects => subjects.length + 2

namespace Server

variable {f : Int} {s a b : Server} {l : GcLoop} {r : List (String × Nat)}

/-- The two measures of a stopped server's `GC` work: the rests of `Start` still to run and
the `storage.GC` calls still due, then the other steps left. -/
def gcWork (s : Server) : Nat × Nat :=
  (s.starting + s.loops.count .asleep, (s.loops.map GcLoop.stepsLeft).sum)

/-- On a stopped server, a step that stays stopped is a step of a `GC` goroutine or the rest
of a `Start`. -/
theorem Step.stopped (h : Step f a b) (ha : a.serving = false) (hb : b.serving = false) :
    (∃ l r, l ∈ a.loops ∧ b = a.collect l r) ∨ ∃ e, 0 < a.starting ∧ b = a.finish f e := by
  cases h with
  | start e h => simp [(start_ok h).2.2] at hb
  | finish e h => exact .inr ⟨e, h, rfl⟩
  | stop h => simp [(stop_ok h).1] at ha
  | collect r hl => exact .inl ⟨_, r, hl, rfl⟩

/-- A goroutine of a stopped server calls `storage.GC` once if it is past its test, and
is not past it afterwards. -/
theorem GcLoop.step_stopped_due (l : GcLoop) (r : List (String × Nat)) :
    (l.step false r).1.countP Event.isGc + (l.step false r).2.toList.count .asleep =
      [l].count .asleep := by
  cases l with
  | asleep => simp only [GcLoop.step]; split <;> rfl
  | infer subjects => cases subjects <;> rfl
  | head => rfl

/-- Apart from its pending `storage.GC`, each step of a goroutine of a stopped server brings
it nearer to the loop test that ends it. -/
theorem GcLoop.step_stopped_left (l : GcLoop) (r : List (String × Nat)) (hl : l ≠ .asleep) :
    ((l.step false r).2.toList.map GcLoop.stepsLeft).sum < l.stepsLeft := by
  cases l with
  | asleep => exact absurd rfl hl
  | infer subjects => cases subjects <;> simp [GcLoop.step, GcLoop.stepsLeft]
  | head => simp [GcLoop.step, GcLoop.stepsLeft]

theorem collect_stopped_due (r : List (String × Nat)) (hs : s.serving = false) (hl : l ∈ s.loops) :
    (l.step false r).1.countP Event.isGc + (s.collect l r).loops.count .asleep =
      s.loops.count .asleep := by
  have hl' := GcLoop.step_stopped_due l r
  rw [(List.perm_cons_erase hl).count_eq, ← List.singleton_append, List.count_append]
  simp only [collect, hs, List.count_append]
  omega

/-- Each step of a goroutine of a stopped server lowers its `GC` work. -/
theorem collect_stopped_lt (hs : s.serving = false) (hl : l ∈ s.loops) :
    Prod.Lex (· < ·) (· < ·) (s.collect l r).gcWork s.gcWork := by
  have hdue := collect_stopped_due r hs hl
  have hstarting : (s.collect l r).starting = s.starting := rfl
  simp only [Prod.lex_def, gcWork, hstarting]
  by_cases ha : l = .asleep
  · subst ha
    have hgc : (GcLoop.step false r .asleep).1.countP Event.isGc = 1 := rfl
    left
    omega
  · have hone := GcLoop.step_stopped_due l r
    have hnot : [l].count .asleep = 0 := by cases l <;> first | exact absurd rfl ha | rfl
    have hsum := ((List.perm_cons_erase hl).map GcLoop.stepsLeft).sum_eq
    have hleft := GcLoop.step_stopped_left l r ha
    simp only [List.map_cons, List.sum_cons] at hsum
    refine .inr ⟨by omega, ?_⟩
    simp only [collect, hs, List.map_append, List.sum_append, hsum]
    omega

/-- The rest of a `Start` lowers the `GC` work: the goroutine it may add is at its test. -/
theorem finish_lt (e : StartEnv) (h : 0 < s.starting) :
    Prod.Lex (· < ·) (· < ·) (s.finish f e).gcWork s.gcWork := by
  refine .left _ _ ?_
  have hc : (s.finish f e).loops.count .asleep = s.loops.count .asleep := by
    rw [finish_loops]
    split <;> simp
  simp only [gcWork, hc]
  show s.starting - 1 + _ < _
  omega

/-- **A stopped server's `GC` goroutines call `storage.GC` at most once more.** From any
stopped state, on every run without `Start`, the goroutines call `storage.GC` at most as
many times as there are goroutines already past their loop test. -/
theorem stopped_gc_bounded {s s' : Server} (hs : s.serving = false)
    (h : Relation.ReflTransGen (fun a b => Step f a b ∧ b.serving = false) s s') :
    (s'.log.drop s.log.length).countP Event.isGc ≤ s.loops.count .asleep := by
  obtain ⟨ext, hlog, hle⟩ : ∃ ext, s'.log = s.log ++ ext ∧
      ext.countP Event.isGc + s'.loops.count .asleep ≤ s.loops.count .asleep := by
    induction h with
    | refl => exact ⟨[], by simp, by simp⟩
    | @tail a b hsa hab ih =>
      obtain ⟨ext, hlog, hle⟩ := ih
      have ha : a.serving = false := by
        cases hsa with
        | refl => exact hs
        | tail _ h => exact h.2
      rcases hab.1.stopped ha hab.2 with ⟨l, r, hl, rfl⟩ | ⟨e, -, rfl⟩
      · have hdue := collect_stopped_due r ha hl
        refine ⟨ext ++ (l.step false r).1, ?_, ?_⟩
        · simp [collect, ha, hlog]
        · rw [List.countP_append]
          omega
      · refine ⟨ext, hlog, ?_⟩
        rw [finish_loops]
        split <;> simpa using hle
  rw [hlog, List.drop_left]
  omega

/-- **A stopped server's `GC` goroutines all return.** From any stopped state, every run
without `Start` is finite. -/
theorem stopped_gc_ends (f : Int) {s : Server} (hs : s.serving = false) :
    Acc (fun b a => Step f a b ∧ b.serving = false) s := by
  induction s using (InvImage.wf gcWork
    (WellFounded.prod_lex wellFounded_lt wellFounded_lt)).induction with
  | _ a ih =>
    refine Acc.intro a fun b hab => ?_
    rcases hab.1.stopped hs hab.2 with ⟨l, r, hl, rfl⟩ | ⟨e, he, rfl⟩
    · exact ih _ (collect_stopped_lt hs hl) hab.2
    · exact ih _ (finish_lt e he) hab.2

/-- **A `Stop` in `Start`'s window leaves the inference engine running.** `Start` serves before
it starts the inference engine, and `Stop` may run in between: the rest of that `Start` then
starts the engine on the stopped server, and on every run without a new `Start` it keeps
running while the server is stopped. -/
theorem stop_in_start_window_infers (f : Int) (addr : String) :
    ∃ s, Reachable f addr s ∧ s.serving = false ∧ s.inferring = true ∧ s.starting = 0 ∧
      ∀ s', Relation.ReflTransGen (fun a b => Step f a b ∧ b.serving = false) s s' →
        s'.inferring = true := by
  let s₁ : Server := { Server.new addr with serving := true, starting := 1 }
  have hw : Reachable f addr (({ s₁ with serving := false, inferring := false } : Server).finish
      f ⟨true, false, none⟩) :=
    .tail (.tail (.single (.start _ (start_of_stopped ⟨true, false, none⟩ rfl rfl)))
      (.stop (stop_of_serving (s := s₁) rfl))) (.finish _ Nat.one_pos)
  refine ⟨_, hw, rfl, rfl, rfl, fun s' hrun => ?_⟩
  induction hrun with
  | refl => rfl
  | @tail a b hsa hab ih =>
    have ha : a.serving = false := by
      cases hsa with
      | refl => rfl
      | tail _ h => exact h.2
    rcases hab.1.stopped ha hab.2 with ⟨l, r, -, rfl⟩ | ⟨e, -, rfl⟩
    · exact ih
    · rfl

/-- A server at `"a"` after `Start`, one step of its `GC` goroutine and `Stop`: stopped,
with its goroutine past the loop test. -/
def sleeper : Server := ⟨"a", .new, false, false, [.asleep], [], 0⟩

theorem sleeper_reachable : Reachable gcFrequencyDefault "a" sleeper :=
  .tail (.tail (.tail (.single (.start ⟨true, false, none⟩ rfl)) (.finish ⟨true, false, none⟩
    Nat.one_pos)) (.collect [] (show GcLoop.head ∈ [.head] from List.mem_singleton_self _)))
    (.stop rfl)

theorem stopped_gc_bounded_sleeper :
    Reachable gcFrequencyDefault "a" sleeper ∧ sleeper.serving = false ∧
      Relation.ReflTransGen (fun a b => Step gcFrequencyDefault a b ∧ b.serving = false)
        sleeper (sleeper.collect .asleep []) ∧
      ((sleeper.collect .asleep []).log.drop sleeper.log.length).countP Event.isGc ≤
        sleeper.loops.count .asleep := by
  have hrun : Relation.ReflTransGen (fun a b => Step gcFrequencyDefault a b ∧ b.serving = false)
      sleeper (sleeper.collect .asleep []) := .single ⟨.collect [] (by simp [sleeper]), rfl⟩
  exact ⟨sleeper_reachable, rfl, hrun, stopped_gc_bounded rfl hrun⟩

theorem stopped_gc_ends_sleeper :
    Reachable gcFrequencyDefault "a" sleeper ∧ sleeper.serving = false ∧
      Acc (fun b a => Step gcFrequencyDefault a b ∧ b.serving = false) sleeper :=
  ⟨sleeper_reachable, rfl, stopped_gc_ends gcFrequencyDefault rfl⟩

end Server

/-! ## A serving server's `GC` goroutines -/

/-- Past its test, a goroutine of a serving server never returns. -/
theorem GcLoop.step_serving_next (l : GcLoop) (r : List (String × Nat)) :
    ∃ l', (l.step true r).2 = some l' := by
  cases l with
  | infer subjects => cases subjects <;> simp [GcLoop.step]
  | _ => simp [GcLoop.step]

/-- The `GC` task of the node model, at the program point of a goroutine. -/
def GcLoop.task : GcLoop → Task
  | .head | .asleep => .gcLoop
  | .infer subjects => .gcInfer subjects

/-- **The node model's `GC` task is the goroutine of a serving server.** A step of a
goroutine of a serving server either passes its loop test, or makes exactly the calls of
one step of `Task.gcLoop` or `Task.gcInfer`, leaving the node as it is, and goes on at the
matching program point. -/
theorem GcLoop.step_serving (env : Env) (n : Node) (l : GcLoop) :
    (l = .head ∧ l.step true env.retired = ([], some .asleep)) ∨
    ∃ o, l.task.step env n = .ok o ∧ o.node = n ∧ o.spawned = [] ∧
      o.events = (l.step true env.retired).1 ∧
      o.next = (l.step true env.retired).2.map GcLoop.task := by
  cases l with
  | head => exact .inl ⟨rfl, rfl⟩
  | asleep =>
    refine .inr ⟨_, rfl, rfl, rfl, rfl, ?_⟩
    simp only [GcLoop.step, Option.map_some']
    split <;> rfl
  | infer subjects => cases subjects <;> exact .inr ⟨_, rfl, rfl, rfl, rfl, rfl⟩

namespace Server

variable {f : Int} {addr : String} {s a b : Server}

/-- While the server serves, a `GC` goroutine runs or a `Start` is midway: the rest of
`Start` adds one, and past its test a goroutine of a serving server never returns. -/
theorem Reachable.serving_gc (hf : 0 < f) (hw : Reachable f addr s) :
    s.serving = true → s.loops ≠ [] ∨ 0 < s.starting := by
  induction hw with
  | refl => simp [Server.new]
  | @tail a b _ h ih =>
    intro hb
    cases h with
    | start e h => rw [(start_ok h).2.2]; exact .inr (Nat.succ_pos _)
    | finish e _ => simp [hf]
    | stop h => simp [(stop_ok h).2] at hb
    | @collect l r hl =>
      obtain ⟨l', hl'⟩ := GcLoop.step_serving_next l r
      simp only [collect_serving] at hb
      simp [Server.collect, hb, hl']

/-- **While the server serves, a `GC` goroutine runs**, in a process whose `gc_frequency`
is positive, at every state of every run where no `Start` is midway. In the window of a
`Start`, after it has begun to serve and before its rest has run, none need run. -/
theorem serving_has_gc (hf : 0 < f) (hw : Reachable f addr s) (hs : s.serving = true)
    (hst : s.starting = 0) : s.loops ≠ [] :=
  (hw.serving_gc hf hs).resolve_right (by omega)

theorem serving_has_gc_started :
    0 < gcFrequencyDefault ∧
      ∃ s, Reachable gcFrequencyDefault "a" s ∧ s.serving = true ∧ s.starting = 0 ∧
        s.loops ≠ [] := by
  have hw : Reachable gcFrequencyDefault "a"
      (({ Server.new "a" with serving := true, starting := 1 } : Server).finish
        gcFrequencyDefault ⟨true, false, none⟩) :=
    .tail (.single (.start ⟨true, false, none⟩ (start_of_stopped _ rfl rfl)))
      (.finish _ Nat.one_pos)
  exact ⟨by decide, _, hw, rfl, rfl, serving_has_gc (by decide) hw rfl rfl⟩

/-- **`Stop` then `Start` ends no `GC` goroutine.** In a process whose `gc_frequency` is
positive, for every `k`, some run of a server has `k + 1` `GC` goroutines at once, all past
their loop test and due to call `storage.GC`, while the server serves. -/
theorem gc_goroutines_unbounded (hf : 0 < f) (addr : String) (k : Nat) :
    ∃ s, Reachable f addr s ∧ s.serving = true ∧ s.loops = List.replicate (k + 1) .asleep := by
  -- from a stopped server, `Start`, its rest and one step of the new goroutine put it to sleep
  have restart (s : Server) (hs : s.serving = false) (hno : GcLoop.head ∉ s.loops) :
      ∃ s', Relation.ReflTransGen (Step f) s s' ∧ s'.serving = true ∧
        s'.loops = s.loops ++ [.asleep] := by
    let s₂ := ({ s with serving := true, starting := s.starting + 1 } : Server).finish f
      ⟨true, false, none⟩
    have hl : s₂.loops = s.loops ++ [.head] := by simp [s₂, hf]
    refine ⟨s₂.collect .head [], .tail (.tail (.single (.start _
      (start_of_stopped ⟨true, false, none⟩ hs rfl))) (.finish _ (Nat.succ_pos _)))
      (.collect [] (show GcLoop.head ∈ s₂.loops by simp [hl])), rfl, ?_⟩
    have hserve : s₂.serving = true := rfl
    simp [collect, hl, hserve, GcLoop.step, List.erase_append_right _ hno]
  induction k with
  | zero =>
    obtain ⟨s', hrun, hserve, hl⟩ := restart (Server.new addr) rfl (by simp [Server.new])
    exact ⟨s', hrun, hserve, by simpa [Server.new] using hl⟩
  | succ k ih =>
    obtain ⟨s, hw, hserve, hl⟩ := ih
    obtain ⟨s', hrun, hserve', hl'⟩ :=
      restart { s with serving := false, inferring := false } rfl (by simp [hl])
    exact ⟨s', (hw.tail (.stop (stop_of_serving hserve))).trans hrun, hserve', by
      rw [hl', hl, List.replicate_succ' (k + 1)]⟩

theorem gc_goroutines_unbounded_three :
    0 < gcFrequencyDefault ∧ ∃ s, Reachable gcFrequencyDefault "a" s ∧ s.serving = true ∧
      s.loops = List.replicate 3 .asleep :=
  ⟨by decide, gc_goroutines_unbounded (by decide) "a" 2⟩

/-- With `gc_frequency ≤ 0`, `Start` starts no `GC` goroutine, so none ever runs. -/
theorem loops_nil_of_nonpos (hf : f ≤ 0) (hw : Reachable f addr s) : s.loops = [] := by
  induction hw with
  | refl => rfl
  | tail _ h ih =>
    cases h with
    | start e h => rw [(start_ok h).2.2, ih]
    | finish e _ => simp [ih, not_lt.2 hf]
    | stop h => rw [(stop_ok h).2, ih]
    | collect r hl => simp [ih] at hl

end Server

/-! ## The process-wide `GC` parameters -/

/-- The `GC` parameters of a process are those of the last server built with `GC`
enabled, or the initial ones when there is none. -/
theorem gcParams_last (configs : List GcConfig) :
    gcParams configs = match configs.reverse.find? (·.enable) with
      | some c => GcParams.initial.configure c
      | none => .initial := by
  induction configs using List.reverseRecOn with
  | nil => rfl
  | append_singleton cs c ih =>
    simp only [gcParams, List.foldl_append, List.foldl_cons, List.foldl_nil, List.reverse_append,
      List.reverse_cons, List.reverse_nil, List.nil_append, List.singleton_append,
      List.find?_cons] at ih ⊢
    rw [ih]
    cases hc : c.enable <;> simp [GcParams.configure, hc]

/-- **When `Start` runs `GC`.** In a process that has built servers with `configs`, in
order, `gc_frequency` is positive, so that `Start` starts a `GC` goroutine, exactly when
some server was built with `GC` enabled and the last such one asked for a non-positive
frequency (then the 3-minute default applies) or for a frequency whose nanoseconds stay
positive in `int64`. -/
theorem gc_runs_iff (configs : List GcConfig) :
    0 < (gcParams configs).frequency ↔ ∃ c, configs.reverse.find? (·.enable) = some c ∧
      (c.frequency ≤ 0 ∨ 0 < durationOfSeconds c.frequency) := by
  rw [gcParams_last]
  cases hc : configs.reverse.find? (·.enable) with
  | none => simp [GcParams.initial]
  | some c =>
    have he : c.enable = true := by simpa using List.find?_some hc
    by_cases hpos : c.frequency > 0
    · simp [GcParams.configure, he, hpos, not_le.2 hpos]
    · simp [GcParams.configure, he, hpos, le_of_not_lt hpos, gcFrequencyDefault]

end Panorama
