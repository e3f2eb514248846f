import Panorama.Spec.World

/-!
# What the steps of a node keep

`Task.step_cases` says once what a step of a task can do: one case per path through
`Task.step`, with the guards that path checks. The frame lemmas of a step are case analyses
over it, and every later invariant of the hold buffer is derived from three of them.

* `Task.step_hold`: only `hold_buffer.Set` (in `LearnReport`) and `hold_buffer.Empty` (at
  the end of `AnalyzeReport`'s drain) change the hold buffer;
* `Task.step_drain`: a drain is started only by `AnalyzeReport(r, true)`, on the entries
  `hold_buffer.Get(r.Subject)` returns, and continued only by the drain itself;
* `Task.step_readd`: only a drain re-adds a hold-buffer entry, the next one it holds, and
  it re-adds it unfiltered.

From them, two facts hold at every state of every run (`World.Sound`), whatever the
interleaving: every hold-buffer entry is held under its report's subject
(`CacheList.Keyed`), and every drain re-adds only entries about its own report's subject
(`Task.WF`). The buffer also stays within its length bound (`CacheList.Bounded`,
`Reachable.bounded`).
-/

namespace Panorama

/-- Every entry of the hold buffer is held under its report's subject. -/
def CacheList.Keyed (c : CacheList) : Prop := ∀ k, ∀ it ∈ c.lists k, it.report.subject = k

/-- A drain re-adds entries about its own report's subject. -/
def Task.WF : Task → Prop
  | .drain r items => ∀ it ∈ items, it.report.subject = r.subject
  | _ => True

namespace CacheList

variable {c : CacheList}

theorem Keyed.set (hc : c.Keyed) (now : Nat) (it : HoldItem) :
    (c.set now it.report.subject it).Keyed := by
  intro k x hx
  rcases mem_set hx with ⟨rfl, rfl | hx⟩ | ⟨-, hx⟩
  · rfl
  · exact hc _ x hx
  · exact hc _ x hx

theorem Keyed.empty (hc : c.Keyed) (key : String) : (c.empty key).2.Keyed :=
  fun _ x hx => hc _ x (mem_empty hx).2

theorem Keyed.get (hc : c.Keyed) {now : Nat} {key : String} :
    ∀ it ∈ c.get now key, it.report.subject = key :=
  fun it hit => hc _ it (mem_get hit)

theorem keyed_of_lists_nil (ttl maxLen : Nat) : (⟨ttl, maxLen, fun _ => []⟩ : CacheList).Keyed :=
  fun _ _ hx => absurd hx (List.not_mem_nil _)

/-- No key holds more entries than the length bound. -/
def Bounded (c : CacheList) : Prop := ∀ k, (c.lists k).length ≤ c.maxLen

theorem Bounded.set (hc : c.Bounded) (now : Nat) (key : String) (it : HoldItem) :
    (c.set now key it).Bounded := by
  intro k
  by_cases hk : k = key
  · subst hk
    simp only [CacheList.set, Function.update_same, List.length_drop]
    omega
  · simp only [CacheList.set, ne_eq, hk, not_false_eq_true, Function.update_noteq]
    exact hc k

theorem Bounded.empty (hc : c.Bounded) (key : String) : (c.empty key).2.Bounded := by
  intro k
  by_cases hk : k = key
  · subst hk
    simp [CacheList.empty]
  · simp only [CacheList.empty, ne_eq, hk, not_false_eq_true, Function.update_noteq]
    exact hc k

end CacheList

theorem Task.wf_of_isRequest {t : Task} (ht : t.isRequest) : t.WF := by
  cases t <;> trivial

variable {env : Env} {n : Node} {t : Task} {o : Out}

/-- **What one step can do.** The outcomes of `Task.step`, one case per path through it,
with the guards each path checks; a handler's answer is left open. Every frame lemma of a
step is a case analysis over these paths. -/
theorem Task.step_cases {motive : Task → Out → Prop} (h : t.step env n = .ok o)
    (registerFound : ∀ req hd reply, Registry.scan req.module req.observer env.order 0 = .found hd →
      motive (.register req) ⟨n, [], none, [], reply⟩)
    (registerFresh : ∀ req mx reply, Registry.scan req.module req.observer env.order 0 = .fresh mx →
      motive (.register req) ⟨{ n with
        reg := (n.reg.allocate mx req n.now).2, store := (n.store.addSubject req.observer).2 },
        [], none, [], reply⟩)
    (submitInvalid : ∀ req s' reply, n.reg.check req.handle req.report = .ok (.invalid, s') →
      motive (.submitReport req) ⟨{ n with reg := s' }, [], none, [], reply⟩)
    (submitLive : ∀ req s', n.reg.check req.handle req.report = .ok (.live, s') →
      motive (.submitReport req) ⟨{ n with reg := s' }, [], some (.submitAdd req.report), [], none⟩)
    (submitRestored : ∀ req rg s', n.reg.check req.handle req.report = .ok (.restored rg, s') →
      motive (.submitReport req) ⟨{ n with reg := s', store := (n.store.addSubject rg.observer).2 },
        [], some (.submitAdd req.report), [], none⟩)
    (submitIgnored : ∀ r reply, (n.store.addReport r false).1 = .ignored →
      motive (.submitAdd (some r)) ⟨n, [.add .submit r .ignored], none, [], reply⟩)
    (submitFailed : ∀ r reply, (n.store.addReport r false).1 = .failed →
      motive (.submitAdd (some r)) ⟨n, [.add .submit r .failed], none, [], reply⟩)
    (submitAccepted : ∀ r reply, (n.store.addReport r false).1 = .accepted →
      motive (.submitAdd (some r)) ⟨n, [.add .submit r .accepted], none,
        [.analyzeReport r true, .propagate r], reply⟩)
    (learnIgnored : ∀ src r, (n.store.addReport r n.config.filterSubmission).1 = .ignored →
      motive (.learnReport ⟨some src, .normal, some r⟩) ⟨n, [.add .learn r .ignored],
        some (.learnHold r (n.store.addReport r n.config.filterSubmission).2), [], none⟩)
    (learnFailed : ∀ src r reply, (n.store.addReport r n.config.filterSubmission).1 = .failed →
      motive (.learnReport ⟨some src, .normal, some r⟩) ⟨n, [.add .learn r .failed], none, [],
        reply⟩)
    (learnAccepted : ∀ src r, (n.store.addReport r n.config.filterSubmission).1 = .accepted →
      motive (.learnReport ⟨some src, .normal, some r⟩) ⟨n, [.add .learn r .accepted],
        some (.learnInterested src.id r (n.store.addReport r n.config.filterSubmission).2), [],
        none⟩)
    (learnSubscription : ∀ src r reply, motive (.learnReport ⟨some src, .subscription, some r⟩)
      ⟨{ n with exchange := n.exchange.interested src.id r.subject }, [], none, [], reply⟩)
    (learnUnsubscription : ∀ src r reply, motive (.learnReport ⟨some src, .unsubscription, some r⟩)
      ⟨{ n with exchange := n.exchange.uninterested src.id r.subject }, [], none, [], reply⟩)
    (learnOther : ∀ source v report reply,
      motive (.learnReport ⟨source, .other v, report⟩) ⟨n, [], none, [], reply⟩)
    (learnHold : ∀ r err reply, motive (.learnHold r err)
      ⟨{ n with hold := n.hold.set n.now r.subject ⟨n.holds, n.now, r⟩, holds := n.holds + 1 },
        [.hold ⟨n.holds, n.now, r⟩], none, [], reply⟩)
    (learnInterested : ∀ src r err reply, motive (.learnInterested src r err)
      ⟨{ n with exchange := n.exchange.interested src r.subject }, [], none,
        [.analyzeReport r false], reply⟩)
    (observe : ∀ s reply, motive (.observe s)
      ⟨{ n with store := (n.store.addSubject s).2 }, [], none, [.subscribe s], reply⟩)
    (stopObserving : ∀ s reply, motive (.stopObserving s)
      ⟨{ n with store := (n.store.removeSubject s).2 }, [], none, [.unsubscribe s], reply⟩)
    (analyzeUnheld : ∀ r, n.hold.get n.now r.subject = [] →
      motive (.analyzeReport r true) ⟨n, [], some (.inferReport r), [], none⟩)
    (analyzeHeld : ∀ r, n.hold.get n.now r.subject ≠ [] →
      motive (.analyzeReport r true)
        ⟨n, [], some (.drain r (n.hold.get n.now r.subject)), [], none⟩)
    (analyzeLearned : ∀ r, motive (.analyzeReport r false) ⟨n, [.inferReport r], none, [], none⟩)
    (drainEmpty : ∀ r, motive (.drain r [])
      ⟨{ n with hold := (n.hold.empty r.subject).2 }, [.empty r.subject (n.hold.empty r.subject).1],
        some (.inferReport r), [.subscribe r.subject], none⟩)
    (drainReadd : ∀ r it rest, motive (.drain r (it :: rest))
      ⟨n, [.add (.drain it.id) it.report (n.store.addReport it.report false).1],
        some (.drain r rest), [], none⟩)
    (inferReport : ∀ r, motive (.inferReport r) ⟨n, [.inferReport r], none, [], none⟩)
    (gcLoop : motive .gcLoop ⟨n, [.gc env.retired], some (if env.retired = [] then .gcLoop
      else .gcInfer (env.retired.map Prod.fst)), [], none⟩)
    (gcDone : motive (.gcInfer []) ⟨n, [], some .gcLoop, [], none⟩)
    (gcInfer : ∀ s rest, motive (.gcInfer (s :: rest)) ⟨n, [.inferSubject s], some (.gcInfer rest),
      [], none⟩)
    (subscribe : ∀ s, motive (.subscribe s) ⟨n, n.config.others.map
      (fun p => .send p (notice n.config.id .subscription s)), none, [], none⟩)
    (unsubscribe : ∀ s, motive (.unsubscribe s) ⟨n, n.config.others.map
      (fun p => .send p (notice n.config.id .unsubscription s)), none, [], none⟩)
    (propagate : ∀ r, motive (.propagate r) ⟨n, (n.exchange.interest.filter (·.2 = r.subject)).map
      (fun q => .send q.1 (propagation n.config.id r)), none, [], none⟩)
    (start : ∀ p, motive (.start p) ⟨{ n with reg := n.reg.load p }, [], none,
      if (gcParams [n.config.gc]).frequency > 0 then [.gcLoop] else [], none⟩) :
    motive t o := by
  cases t with
  | register req =>
    simp only [Task.step] at h
    split at h <;> simp only [Except.ok.injEq] at h <;> subst h
    · exact registerFound req _ _ ‹_›
    · exact registerFresh req _ _ ‹_›
  | submitReport req =>
    simp only [Task.step, bind, Except.bind] at h
    split at h
    · cases h
    · rename_i p hc
      obtain ⟨c, s'⟩ := p
      cases c <;> simp only [Except.ok.injEq] at h <;> subst h
      · exact submitLive req s' hc
      · exact submitRestored req _ s' hc
      · exact submitInvalid req s' _ hc
  | submitAdd report =>
    cases report with
    | none => cases h
    | some r =>
      simp only [Task.step, deref_some_bind] at h
      cases hrc : (n.store.addReport r false).1 <;> simp only [hrc, Except.ok.injEq] at h <;>
        subst h
      · exact submitAccepted r _ hrc
      · exact submitIgnored r _ hrc
      · exact submitFailed r _ hrc
  | learnReport req =>
    obtain ⟨source, kind, report⟩ := req
    cases kind with
    | normal =>
      cases report <;> cases source <;>
        simp only [Task.step, deref_some_bind, deref_none_bind, reduceCtorEq] at h
      rename_i r src
      cases hrc : (n.store.addReport r n.config.filterSubmission).1 <;>
        simp only [hrc, Except.ok.injEq] at h <;> subst h
      · exact learnAccepted src r hrc
      · exact learnIgnored src r hrc
      · exact learnFailed src r _ hrc
    | subscription =>
      cases report <;> cases source <;>
        simp only [Task.step, deref_some_bind, deref_none_bind, reduceCtorEq, Except.ok.injEq] at h
      subst h
      exact learnSubscription _ _ _
    | unsubscription =>
      cases report <;> cases source <;>
        simp only [Task.step, deref_some_bind, deref_none_bind, reduceCtorEq, Except.ok.injEq] at h
      subst h
      exact learnUnsubscription _ _ _
    | other v =>
      simp only [Task.step, Except.ok.injEq] at h
      subst h
      exact learnOther _ _ _ _
  | analyzeReport r checkHold =>
    cases checkHold <;> simp only [Task.step, Bool.false_eq_true, if_true, if_false] at h
    · simp only [Except.ok.injEq] at h; subst h; exact analyzeLearned r
    · split at h <;> simp only [Except.ok.injEq] at h <;> subst h
      · exact analyzeUnheld r ‹_›
      · exact analyzeHeld r ‹_›
  | drain r items =>
    cases items <;> simp only [Task.step, Except.ok.injEq] at h <;> subst h
    · exact drainEmpty r
    · exact drainReadd r _ _
  | gcInfer subjects =>
    cases subjects <;> simp only [Task.step, Except.ok.injEq] at h <;> subst h
    · exact gcDone
    · exact gcInfer _ _
  | _ => simp only [Task.step, Except.ok.injEq] at h; subst h; first
    | exact learnHold _ _ _ | exact learnInterested _ _ _ _ | exact observe _ _
    | exact stopObserving _ _ | exact inferReport _ | exact gcLoop | exact subscribe _
    | exact unsubscribe _ | exact propagate _ | exact start _

/-- Only `Set` and `Empty` change the hold buffer. -/
theorem Task.step_hold (h : t.step env n = .ok o) :
    o.node.hold = n.hold ∨
      (∃ r err, t = .learnHold r err ∧
        o.node.hold = n.hold.set n.now r.subject ⟨n.holds, n.now, r⟩) ∨
      (∃ r, t = .drain r [] ∧ o.node.hold = (n.hold.empty r.subject).2) := by
  apply Task.step_cases h
  case learnHold => exact fun r err _ => .inr (.inl ⟨r, err, rfl, rfl⟩)
  case drainEmpty => exact fun r => .inr (.inr ⟨r, rfl, rfl⟩)
  all_goals intros; exact .inl rfl

/-- A drain starts at `AnalyzeReport(r, true)` on what `Get(r.Subject)` returns, and
continues only from the drain one entry longer. -/
theorem Task.step_drain (h : t.step env n = .ok o) {r : Report} {items : List HoldItem}
    (hd : Task.drain r items ∈ o.next.toList ++ o.spawned) :
    (t = .analyzeReport r true ∧ items = n.hold.get n.now r.subject) ∨
      ∃ it, t = .drain r (it :: items) := by
  revert hd
  apply Task.step_cases h
  case gcLoop => split <;> simp
  all_goals intros; simp_all

/-- Only a drain re-adds a hold-buffer entry: the first of those it has still to re-add,
unfiltered. -/
theorem Task.step_readd (h : t.step env n = .ok o) {id : Nat} {x : Report} {rc : Rc}
    (he : Event.add (.drain id) x rc ∈ o.events) :
    ∃ r it rest, t = .drain r (it :: rest) ∧ it.id = id ∧ it.report = x ∧
      rc = (n.store.addReport x false).1 := by
  revert he
  apply Task.step_cases h
  case drainReadd =>
    intro r it rest he
    simp only [List.mem_singleton, Event.add.injEq, Caller.drain.injEq] at he
    obtain ⟨rfl, rfl, rfl⟩ := he
    exact ⟨r, it, rest, rfl, rfl, rfl, rfl⟩
  all_goals intros; simp_all

theorem Task.step_keyed (hc : n.hold.Keyed) (h : t.step env n = .ok o) : o.node.hold.Keyed := by
  rcases t.step_hold h with h | ⟨r, -, -, h⟩ | ⟨r, -, h⟩ <;> rw [h]
  · exact hc
  · exact hc.set n.now ⟨n.holds, n.now, r⟩
  · exact hc.empty _

theorem Task.step_bounded (hc : n.hold.Bounded) (h : t.step env n = .ok o) :
    o.node.hold.Bounded ∧ o.node.hold.maxLen = n.hold.maxLen := by
  rcases t.step_hold h with h | ⟨r, -, -, h⟩ | ⟨r, -, h⟩ <;> rw [h]
  · exact ⟨hc, rfl⟩
  · exact ⟨hc.set _ _ _, rfl⟩
  · exact ⟨hc.empty _, rfl⟩

theorem Task.step_wf (hc : n.hold.Keyed) (hwf : t.WF) (h : t.step env n = .ok o) :
    ∀ t' ∈ o.next.toList ++ o.spawned, t'.WF := by
  intro t' ht'
  cases t' with
  | drain r items =>
    rcases t.step_drain h ht' with ⟨-, rfl⟩ | ⟨it, rfl⟩
    · exact hc.get
    · exact fun x hx => hwf x (.tail _ hx)
  | _ => trivial

namespace World

/-- What holds at every state of a run: the hold buffer is keyed by subject, and every
running drain re-adds entries of its own subject. -/
structure Sound (w : World) : Prop where
  keyed : w.node.hold.Keyed
  wf : ∀ t ∈ w.tasks, t.WF

variable {w w' : World}

theorem sound_init (config : Config) (persisted : Option RegTable) :
    (init config persisted).Sound where
  keyed := by
    simp only [init, Node.new]
    split <;> exact CacheList.keyed_of_lists_nil _ _
  wf := by simp [init, Task.WF]

theorem Step.sound (hs : Step w w') (hw : w.Sound) : w'.Sound := by
  cases hs with
  | arrive t ht _ =>
    refine ⟨hw.keyed, fun t' h' => ?_⟩
    rcases List.mem_append.1 h' with h' | h'
    · exact hw.wf t' h'
    · exact List.mem_singleton.1 h' ▸ Task.wf_of_isRequest ht
  | tick => exact ⟨hw.keyed, hw.wf⟩
  | run ht _ _ h =>
    refine ⟨Task.step_keyed hw.keyed h, fun t' h' => ?_⟩
    rcases mem_resume_tasks.1 h' with h' | h'
    · exact hw.wf t' (List.mem_of_mem_erase h')
    · exact Task.step_wf hw.keyed (hw.wf _ ht) h t' h'
  | fault => exact ⟨hw.keyed, hw.wf⟩

theorem Reachable.sound {config : Config} {persisted : Option RegTable}
    (hw : Reachable config persisted w) : w.Sound := by
  induction hw with
  | refl => exact sound_init config persisted
  | tail _ hs ih => exact hs.sound ih

/-! ## The length bound of the hold buffer -/

theorem Step.bounded {M : Nat} (hs : Step w w')
    (hw : w.node.hold.Bounded ∧ w.node.hold.maxLen = M) :
    w'.node.hold.Bounded ∧ w'.node.hold.maxLen = M := by
  cases hs with
  | run _ _ _ h =>
    obtain ⟨hb, hm⟩ := Task.step_bounded hw.1 h
    exact ⟨hb, hm.trans hw.2⟩
  | _ => exact hw

theorem Reachable.bounded {config : Config} {persisted : Option RegTable}
    (hw : Reachable config persisted w) :
    w.node.hold.Bounded ∧ w.node.hold.maxLen = (Node.new config).hold.maxLen := by
  induction hw with
  | refl =>
    refine ⟨?_, rfl⟩
    simp only [init, Node.new]
    split <;> exact fun _ => Nat.zero_le _
  | tail _ hs ih => exact hs.bounded ih

end World

end Panorama
