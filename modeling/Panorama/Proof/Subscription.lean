import Panorama.Spec.World

/-!
# Subscriptions between two nodes

`Observe(S)` and `StopObserving(S)` change the watch list, then start a goroutine,
`go exchange.Subscribe(S)` or `go exchange.Unsubscribe(S)`, that sends the call's notice to
every peer (`watchCall_sends`). Nothing orders two such goroutines, nor the deliveries of
what they send, so a peer `B` can receive the notices of two calls in either order. `B`'s
`LearnReport` records the sender as interested or not in `S` as each notice arrives, so what
`B` records in the end is what the last notice it received said.

* `unsubscribe_delivered_last`: after `StopObserving(S)` then `Observe(S)` at `a`, `a`'s
  goroutines can send the subscription before the unsubscription; `b`, receiving them in
  the order they were sent, ends up believing `a` uninterested while `a` watches `S`;
* `peer_interest_agrees_iff`: whatever the calls and the delivery order, `B`'s record agrees
  with `A`'s watch list exactly when the notice delivered last is that of `A`'s last call.
-/

namespace Panorama

/-- `Observe(s)` when `observe`, `StopObserving(s)` otherwise. -/
def watchCall (s : String) (observe : Bool) : Task :=
  if observe then .observe s else .stopObserving s

/-- The notice the goroutine a `watchCall` starts sends. -/
def noticeOf (self s : String) (observe : Bool) : LearnReportRequest :=
  notice self (if observe then .subscription else .unsubscription) s

/-- Calls about `s`, handled one after another; each answers in its one step. -/
def Node.watchAll (env : Env) (s : String) : Node → List Bool → Except Fault Node
  | n, [] => .ok n
  | n, c :: cs => do
    let o ← (watchCall s c).step env n
    Node.watchAll env s o.node cs

/-- Notices handled by `LearnReport` one after another; each answers in its one step. -/
def Node.learnAll (env : Env) : Node → List LearnReportRequest → Except Fault Node
  | n, [] => .ok n
  | n, m :: ms => do
    let o ← (Task.learnReport m).step env n
    Node.learnAll env o.node ms

/-- The message an event sends to `peer`. -/
def Event.sentTo (peer : String) : Event → Option LearnReportRequest
  | .send p m => if p = peer then some m else none
  | _ => none

/-- Each call starts one goroutine, whose step sends the call's notice to every other peer. -/
theorem watchCall_sends (env env' : Env) (n n' : Node) (s : String) (c : Bool) :
    ∃ o t o', (watchCall s c).step env n = .ok o ∧ o.spawned = [t] ∧ t.step env' n' = .ok o' ∧
      o'.events = n'.config.others.map fun p => .send p (noticeOf n'.config.id s c) := by
  cases c <;> exact ⟨_, _, _, rfl, rfl, rfl, rfl⟩

/-- A call's step keeps the configuration and leaves `s` watched exactly when it is
`Observe(s)`. -/
theorem watchCall_step (env : Env) (n : Node) (s : String) (c : Bool) :
    ∃ o, (watchCall s c).step env n = .ok o ∧ o.node.config = n.config ∧
      decide (s ∈ o.node.store.watch) = c := by
  cases c
  · exact ⟨_, rfl, rfl, by simp [Store.removeSubject_watch]⟩
  · exact ⟨_, rfl, rfl, by simp [Store.mem_addSubject]⟩

/-- A notice's `LearnReport` records its sender as interested in its subject exactly when it
is a subscription. -/
theorem learnNotice_step (env : Env) (n : Node) (a s : String) (c : Bool) :
    ∃ o, (Task.learnReport (noticeOf a s c)).step env n = .ok o ∧
      decide ((a, s) ∈ o.node.exchange.interest) = c := by
  cases c
  · exact ⟨_, rfl, by simp [Exchange.uninterested_interest]⟩
  · exact ⟨_, rfl, by simp [Exchange.interested_interest]⟩

/-- After calls about `s`, `s` is watched as the last call says, or as before without
calls. -/
theorem watchAll_watch (env : Env) (s : String) (cs : List Bool) (n : Node) :
    ∃ n', n.watchAll env s cs = .ok n' ∧ n'.config = n.config ∧
      decide (s ∈ n'.store.watch) = cs.getLast?.getD (decide (s ∈ n.store.watch)) := by
  induction cs generalizing n with
  | nil => exact ⟨n, rfl, rfl, rfl⟩
  | cons c cs ih =>
    obtain ⟨o, ho, hcfg, hc⟩ := watchCall_step env n s c
    obtain ⟨n', hn', hcfg', hw⟩ := ih o.node
    refine ⟨n', by simp [Node.watchAll, ho, hn', bind, Except.bind], hcfg'.trans hcfg, ?_⟩
    rw [hw, hc, List.getLast?_cons]
    rfl

/-- After notices from `a` about `s`, `a` is recorded interested as the last notice says, or
as before without notices. -/
theorem learnAll_interest (env : Env) (a s : String) (ds : List Bool) (n : Node) :
    ∃ n', n.learnAll env (ds.map (noticeOf a s)) = .ok n' ∧
      decide ((a, s) ∈ n'.exchange.interest) =
        ds.getLast?.getD (decide ((a, s) ∈ n.exchange.interest)) := by
  induction ds generalizing n with
  | nil => exact ⟨n, rfl, rfl⟩
  | cons c ds ih =>
    obtain ⟨o, ho, hc⟩ := learnNotice_step env n a s c
    obtain ⟨n', hn', hi⟩ := ih o.node
    refine ⟨n', by simp [Node.learnAll, ho, hn', bind, Except.bind], ?_⟩
    rw [hi, hc, List.getLast?_cons]
    rfl

/-- **`B` agrees with `A` exactly when `A`'s last notice is delivered last.** Take any
nonempty sequence of `Observe(s)` and `StopObserving(s)` calls at `A`, and any order in which
`B` handles the notices they send, with no other traffic about `s`. Then `B` records `A` as
interested in `s` exactly when `s` is in `A`'s watch list, iff the notice `B` handled last is
the notice of `A`'s last call. -/
theorem peer_interest_agrees_iff (env envB : Env) (nA nB : Node) (s : String)
    {cs ds : List Bool} (hcs : cs ≠ []) (hds : ds.Perm cs) :
    ∃ nA' nB', nA.watchAll env s cs = .ok nA' ∧
      nB.learnAll envB (ds.map (noticeOf nA.config.id s)) = .ok nB' ∧
      (((nA.config.id, s) ∈ nB'.exchange.interest ↔ s ∈ nA'.store.watch) ↔
        ds.getLast? = cs.getLast?) := by
  have hds' : ds ≠ [] := fun h => hcs (h ▸ hds).symm.eq_nil
  obtain ⟨nA', hA, -, hw⟩ := watchAll_watch env s cs nA
  obtain ⟨nB', hB, hi⟩ := learnAll_interest envB nA.config.id s ds nB
  refine ⟨nA', nB', hA, hB, ?_⟩
  rw [List.getLast?_eq_getLast cs hcs, Option.getD_some] at hw
  rw [List.getLast?_eq_getLast ds hds', Option.getD_some] at hi
  rw [List.getLast?_eq_getLast cs hcs, List.getLast?_eq_getLast ds hds', Option.some_inj]
  revert hi hw
  cases cs.getLast hcs <;> cases ds.getLast hds' <;> simp_all

/-- A node `b` with peer `a`, without `GC`. -/
def nodeB : Config := ⟨"b", ["a", "b"], [], true, 180, 60, ⟨false, 0, 0, false⟩, true⟩

theorem peer_interest_agrees_in_call_order :
    [false, true] ≠ [] ∧ [false, true].Perm [false, true] ∧
    ∃ nA' nB', (Node.start nodeA none).watchAll ⟨[], []⟩ "s" [false, true] = .ok nA' ∧
      (Node.start nodeB none).learnAll ⟨[], []⟩ ([false, true].map (noticeOf "a" "s")) =
        .ok nB' ∧
      ((("a", "s") ∈ nB'.exchange.interest ↔ "s" ∈ nA'.store.watch) ↔
        [false, true].getLast? = [false, true].getLast?) :=
  ⟨by decide, .refl _, peer_interest_agrees_iff ⟨[], []⟩ ⟨[], []⟩ (Node.start nodeA none)
    (Node.start nodeB none) "s" (by decide) (.refl _)⟩

/-- At `a`: `StopObserving(s)`, then `Observe(s)`; the goroutine of the second call sends its
subscription before the goroutine of the first sends its unsubscription. -/
def stopThenObserve : List World.Choice :=
  [.run 0 [], .arrive (.stopObserving "s"), .run 1 [], .arrive (.observe "s"), .run 2 [],
   .run 2 [], .run 1 []]

theorem unsubscribe_delivered_last :
    ∃ w : World, World.Reachable nodeA none w ∧ w.Quiescent ∧ "s" ∈ w.node.store.watch ∧
      ∃ nB, (Node.start nodeB none).learnAll ⟨[], []⟩ (w.log.filterMap (Event.sentTo "b")) =
        .ok nB ∧ ("a", "s") ∉ nB.exchange.interest := by
  obtain ⟨w, hw, hq, hs, hsent⟩ : ∃ w, World.Reachable nodeA none w ∧ (w.Quiescent ∧
      "s" ∈ w.node.store.watch ∧
      w.log.filterMap (Event.sentTo "b") = [true, false].map (noticeOf "a" "s")) :=
    World.exists_of_exec stopThenObserve (by decide)
  obtain ⟨nB, hB, hi⟩ := learnAll_interest ⟨[], []⟩ "a" "s" [true, false] (Node.start nodeB none)
  exact ⟨w, hw, hq, hs, nB, hsent ▸ hB, by simpa using hi⟩

end Panorama
