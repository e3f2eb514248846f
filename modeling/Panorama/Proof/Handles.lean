import Panorama.Spec.Registry

/-!
# Handle allocation

What `Register` and `SubmitReport`'s check do to the registry, said once (`scan_found`,
`scan_fresh`, `register_cases`, `check_cases`), and what follows over runs.

* `register_allocates`: a fresh handle is at least `next_handle` (so at least `HANDLE_START`)
  and above every handle in `registrations`, and `next_handle` becomes the handle plus one,
  provided no handle in `registrations` is `2 ^ 64 - 1`.
* `register_wraps_to_zero`: without that proviso the allocation wraps. After an old handle
  `2 ^ 64 - 1` is restored, two fresh `Register`s both get handle `0`, and the second rebinds it.
* `register_reuses_persisted_handle`, `persisted_binding_shadowed`: `Register` never reads
  `old_registrations`, so after a restart it hands out `10000` again, whatever the persisted
  table binds `10000` to. From then on the live entry shadows the persisted one: a handle in
  `registrations` stays there, and the check never consults `old_registrations` for it again.
-/

namespace Panorama.Registry

variable {m o : String}

/-! ## The scan -/

/-- A found handle belongs to an entry of the pair. -/
theorem scan_found {l : List RegEntry} {acc h : UInt64} (hs : scan m o l acc = .found h) :
    ∃ r, (⟨h, r⟩ : RegEntry) ∈ l ∧ r.module = m ∧ r.observer = o := by
  induction l generalizing acc with
  | nil => simp [scan] at hs
  | cons e rest ih =>
    obtain ⟨k, r⟩ := e
    simp only [scan] at hs
    split at hs
    · simp only [Scan.found.injEq] at hs
      subst hs
      exact ⟨r, List.mem_cons_self _ _, ‹_›⟩
    · obtain ⟨r', hm, hr⟩ := ih hs
      exact ⟨r', List.mem_cons_of_mem _ hm, hr⟩

/-- A scan that finds nothing saw no entry of the pair, and returns the largest of the
handles and the start value. -/
theorem scan_fresh {l : List RegEntry} {acc mx : UInt64} (hs : scan m o l acc = .fresh mx) :
    (∀ e ∈ l, ¬(e.2.module = m ∧ e.2.observer = o)) ∧ acc ≤ mx ∧ (∀ e ∈ l, e.1 ≤ mx) ∧
      (mx = acc ∨ ∃ e ∈ l, e.1 = mx) := by
  induction l generalizing acc with
  | nil =>
    simp only [scan, Scan.fresh.injEq] at hs
    subst hs
    simp
  | cons e rest ih =>
    obtain ⟨k, r⟩ := e
    simp only [scan] at hs
    split at hs
    · cases hs
    · rename_i hne
      obtain ⟨h1, h2, h3, h4⟩ := ih hs
      have hk : acc ≤ (if k > acc then k else acc) ∧ k ≤ (if k > acc then k else acc) := by
        split <;> simp only [UInt64.le_iff_toNat, UInt64.lt_iff_toNat, gt_iff_lt] at * <;> omega
      simp only [List.mem_cons, forall_eq_or_imp, exists_eq_or_imp]
      refine ⟨⟨hne, h1⟩, UInt64.le_trans hk.1 h2, ⟨UInt64.le_trans hk.2 h2, h3⟩, ?_⟩
      rcases h4 with h4 | h4
      · split at h4
        · exact .inr (.inl h4.symm)
        · exact .inl h4
      · exact .inr (.inr h4)

/-- An entry of the pair makes the scan find a handle. -/
theorem scan_found_of_mem {l : List RegEntry} {acc : UInt64} {e : RegEntry} (he : e ∈ l)
    (hm : e.2.module = m ∧ e.2.observer = o) : ∃ h, scan m o l acc = .found h := by
  cases hs : scan m o l acc with
  | found h => exact ⟨h, rfl⟩
  | fresh mx => exact absurd hm ((scan_fresh hs).1 e he)

/-! ## `Register` and the check, once -/

/-- **What `Register` can do**: return the handle its scan found and change nothing, or
allocate `fresh` after a scan that found nothing. -/
theorem register_cases {s s' : Registry} {order : List RegEntry} {req : RegisterRequest}
    {now : Nat} {h : UInt64} (hr : s.register order req now = (h, s')) :
    (scan req.module req.observer order 0 = .found h ∧ s' = s) ∨
      ∃ mx, scan req.module req.observer order 0 = .fresh mx ∧ h = s.fresh mx ∧
        s' = (s.allocate mx req now).2 := by
  cases hs : scan req.module req.observer order 0 with
  | found k =>
    rw [register_found hs] at hr
    obtain ⟨rfl, rfl⟩ := Prod.mk.inj hr
    exact .inl ⟨rfl, rfl⟩
  | fresh mx =>
    rw [register_fresh hs] at hr
    exact .inr ⟨mx, rfl, by simpa using (congrArg Prod.fst hr).symm,
      (congrArg Prod.snd hr).symm⟩

/-- **What the check can do**: pass a live handle, restore a persisted entry whose observer
is the report's, or refuse; only a restore changes the registry. -/
theorem check_cases {s s' : Registry} {c : Check} {handle : UInt64} {report : Option Report}
    (hc : s.check handle report = .ok (c, s')) :
    (c = .live ∧ s' = s ∧ handle ∈ s.registrations) ∨
    (∃ old reg r, c = .restored reg ∧ handle ∉ s.registrations ∧ s.oldRegistrations = some old ∧
      old.lookup handle = some reg ∧ report = some r ∧ reg.observer = r.observer ∧
      s' = { s with registrations := s.registrations.insert handle reg }) ∨
    (c = .invalid ∧ s' = s) := by
  unfold check at hc
  split at hc
  · rename_i r hl
    simp only [Except.ok.injEq, Prod.mk.injEq] at hc
    exact .inl ⟨hc.1.symm, hc.2.symm, AList.lookup_isSome.1 (by simp [hl])⟩
  · rename_i hl
    have hnot : handle ∉ s.registrations := AList.lookup_eq_none.1 hl
    split at hc
    · simp only [Except.ok.injEq, Prod.mk.injEq] at hc
      exact .inr (.inr ⟨hc.1.symm, hc.2.symm⟩)
    · rename_i old hold
      split at hc
      · simp only [Except.ok.injEq, Prod.mk.injEq] at hc
        exact .inr (.inr ⟨hc.1.symm, hc.2.symm⟩)
      · rename_i reg hreg
        cases report with
        | none => simp [bind, Except.bind] at hc
        | some r =>
          simp only [deref_some_bind] at hc
          split at hc
          · simp only [Except.ok.injEq, Prod.mk.injEq] at hc
            exact .inr (.inl ⟨old, reg, r, hc.1.symm, hnot, hold, hreg, rfl, ‹_›, hc.2.symm⟩)
          · simp only [Except.ok.injEq, Prod.mk.injEq] at hc
            exact .inr (.inr ⟨hc.1.symm, hc.2.symm⟩)

theorem fresh_spec (s : Registry) {mx : UInt64} (hmx : mx.toNat < 18446744073709551615) :
    mx < s.fresh mx ∧ s.nextHandle ≤ s.fresh mx := by
  have := UInt64.toNat_succ_of_lt hmx
  unfold fresh
  split <;> simp only [UInt64.le_iff_toNat, UInt64.lt_iff_toNat, gt_iff_lt] at * <;> omega

/-! ## Registrations only grow -/

theorem register_keys_mono (s : Registry) (order : List RegEntry) (req : RegisterRequest)
    (now : Nat) {k : UInt64} (hk : k ∈ s.registrations) :
    k ∈ (s.register order req now).2.registrations := by
  cases hs : scan req.module req.observer order 0 with
  | found h => rw [register_found hs]; exact hk
  | fresh mx => rw [register_fresh hs]; simp [AList.mem_insert, hk]

theorem Step.keys_mono {s s' : Registry} (hs : Step s s') {k : UInt64}
    (hk : k ∈ s.registrations) : k ∈ s'.registrations := by
  cases hs with
  | register req now _ => exact register_keys_mono s _ req now hk
  | submit handle report hc =>
    rcases check_cases hc with ⟨-, rfl, -⟩ | ⟨_, _, _, -, -, -, -, -, -, rfl⟩ | ⟨-, rfl⟩
    · exact hk
    · simp [AList.mem_insert, hk]
    · exact hk

theorem Step.old_eq {s s' : Registry} (hs : Step s s') :
    s'.oldRegistrations = s.oldRegistrations := by
  cases hs with
  | @register order req now _ =>
    cases hs : scan req.module req.observer order 0 with
    | found h => rw [register_found hs]
    | fresh mx => rw [register_fresh hs]; rfl
  | submit handle report hc =>
    rcases check_cases hc with ⟨-, rfl, -⟩ | ⟨_, _, _, -, -, -, -, -, -, rfl⟩ | ⟨-, rfl⟩ <;> rfl

theorem run_keys_mono {s s' : Registry} (hrun : Relation.ReflTransGen Step s s') {k : UInt64}
    (hk : k ∈ s.registrations) : k ∈ s'.registrations := by
  induction hrun with
  | refl => exact hk
  | tail _ hs ih => exact hs.keys_mono ih

theorem run_old_eq {s s' : Registry} (hrun : Relation.ReflTransGen Step s s') :
    s'.oldRegistrations = s.oldRegistrations := by
  induction hrun with
  | refl => rfl
  | tail _ hs ih => rw [hs.old_eq, ih]

theorem call_step {s s' : Registry} {c : Call} {r : Result} (h : s.call c = .ok (r, s')) :
    Step s s' := by
  cases c with
  | register req now =>
    simp only [call, Except.ok.injEq, Prod.mk.injEq] at h
    rw [← h.2]
    exact .register req now (List.Perm.refl _)
  | submit handle report =>
    simp only [call] at h
    cases hc : s.check handle report with
    | error e => simp [hc, Except.map] at h
    | ok p =>
      simp only [hc, Except.map, Except.ok.injEq, Prod.mk.injEq] at h
      exact .submit (c := p.1) handle report (by rw [hc, ← h.2])

/-- A scripted run is a run. -/
theorem calls_run {s s' : Registry} {cs : List Call} {rs : List Result}
    (h : s.calls cs = .ok (rs, s')) : Relation.ReflTransGen Step s s' := by
  induction cs generalizing s rs with
  | nil =>
    simp only [calls, Except.ok.injEq, Prod.mk.injEq] at h
    rw [h.2]
  | cons c cs ih =>
    simp only [calls, bind, Except.bind] at h
    split at h
    · cases h
    · rename_i p hp
      split at h
      · cases h
      · rename_i q hq
        obtain ⟨q1, q2⟩ := q
        simp only [Except.ok.injEq, Prod.mk.injEq] at h
        obtain ⟨-, rfl⟩ := h
        exact Relation.ReflTransGen.head (call_step hp) (ih hq)

/-! ## Fresh handles -/

theorem mem_of_entry {s : Registry} {e : RegEntry} (he : e ∈ s.registrations.entries) :
    e.1 ∈ s.registrations :=
  AList.mem_keys.2 (List.mem_keys_of_mem he)

theorem entry_of_mem {s : Registry} {k : UInt64} (hk : k ∈ s.registrations) :
    ∃ r, (⟨k, r⟩ : RegEntry) ∈ s.registrations.entries :=
  List.mem_keys.1 (AList.mem_keys.1 hk)

/-- The handle `Register` returns is in `registrations` after it, found or allocated. -/
theorem register_mem (s : Registry) {order : List RegEntry}
    (horder : order.Perm s.registrations.entries) (req : RegisterRequest) (now : Nat) :
    (s.register order req now).1 ∈ (s.register order req now).2.registrations := by
  cases hs : scan req.module req.observer order 0 with
  | found h =>
    obtain ⟨r, hm, -⟩ := scan_found hs
    rw [register_found hs]
    exact mem_of_entry (horder.subset hm)
  | fresh mx => simp [register_fresh hs, AList.mem_insert]

/-- **A fresh handle**, while no handle in `registrations` is `2 ^ 64 - 1`: at least
`next_handle`, above every handle in `registrations`, bound to the pair, and one below the
new `next_handle`. -/
theorem register_allocates {s s' : Registry} {order : List RegEntry} {req : RegisterRequest}
    {now : Nat} {h : UInt64} (horder : order.Perm s.registrations.entries)
    (hnew : ∀ e ∈ s.registrations.entries,
      ¬(e.2.module = req.module ∧ e.2.observer = req.observer))
    (hmax : ∀ k ∈ s.registrations, k.toNat < 18446744073709551615)
    (hr : s.register order req now = (h, s')) :
    s.nextHandle ≤ h ∧ (∀ k ∈ s.registrations, k < h) ∧ s'.nextHandle = h + 1 ∧
      s'.registrations = s.registrations.insert h ⟨req.module, req.observer, h, now⟩ := by
  rcases register_cases hr with ⟨hs, -⟩ | ⟨mx, hs, rfl, rfl⟩
  · obtain ⟨r, hm, hpair⟩ := scan_found hs
    exact absurd hpair (hnew _ (horder.mem_iff.1 hm))
  · obtain ⟨-, -, hle, hmx⟩ := scan_fresh hs
    have hlt : mx.toNat < 18446744073709551615 := by
      rcases hmx with rfl | ⟨e, he, rfl⟩
      · decide
      · exact hmax _ (mem_of_entry (horder.mem_iff.1 he))
    obtain ⟨h1, h2⟩ := fresh_spec s hlt
    refine ⟨h2, fun k hk => ?_, rfl, rfl⟩
    obtain ⟨r, hr⟩ := entry_of_mem hk
    have := hle _ (horder.mem_iff.2 hr)
    simp only [UInt64.le_iff_toNat, UInt64.lt_iff_toNat] at *
    omega

/-- The registry after `Register(m, o)` and `Register(m2, o2)`, which bind `10000` and
`10001`. -/
def twoLive : Registry :=
  let s := ((start none).register [] ⟨"m", "o"⟩ 0).2
  (s.register s.registrations.entries ⟨"m2", "o2"⟩ 1).2

/-- `Register(m3, o3)` on `twoLive`, visiting its entries in reverse order. -/
theorem register_allocates_twoLive :
    twoLive.nextHandle ≤ 10002 ∧ (∀ k ∈ twoLive.registrations, k < 10002) ∧
      (twoLive.register twoLive.registrations.entries.reverse ⟨"m3", "o3"⟩ 2).2.nextHandle =
        10002 + 1 ∧
      (twoLive.register twoLive.registrations.entries.reverse ⟨"m3", "o3"⟩ 2).2.registrations =
        twoLive.registrations.insert 10002 ⟨"m3", "o3", 10002, 2⟩ :=
  @register_allocates twoLive _ _ ⟨"m3", "o3"⟩ 2 10002 (List.reverse_perm _) (by decide)
    (fun k hk => by
      have hk' : k ∈ [10001, 10000] := hk
      simp only [List.mem_cons, List.mem_singleton, List.not_mem_nil, or_false] at hk'
      rcases hk' with rfl | rfl <;> decide)
    rfl

/-- **The allocation wraps.** A persisted entry for handle `2 ^ 64 - 1` is restored; the next
fresh `Register` gets handle `0`, below `HANDLE_START` and below the restored handle, and
leaves `next_handle = 1`; the one after gets `0` again and rebinds it to its own pair. -/
theorem register_wraps_to_zero :
    ((start (some ((∅ : RegTable).insert 18446744073709551615
        ⟨"m", "o", 18446744073709551615, 0⟩))).calls
      [.submit 18446744073709551615 (some ⟨"o", "s", none⟩), .register ⟨"m1", "o1"⟩ 1,
        .register ⟨"m2", "o2"⟩ 2]).map
      (fun p => (p.1, p.2.registrations.lookup 0, p.2.nextHandle)) =
    .ok ([.check (.restored ⟨"m", "o", 18446744073709551615, 0⟩), .handle 0, .handle 0],
      some ⟨"m2", "o2", 0, 2⟩, 1) := rfl

/-! ## Restarts -/

/-- **A fresh handle can be a persisted handle of another pair.** A run registers `(m, o)`
as `10000` and persists it; after the restart `Register(m2, o2)` finds nothing in the empty
`registrations` and allocates `10000` again, which `old_registrations` binds to `(m, o)`. -/
theorem register_reuses_persisted_handle :
    let s := ((start (some ∅)).register [] ⟨"m", "o"⟩ 0).2.restart
    scan "m2" "o2" s.registrations.entries 0 = .fresh 0 ∧
      (s.register s.registrations.entries ⟨"m2", "o2"⟩ 1).1 = 10000 ∧
      s.oldRegistrations.bind (AList.lookup 10000) = some ⟨"m", "o", 10000, 0⟩ := by
  decide

/-- **`Register` never reads `old_registrations`, and a live entry shadows a persisted one.**
The handle `Register` returns is the same whatever `old_registrations` holds; and once a
handle is in `registrations`, it stays there for the rest of the run and the check passes it
from `registrations` alone, so its persisted entry is never restored. -/
theorem persisted_binding_shadowed (s : Registry) (old : Option RegTable)
    (order : List RegEntry) (req : RegisterRequest) (now : Nat) {s' : Registry}
    (hrun : Relation.ReflTransGen Step s s') :
    ({ s with oldRegistrations := old }.register order req now).1 =
        (s.register order req now).1 ∧
      ∀ k ∈ s.registrations, k ∈ s'.registrations ∧
        ∀ report, s'.check k report = .ok (.live, s') := by
  refine ⟨?_, fun k hk => ⟨run_keys_mono hrun hk, check_live (run_keys_mono hrun hk)⟩⟩
  cases hs : scan req.module req.observer order 0 with
  | found h => rw [register_found hs, register_found hs]
  | fresh mx => rw [register_fresh hs, register_fresh hs]; rfl

/-- The run of `register_reuses_persisted_handle` after its restart: `Register(m2, o2)` has
bound `10000`, which `old_registrations` binds to `(m, o)`. -/
def reboundAfterRestart : Registry :=
  let s := ((start (some ∅)).register [] ⟨"m", "o"⟩ 0).2.restart
  (s.register s.registrations.entries ⟨"m2", "o2"⟩ 1).2

/-- On `reboundAfterRestart`, `(m, o)`'s observer submits on its old handle `10000`: the
check passes it as live, for `(m2, o2)`, and restores nothing. -/
theorem persisted_binding_shadowed_rebound :
    ({ reboundAfterRestart with oldRegistrations := none }.register
        reboundAfterRestart.registrations.entries ⟨"m3", "o3"⟩ 2).1 =
        (reboundAfterRestart.register reboundAfterRestart.registrations.entries
          ⟨"m3", "o3"⟩ 2).1 ∧
      ∀ k ∈ reboundAfterRestart.registrations, k ∈ reboundAfterRestart.registrations ∧
        ∀ report, reboundAfterRestart.check k report = .ok (.live, reboundAfterRestart) :=
  persisted_binding_shadowed reboundAfterRestart none _ ⟨"m3", "o3"⟩ 2
    (.single (.submit (c := .live) 10000 (some ⟨"o", "s", none⟩) rfl))

end Panorama.Registry
