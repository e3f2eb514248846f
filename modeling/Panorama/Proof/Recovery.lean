import Panorama.Proof.Handles

/-!
# Restoring persisted registrations

`SubmitReport` restores an entry of `old_registrations` into `registrations` when the handle is
not live and the report's observer is the entry's. `old_registrations` is read by `Start`
only after the server has begun to serve; until then it is `nil`, and the check refuses every
persisted handle as "Invalid submission handle". Calls never change `old_registrations`, so
at every state of a run a persisted handle that is not live is refused in the window and
restored exactly for its own observer after it (`check_persisted`). Once live, the check
passes the handle from `registrations` alone, whatever the report's observer
(`restored_handle_accepts_any_observer`): the `FIXIT` of service.go:211-216.

A restore does not look for a live entry of the same pair, as `Register`'s scan does.
`PairsUnique` (no two handles for one pair) is kept by `Register` while handles do not wrap
(`register_keeps_pairs_unique`), and under it `Register` answers the same in every map order
(`register_order_independent`). A restore of a pair that is already live breaks it
(`restore_duplicates_pair`), and `Register` then answers by map order.
-/

namespace Panorama.Registry

/-- No two handles of a table are bound to the same `(module, observer)` pair. -/
def PairsUnique (t : RegTable) : Prop :=
  ∀ k₁ k₂ r₁ r₂, t.lookup k₁ = some r₁ → t.lookup k₂ = some r₂ →
    r₁.module = r₂.module → r₁.observer = r₂.observer → k₁ = k₂

/-! ## The check of a persisted handle -/

/-- A registry of a run started on `persisted` has no `old_registrations` in `Start`'s
window, and `persisted` after the load. -/
theorem Reachable.old {persisted : Option RegTable} {s : Registry}
    (hs : Reachable persisted s) : s.oldRegistrations = none ∨ s.oldRegistrations = persisted :=
  hs.invariant (P := fun s : Registry => s.oldRegistrations = none ∨ s.oldRegistrations = persisted)
    (.inl rfl) (fun _ _ ha hab => by simpa only [hab.old_eq] using ha) fun _ _ => .inr rfl

/-- **Until a persisted handle is live**, the check refuses it in `Start`'s window, and after
the load restores it exactly when the report's observer is the persisted one, at every state
of a run started on the persisted table. -/
theorem check_persisted {persisted : RegTable} {s : Registry}
    (hs : Reachable (some persisted) s) {k : UInt64} {reg : Registration}
    (hreg : persisted.lookup k = some reg) (hk : k ∉ s.registrations) (r : Report) :
    (s.oldRegistrations = none ∧ s.check k (some r) = .ok (.invalid, s)) ∨
      (s.oldRegistrations = some persisted ∧ s.check k (some r) =
        if reg.observer = r.observer then
          .ok (.restored reg, { s with registrations := s.registrations.insert k reg })
        else .ok (.invalid, s)) := by
  rcases hs.old with hold | hold
  · exact .inl ⟨hold, by simp [check, AList.lookup_eq_none.2 hk, hold]⟩
  · exact .inr ⟨hold, by simp [check, AList.lookup_eq_none.2 hk, hold, hreg, bind, Except.bind]⟩

/-- `(m2, o2)` registers in `Start`'s window, on a database that binds `10001` to `(m, o)`;
`o` then submits on `10001` before the load. -/
theorem check_persisted_window :
    let p : RegTable := (∅ : RegTable).insert 10001 ⟨"m", "o", 10001, 0⟩
    let w := (new.register [] ⟨"m2", "o2"⟩ 0).2
    Reachable (some p) w ∧ 10001 ∉ w.registrations ∧
      ((w.oldRegistrations = none ∧ w.check 10001 (some ⟨"o", "s", none⟩) = .ok (.invalid, w)) ∨
        (w.oldRegistrations = some p ∧ w.check 10001 (some ⟨"o", "s", none⟩) =
          if "o" = "o" then .ok (.restored ⟨"m", "o", 10001, 0⟩,
            { w with registrations := w.registrations.insert 10001 ⟨"m", "o", 10001, 0⟩ })
          else .ok (.invalid, w))) := by
  intro p w
  have hw : Reachable (some p) w := .window (.single (.register _ _ (List.Perm.refl _)))
  have hk : (10001 : UInt64) ∉ w.registrations := by
    show (10001 : UInt64) ∉ [(10000 : UInt64)]
    decide
  exact ⟨hw, hk, check_persisted hw
    (show p.lookup 10001 = some ⟨"m", "o", 10001, 0⟩ from rfl) hk _⟩

/-- **After a restore, any observer passes.** With `(10000, mod, obs1)` persisted, a report
by `other` is refused, one by `obs1` restores the handle, and a second report by `other` is
then passed. -/
theorem restored_handle_accepts_any_observer :
    ((start (some ((∅ : RegTable).insert 10000 ⟨"mod", "obs1", 10000, 0⟩))).calls
      [.submit 10000 (some ⟨"other", "db", none⟩), .submit 10000 (some ⟨"obs1", "db", none⟩),
        .submit 10000 (some ⟨"other", "db", none⟩)]).map (·.1) =
    .ok [.check .invalid, .check (.restored ⟨"mod", "obs1", 10000, 0⟩), .check .live] := rfl

/-! ## One handle per pair -/

/-- Two scans of the same entries in different orders find the same pair, with the same
handle when the pair has one handle, and see the same largest handle otherwise. -/
theorem scan_perm {m o : String} {l₁ l₂ : List RegEntry} (hp : l₁.Perm l₂)
    (hu : ∀ e₁ ∈ l₁, ∀ e₂ ∈ l₁, e₁.2.module = m ∧ e₁.2.observer = o →
      e₂.2.module = m ∧ e₂.2.observer = o → e₁.1 = e₂.1) :
    scan m o l₁ 0 = scan m o l₂ 0 := by
  cases h₁ : scan m o l₁ 0 with
  | found k₁ =>
    obtain ⟨r₁, hm₁, hp₁⟩ := scan_found h₁
    obtain ⟨k₂, h₂⟩ := scan_found_of_mem (hp.mem_iff.1 hm₁) hp₁
    obtain ⟨r₂, hm₂, hp₂⟩ := scan_found h₂
    have hk : k₁ = k₂ := hu _ hm₁ _ (hp.mem_iff.2 hm₂) hp₁ hp₂
    rw [h₂, hk]
  | fresh mx₁ =>
    obtain ⟨hn₁, -, hle₁, hmx₁⟩ := scan_fresh h₁
    cases h₂ : scan m o l₂ 0 with
    | found k₂ =>
      obtain ⟨r₂, hm₂, hp₂⟩ := scan_found h₂
      exact absurd hp₂ (hn₁ _ (hp.mem_iff.2 hm₂))
    | fresh mx₂ =>
      obtain ⟨-, -, hle₂, hmx₂⟩ := scan_fresh h₂
      have bound {a b : UInt64} {la lb : List RegEntry} (hsub : ∀ e ∈ la, e ∈ lb)
          (ha : a = 0 ∨ ∃ e ∈ la, e.1 = a) (hb : ∀ e ∈ lb, e.1 ≤ b) : a ≤ b := by
        rcases ha with rfl | ⟨e, he, rfl⟩
        · simp [UInt64.le_iff_toNat]
        · exact hb e (hsub e he)
      have h12 := bound (fun _ => hp.mem_iff.1) hmx₁ hle₂
      have h21 := bound (fun _ => hp.mem_iff.2) hmx₂ hle₁
      rw [UInt64.le_iff_toNat] at h12 h21
      rw [UInt64.toNat_inj.1 (Nat.le_antisymm h12 h21)]

theorem pairs_unique_entries {t : RegTable} (hu : PairsUnique t) {m o : String} :
    ∀ e₁ ∈ t.entries, ∀ e₂ ∈ t.entries, e₁.2.module = m ∧ e₁.2.observer = o →
      e₂.2.module = m ∧ e₂.2.observer = o → e₁.1 = e₂.1 := by
  rintro ⟨k₁, r₁⟩ h₁ ⟨k₂, r₂⟩ h₂ ⟨hm₁, ho₁⟩ ⟨hm₂, ho₂⟩
  exact hu k₁ k₂ r₁ r₂ (AList.mem_lookup_iff.2 h₁) (AList.mem_lookup_iff.2 h₂)
    (hm₁.trans hm₂.symm) (ho₁.trans ho₂.symm)

/-- **With one handle per pair, `Register` does not depend on the map order.** -/
theorem register_order_independent {s : Registry} (hu : PairsUnique s.registrations)
    {order₁ order₂ : List RegEntry} (h₁ : order₁.Perm s.registrations.entries)
    (h₂ : order₂.Perm s.registrations.entries) (req : RegisterRequest) (now : Nat) :
    s.register order₁ req now = s.register order₂ req now := by
  have hs : scan req.module req.observer order₁ 0 = scan req.module req.observer order₂ 0 :=
    scan_perm (h₁.trans h₂.symm) fun e₁ he₁ e₂ he₂ =>
      pairs_unique_entries hu e₁ (h₁.mem_iff.1 he₁) e₂ (h₁.mem_iff.1 he₂)
  simp only [register, hs]

/-- Binding a handle to a pair that no handle of the table has keeps pairs unique, whether or
not the handle was bound before. -/
theorem PairsUnique.insert {t : RegTable} (hu : PairsUnique t) (k : UInt64) {reg : Registration}
    (hfree : ∀ k' r', t.lookup k' = some r' →
      ¬(r'.module = reg.module ∧ r'.observer = reg.observer)) :
    PairsUnique (t.insert k reg) := by
  intro k₁ k₂ r₁ r₂ h₁ h₂ hm ho
  by_cases e₁ : k₁ = k <;> by_cases e₂ : k₂ = k
  · exact e₁.trans e₂.symm
  · subst e₁
    rw [AList.lookup_insert] at h₁
    rw [AList.lookup_insert_ne e₂] at h₂
    cases h₁
    exact absurd ⟨hm.symm, ho.symm⟩ (hfree _ _ h₂)
  · subst e₂
    rw [AList.lookup_insert] at h₂
    rw [AList.lookup_insert_ne e₁] at h₁
    cases h₂
    exact absurd ⟨hm, ho⟩ (hfree _ _ h₁)
  · rw [AList.lookup_insert_ne e₁] at h₁
    rw [AList.lookup_insert_ne e₂] at h₂
    exact hu _ _ _ _ h₁ h₂ hm ho

/-- `Register` keeps one handle per pair, in every map order: it binds a pair only after its
scan found no entry of it (even when the handle wraps onto a bound one). -/
theorem register_keeps_pairs_unique {s : Registry} {order : List RegEntry}
    (horder : order.Perm s.registrations.entries) (hu : PairsUnique s.registrations)
    (req : RegisterRequest) (now : Nat) :
    PairsUnique (s.register order req now).2.registrations := by
  cases hs : scan req.module req.observer order 0 with
  | found h => rwa [register_found hs]
  | fresh mx =>
    rw [register_fresh hs, allocate_registrations]
    exact hu.insert _ fun k r hk =>
      (scan_fresh hs).1 ⟨k, r⟩ (horder.mem_iff.2 (AList.mem_lookup_iff.1 hk))

/-- A call that binds a new handle only to a pair that is not live. Every `Register` is one;
a restore is one unless its pair already has a live handle. -/
def CleanStep (s s' : Registry) : Prop :=
  Step s s' ∧ ∀ k reg, k ∉ s.registrations → s'.registrations.lookup k = some reg →
    ∀ k' r', s.registrations.lookup k' = some r' →
      ¬(r'.module = reg.module ∧ r'.observer = reg.observer)

theorem CleanStep.pairs_unique {s s' : Registry} (hs : CleanStep s s')
    (hu : PairsUnique s.registrations) : PairsUnique s'.registrations := by
  obtain ⟨hstep, hfree⟩ := hs
  cases hstep with
  | register req now horder => exact register_keeps_pairs_unique horder hu req now
  | submit handle report hc =>
    rcases check_cases hc with ⟨-, rfl, -⟩ | ⟨_, reg, _, -, hk, -, -, -, -, rfl⟩ | ⟨-, rfl⟩
    · exact hu
    · exact hu.insert _ (hfree handle reg hk (AList.lookup_insert _))
    · exact hu

/-- Every `Register` is a clean step: it binds a handle only after its scan found no entry
of the pair. -/
theorem CleanStep.register {s : Registry} {order : List RegEntry}
    (horder : order.Perm s.registrations.entries) (req : RegisterRequest) (now : Nat) :
    CleanStep s (s.register order req now).2 := by
  refine ⟨.register req now horder, fun k reg hk hl k' r' hl' hpair => ?_⟩
  have hmem {x : Registration} (h : s.registrations.lookup k = some x) : False :=
    hk (AList.lookup_isSome.1 (by simp [h]))
  cases hs : scan req.module req.observer order 0 with
  | found h => rw [register_found hs] at hl; exact hmem hl
  | fresh mx =>
    rw [register_fresh hs, allocate_registrations] at hl
    by_cases hkf : k = s.fresh mx
    · subst hkf
      rw [AList.lookup_insert, Option.some.injEq] at hl
      subst hl
      exact (scan_fresh hs).1 ⟨k', r'⟩ (horder.mem_iff.2 (AList.mem_lookup_iff.1 hl')) hpair
    · rw [AList.lookup_insert_ne hkf] at hl
      exact hmem hl

theorem clean_run_pairs_unique {persisted : Option RegTable} {s : Registry}
    (hrun : StartRun CleanStep new (·.load persisted) s) : PairsUnique s.registrations :=
  hrun.invariant (P := fun s : Registry => PairsUnique s.registrations)
    (fun _ _ _ _ h₁ => by simp at h₁) (fun _ _ hu hab => hab.pairs_unique hu) fun _ hu => hu

/-- **In runs without a restore of a live pair, `Register` is order independent**: every
pair has at most one handle, so `Register` returns the same handle in every map order. This
holds in `Start`'s window and after the load. -/
theorem clean_run_register_order_independent {persisted : Option RegTable} {s : Registry}
    (hrun : StartRun CleanStep new (·.load persisted) s)
    {order₁ order₂ : List RegEntry} (h₁ : order₁.Perm s.registrations.entries)
    (h₂ : order₂.Perm s.registrations.entries) (req : RegisterRequest) (now : Nat) :
    PairsUnique s.registrations ∧ s.register order₁ req now = s.register order₂ req now := by
  have hu := clean_run_pairs_unique hrun
  exact ⟨hu, register_order_independent hu h₁ h₂ req now⟩

/-- `Register(m, o)` again on `twoLive`, in its entries' order and in reverse. -/
theorem clean_run_register_order_independent_twoLive :
    PairsUnique twoLive.registrations ∧
      twoLive.register twoLive.registrations.entries ⟨"m", "o"⟩ 2 =
        twoLive.register twoLive.registrations.entries.reverse ⟨"m", "o"⟩ 2 :=
  clean_run_register_order_independent
    (show StartRun CleanStep new (·.load none) twoLive from
      .loaded .refl (.tail (.single (CleanStep.register (List.Perm.refl _) _ _))
        (CleanStep.register (List.Perm.refl _) _ _)))
    (List.Perm.refl _) (List.reverse_perm _) _ _

/-- **A restore duplicates a pair.** With `(10001, m, o)` persisted, `Register(m, o)` gets
`10000`; a report by `o` on `10001` then restores it, and both handles are bound to
`(m, o)`. `Register(m, o)` now answers `10001` or `10000` depending on the map order. -/
theorem restore_duplicates_pair :
    ∃ s, Reachable (some ((∅ : RegTable).insert 10001 ⟨"m", "o", 10001, 0⟩)) s ∧
      s.registrations.lookup 10000 = some ⟨"m", "o", 10000, 1⟩ ∧
      s.registrations.lookup 10001 = some ⟨"m", "o", 10001, 0⟩ ∧
      (s.register s.registrations.entries ⟨"m", "o"⟩ 2).1 = 10001 ∧
      (s.register s.registrations.entries.reverse ⟨"m", "o"⟩ 2).1 = 10000 :=
  ⟨_, .loaded .refl (calls_run (show (start (some ((∅ : RegTable).insert 10001
      ⟨"m", "o", 10001, 0⟩))).calls
        [.register ⟨"m", "o"⟩ 1, .submit 10001 (some ⟨"o", "s", none⟩)] = .ok (_, _) from rfl)),
    by decide, by decide, by decide, by decide⟩

end Panorama.Registry
