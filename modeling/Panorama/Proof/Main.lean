import Panorama.Proof.Lifecycle
import Panorama.Spec.Main

/-!
# What `main` starts

* `main_port_in_range`: without a configuration file, an address with no port gets a port of
  `[-port_start, -port_end)`, provided the range is not empty and its width fits Go's `int`;
* `main_flags_never_gc`: a server started without a configuration file never runs a `GC`
  goroutine, whatever `Start`s and `Stop`s follow: its `GCConfig` is zero, so `gc_frequency`
  keeps its initial `0`.

Both follow from `main_cases`, which says once what `main` can return.

* `main_failed_start_hangs`: `main` drops the error of `Start`. When `Start` cannot listen and
  `-cpuprofile` is not given, the process never serves and never exits: nothing writes to the
  channel it waits on (`Proc.Exits`).
-/

namespace Panorama

theorem intn_ok {n v : Int} {draw : Nat} (h : intn n draw = .ok v) : 0 ≤ v ∧ v < n := by
  unfold intn at h
  split_ifs at h with hn
  cases h
  exact ⟨Int.emod_nonneg _ (by omega), Int.emod_lt_of_pos _ (by omega)⟩

variable {flags : Flags} {loaded : Except String HealthServerConfig} {draw : Nat}
  {cfg : HealthServerConfig}

/-- **What `main` can return.** From a file: the loaded configuration, whose `Id` has an
address in `Peers` that is its `Addr` or becomes it. From the flags: the zero configuration
with the one argument as `Id`, `-dbfile`, and `-addr` as it is when it has a port, or with a
drawn port. -/
theorem main_cases (h : main flags loaded draw = .ok cfg) :
    (flags.config ≠ "" ∧ ∃ config myaddr, loaded = .ok config ∧
      config.peers.lookup config.id = some myaddr ∧
      (config.addr = "" ∧ cfg = { config with addr := myaddr } ∨
        config.addr = myaddr ∧ cfg = config)) ∨
    (flags.config = "" ∧ ∃ faddr id, flags.args = [id] ∧
      cfg = ⟨faddr, id, ∅, flags.dbfile, ⟨false, 0, 0, false⟩⟩ ∧
      (':' ∈ flags.addr.data ∧ faddr = flags.addr ∨
        ':' ∉ flags.addr.data ∧
          ∃ n, intn (wrapInt64 (flags.portEnd - flags.portStart)) draw = .ok n ∧
            faddr = flags.addr ++ ":" ++ toString (wrapInt64 (flags.portStart + n)))) := by
  unfold main at h
  by_cases hc : flags.config = ""
  · rw [if_neg (not_not.2 hc)] at h
    refine .inr ⟨hc, ?_⟩
    by_cases hcol : ':' ∈ flags.addr.data
    · have hb : flags.addr.data.contains ':' = true := by simpa using hcol
      simp only [hb, if_true, bind, Except.bind, pure, Except.pure] at h
      split at h
      · cases h
        exact ⟨_, _, ‹_›, rfl, .inl ⟨hcol, rfl⟩⟩
      · cases h
    · have hb : flags.addr.data.contains ':' = false := by simpa using hcol
      cases hn : intn (wrapInt64 (flags.portEnd - flags.portStart)) draw with
      | error e => simp [hcol, hn, bind, Except.bind] at h
      | ok n =>
        simp only [hb, hn, Bool.false_eq_true, if_false, bind, Except.bind, pure,
          Except.pure] at h
        split at h
        · cases h
          exact ⟨_, _, ‹_›, rfl, .inr ⟨hcol, n, rfl, rfl⟩⟩
        · cases h
  · rw [if_pos hc] at h
    refine .inl ⟨hc, ?_⟩
    split at h
    · cases h
    · rename_i config
      split at h
      · cases h
      · rename_i myaddr hl
        split_ifs at h with ha hne
        · cases h
          exact ⟨config, myaddr, rfl, hl, .inl ⟨ha, rfl⟩⟩
        · cases h
          exact ⟨_, myaddr, rfl, hl, .inr ⟨not_not.1 hne, rfl⟩⟩

/-- **A drawn port lies in its range.** Without a configuration file, when `-addr` has no
port and `[-port_start, -port_end)` is a non-empty range whose width fits Go's `int`, the
server listens at `-addr` with a port of that range. -/
theorem main_port_in_range (hc : flags.config = "") (hno : ':' ∉ flags.addr.data)
    (hlt : flags.portStart < flags.portEnd)
    (hwidth : flags.portEnd - flags.portStart < 9223372036854775808)
    (h : main flags loaded draw = .ok cfg) :
    ∃ port, flags.portStart ≤ port ∧ port < flags.portEnd ∧
      cfg.addr = flags.addr ++ ":" ++ toString port := by
  rcases main_cases h with ⟨hc', -⟩ | ⟨-, faddr, id, -, rfl, ⟨hyes, -⟩ | ⟨-, n, hn, rfl⟩⟩
  · exact absurd hc hc'
  · exact absurd hyes hno
  · have hs := flags.portStart_int
    have he := flags.portEnd_int
    unfold IsInt64 at hs he
    rw [wrapInt64_of_isInt64 (by unfold IsInt64; omega)] at hn
    have hr := intn_ok hn
    rw [wrapInt64_of_isInt64 (by unfold IsInt64; omega)]
    exact ⟨flags.portStart + n, by omega, by omega, rfl⟩

/-- With the default flags and one argument, `main` draws a port of `[10000, 30000)`. -/
theorem main_port_in_range_defaults :
    (Flags.defaults ["a"]).config = "" ∧ ':' ∉ (Flags.defaults ["a"]).addr.data ∧
      (Flags.defaults ["a"]).portStart < (Flags.defaults ["a"]).portEnd ∧
      (Flags.defaults ["a"]).portEnd - (Flags.defaults ["a"]).portStart < 9223372036854775808 ∧
      main (Flags.defaults ["a"]) (.error "") 25000 =
        .ok ⟨"localhost:15000", "a", ∅, "deephealth.db", ⟨false, 0, 0, false⟩⟩ ∧
      ∃ port, (Flags.defaults ["a"]).portStart ≤ port ∧ port < (Flags.defaults ["a"]).portEnd ∧
        "localhost:15000" = (Flags.defaults ["a"]).addr ++ ":" ++ toString port := by
  have h : main (Flags.defaults ["a"]) (.error "") 25000 =
      .ok ⟨"localhost:15000", "a", ∅, "deephealth.db", ⟨false, 0, 0, false⟩⟩ := rfl
  have hno : ':' ∉ (Flags.defaults ["a"]).addr.data := by decide
  exact ⟨rfl, hno, by decide, by decide, h, main_port_in_range rfl hno (by decide) (by decide) h⟩

/-- **Without a configuration file, no `GC`.** A server that `main` starts without
`-config` never has a `GC` goroutine, at any state of its lifecycle: `main` leaves `GCConfig`
zero, so `NewHealthGServer` leaves `gc_frequency` at `0` and `Start` starts none. -/
theorem main_flags_never_gc (hc : flags.config = "") (h : main flags loaded draw = .ok cfg)
    {s : Server} (hs : Server.Reachable (gcParams [cfg.gc]).frequency cfg.addr s) :
    s.loops = [] := by
  rcases main_cases h with ⟨hc', -⟩ | ⟨-, faddr, id, -, rfl, -⟩
  · exact absurd hc hc'
  · exact Server.loops_nil_of_nonpos (le_refl _) hs

/-- The server of the default flags after `Start`. -/
theorem main_flags_never_gc_started :
    (Flags.defaults ["a"]).config = "" ∧
      main (Flags.defaults ["a"]) (.error "") 0 =
        .ok ⟨"localhost:10000", "a", ∅, "deephealth.db", ⟨false, 0, 0, false⟩⟩ ∧
      Server.Reachable 0 "localhost:10000"
        { Server.new "localhost:10000" with serving := true, inferring := true } ∧
      ({ Server.new "localhost:10000" with serving := true, inferring := true } : Server).loops =
        [] := by
  have h : main (Flags.defaults ["a"]) (.error "") 0 =
      .ok ⟨"localhost:10000", "a", ∅, "deephealth.db", ⟨false, 0, 0, false⟩⟩ := rfl
  have hs : Server.Reachable 0 "localhost:10000"
      { Server.new "localhost:10000" with serving := true, inferring := true } :=
    .tail (.single (.start ⟨true, false, none⟩ rfl)) (.finish ⟨true, false, none⟩ Nat.one_pos)
  exact ⟨rfl, h, hs, main_flags_never_gc rfl h hs⟩

/-! ## After `Start` -/

namespace Proc

variable {f : Int} {cpuprofile : String} {e : StartEnv} {addr : String} {p p' : Proc}

/-- How `main`'s process can have got where it is: `Serve` runs, and the process has exited
with code `1`, only after a `Start` that could listen; the server serves only then; the process
has exited with code `0` only through the goroutine of `-cpuprofile`; and no other exit code
occurs. -/
structure Exits (cpuprofile : String) (e : StartEnv) (p : Proc) : Prop where
  serve : p.serve = true → e.listens = true
  serving : p.server.serving = true → e.listens = true
  one : p.exit = some 1 → e.listens = true
  signals : p.signals = true → cpuprofile ≠ ""
  zero : p.exit = some 0 → cpuprofile ≠ ""
  code : p.exit = none ∨ p.exit = some 0 ∨ p.exit = some 1

theorem exits_launch : (launch f cpuprofile e addr).Exits cpuprofile e := by
  have hsig : (cpuprofile != "") = true → cpuprofile ≠ "" := by simp
  unfold launch
  split
  · rename_i s hs
    have hl := (Server.start_ok hs).2.1
    exact ⟨fun _ => hl, fun _ => hl, fun _ => hl, hsig, by simp, by simp⟩
  · exact ⟨by simp, by simp [Server.new], by simp, hsig, by simp, by simp⟩

theorem Step.exits (h : Step f p p') (hp : p.Exits cpuprofile e) : p'.Exits cpuprofile e := by
  cases h with
  | serveFails hs he => exact ⟨by simp, hp.serving, fun _ => hp.serve hs, hp.signals, by simp,
      by simp⟩
  | signal hs he =>
    refine ⟨by simp, fun hserv => ?_, by simp, hp.signals, fun _ => hp.signals hs, by simp⟩
    simp only at hserv
    split at hserv
    · rename_i s hstop
      simp [(Server.stop_ok hstop).2] at hserv
    · exact hp.serving hserv
  | gc r hl he => exact ⟨hp.serve, hp.serving, hp.one, hp.signals, hp.zero, hp.code⟩

end Proc

/-- **`main` hangs when `Start` fails.** `main` drops the error `Start` returns and waits on
`errch`, which only the goroutine serving RPCs writes to. So when `Start` cannot listen (the
port is taken, say) and `-cpuprofile` is not given, in every run the process neither serves
nor exits. -/
theorem main_failed_start_hangs {f : Int} {cpuprofile : String} {e : StartEnv} {addr : String}
    {p : Proc} (hl : e.listens = false) (hc : cpuprofile = "")
    (hrun : Relation.ReflTransGen (Proc.Step f) (Proc.launch f cpuprofile e addr) p) :
    p.exit = none ∧ p.server.serving = false := by
  have hp : p.Exits cpuprofile e := by
    induction hrun with
    | refl => exact Proc.exits_launch
    | tail _ h ih => exact h.exits ih
  refine ⟨?_, ?_⟩
  · rcases hp.code with h | h | h
    · exact h
    · exact absurd hc (hp.zero h)
    · simp [hp.one h] at hl
  · cases hs : p.server.serving
    · rfl
    · simp [hp.serving hs] at hl

theorem main_failed_start_hangs_taken :
    (⟨false, true, none⟩ : StartEnv).listens = false ∧
      Relation.ReflTransGen (Proc.Step gcFrequencyDefault)
        (Proc.launch gcFrequencyDefault "" ⟨false, true, none⟩ "localhost:10000")
        (Proc.launch gcFrequencyDefault "" ⟨false, true, none⟩ "localhost:10000") ∧
      (Proc.launch gcFrequencyDefault "" ⟨false, true, none⟩ "localhost:10000").exit = none ∧
      (Proc.launch gcFrequencyDefault "" ⟨false, true, none⟩ "localhost:10000").server.serving =
        false :=
  ⟨rfl, .refl, main_failed_start_hangs rfl rfl .refl⟩

end Panorama
