import Panorama.Proof.Faults
import Panorama.Spec.Client

/-!
# What the Java client meets at the server

* `ready_client_never_refused`: in every session, a report that a ready client sends passes
  `SubmitReport`'s handle check as a live handle and leaves the registry as it is. This holds
  whatever other callers do under `regMu` between the client's calls, and whichever replies
  are lost: while the server process lives, it never answers the client
  "Invalid submission handle".
* `client_requests_never_fault`: no `SubmitReport` or `Ping` request that the client builds
  makes the server read through an absent sub-message.
* `failed_init_channel_never_shut`: the channel of an `init` whose `register` call failed is
  never shut down, whatever the client does next. `shutdown` shuts only the channel of the last
  `init`, and only once that `init` has succeeded.
-/

namespace Panorama

namespace Client

variable {c c' : Client} {x : Nat}

/-! ## Channels -/

/-- Every channel number the client holds is below `built`. -/
structure Numbered (c : Client) : Prop where
  shut_lt : ∀ y ∈ c.shut, y < c.built
  channel_lt : ∀ y, c.channel = some y → y < c.built

theorem Step.numbered (h : Step c c') (hc : c.Numbered) : c'.Numbered := by
  cases h with
  | init addr port module id reply =>
    rw [init_snd]
    split
    · exact hc
    · exact ⟨fun y hy => Nat.lt_succ_of_lt (hc.shut_lt y hy), by simp⟩
  | shutdown interrupted =>
    rw [shutdown_eq]
    split
    · refine ⟨fun y hy => ?_, hc.channel_lt⟩
      rcases List.mem_append.1 hy with hy | hy
      · exact hc.shut_lt y hy
      · exact hc.channel_lt y (Option.mem_toList.1 hy)
    · exact hc
  | setId ID => exact ⟨hc.shut_lt, hc.channel_lt⟩

/-- Channel `x` is left open for good: it has been built, it is not shut down, and it is not
the channel of a ready client. -/
structure Leaked (x : Nat) (c : Client) : Prop where
  lt_built : x < c.built
  not_shut : x ∉ c.shut
  not_ready : c.channel = some x → c.ready = false

theorem Step.leaked (h : Step c c') (hc : c.Leaked x) : c'.Leaked x := by
  cases h with
  | init addr port module id reply =>
    rw [init_snd]
    split
    · exact hc
    · exact ⟨Nat.lt_succ_of_lt hc.lt_built, hc.not_shut,
        fun hx => absurd (Option.some_inj.1 hx) (Nat.ne_of_gt hc.lt_built)⟩
  | shutdown interrupted =>
    rw [shutdown_eq]
    split
    · rename_i hr
      refine ⟨hc.lt_built, fun hx => ?_, fun hx => absurd (hc.not_ready hx) (by simp [hr])⟩
      rcases List.mem_append.1 hx with hx | hx
      · exact hc.not_shut hx
      · simp [hc.not_ready (Option.mem_toList.1 hx)] at hr
    · exact hc
  | setId ID => exact ⟨hc.lt_built, hc.not_shut, hc.not_ready⟩

theorem Reachable.numbered (hc : c.Reachable) : c.Numbered := by
  induction hc with
  | refl => exact ⟨by simp [new], by simp [new]⟩
  | tail _ h ih => exact h.numbered ih

/-- **A failed `init` leaks its channel.** On a client reached from `getInstance()` that is not
ready, an `init` whose `register` call throws leaves channel number `c.built` open, and no run
of the client's calls from there shuts it down: a later `shutdown` shuts only the channel of a
later, successful `init`. -/
theorem failed_init_channel_never_shut (hc : c.Reachable) (hready : c.ready = false)
    {addr : String} {port : Int} {module id : String}
    (hrun : Relation.ReflTransGen Step (c.init addr port module id none).2 c') :
    c.built ∉ c'.shut := by
  have hstart : (c.init addr port module id none).2.Leaked c.built := by
    rw [init_snd, if_neg (by simp [hready])]
    exact ⟨Nat.lt_succ_self _, fun hx => Nat.lt_irrefl _ (hc.numbered.shut_lt _ hx),
      fun _ => rfl⟩
  have hend : c'.Leaked c.built := by
    induction hrun with
    | refl => exact hstart
    | tail _ h ih => exact h.leaked ih
  exact hend.not_shut

/-- A client that tried `init` once, failed, then registered and shut down. -/
theorem failed_init_channel_never_shut_retried :
    Client.new.Reachable ∧ Client.new.ready = false ∧
      Relation.ReflTransGen Step (Client.new.init "localhost" 8980 "m" "o" none).2
        (((Client.new.init "localhost" 8980 "m" "o" none).2.init "localhost" 8980 "m" "o"
          (some 10000)).2.shutdown false) ∧
      Client.new.built ∉ (((Client.new.init "localhost" 8980 "m" "o" none).2.init "localhost"
        8980 "m" "o" (some 10000)).2.shutdown false).shut := by
  have hrun : Relation.ReflTransGen Step (Client.new.init "localhost" 8980 "m" "o" none).2
      (((Client.new.init "localhost" 8980 "m" "o" none).2.init "localhost" 8980 "m" "o"
        (some 10000)).2.shutdown false) :=
    .tail (.single (.init _ _ _ _ _)) (.shutdown _)
  exact ⟨.refl, rfl, hrun, failed_init_channel_never_shut .refl rfl hrun⟩

/-! ## Requests -/

/-- **The client's requests never crash the server.** From any client state, the
`SubmitReport` request of `report` carries its report, so `SubmitReport` run alone from any
node state does not fault, and the `Ping` request of `ping` carries its source, so `Ping` does
not fault either. -/
theorem client_requests_never_fault (c : Client) (subject : String) (observation : Observation)
    (time now : Timestamp) (env : Env) (n : Node) (k : Nat) :
    (∀ req, c.report subject observation = some req →
      (Task.submitReport req).solo env (k + 2) n ≠ .error .nilDeref) ∧
    (∀ req, c.ping time = some req → Panorama.ping now req ≠ .error .nilDeref) := by
  constructor
  · intro req hreq hf
    obtain ⟨-, rfl⟩ := report_eq_some.1 hreq
    cases ((submitReport_solo _).1.1 hf).1
  · intro req hreq hf
    obtain ⟨-, rfl⟩ := ping_eq_some.1 hreq
    cases ((ping_fault_iff now _).1 hf).2

/-- A client that `init` made ready with handle `10000`, for observer `o`, reports and pings. -/
theorem client_requests_never_fault_ready :
    let c := (Client.new.init "localhost" 8980 "m" "o" (some 10000)).2
    c.report "disk" ⟨1⟩ = some ⟨10000, some ⟨"o", "disk", some ⟨1⟩⟩⟩ ∧
      (Task.submitReport ⟨10000, some ⟨"o", "disk", some ⟨1⟩⟩⟩).solo ⟨[], []⟩ 2
        (Node.new nodeA) ≠ .error .nilDeref ∧
      c.ping ⟨0, 0⟩ = some ⟨some ⟨"o"⟩, some ⟨0, 0⟩⟩ ∧
      Panorama.ping ⟨1, 0⟩ ⟨some ⟨"o"⟩, some ⟨0, 0⟩⟩ ≠ .error .nilDeref := by
  intro c
  have h := client_requests_never_fault c "disk" ⟨1⟩ ⟨0, 0⟩ ⟨1, 0⟩ ⟨[], []⟩ (Node.new nodeA) 0
  exact ⟨rfl, h.1 _ rfl, rfl, h.2 _ rfl⟩

end Client

/-! ## A client and the server's registry -/

namespace Session

variable {s s' : Session}

/-- A ready client's handle is in `registrations`. -/
def Live (s : Session) : Prop := s.client.ready = true → s.client.handle ∈ s.reg.registrations

theorem Step.live (h : Step s s') (hs : s.Live) : s'.Live := by
  cases h with
  | server h => exact fun hr => h.keys_mono (hs hr)
  | @initServed order addr port module id now horder delivered hready =>
    intro hr
    simp only [Client.init_snd, hready] at hr ⊢
    cases delivered
    · simp at hr
    · exact Registry.register_mem _ horder _ _
  | initUnserved addr port module id => simpa [Live] using hs
  | shutdown interrupted =>
    simp only [Live, Client.shutdown_ready, Client.shutdown_handle, Bool.and_eq_true] at hs ⊢
    exact fun hr => hs hr.1
  | setId ID => exact hs

theorem Reachable.live {persisted : Option RegTable} (hs : s.Reachable persisted) : s.Live :=
  StartRun.invariant hs (P := Live) (fun hr => by cases hr) (fun _ _ ha h => h.live ha)
    fun _ ha => ha

end Session

/-- **A ready client is never refused.** At every state of every session, each
`SubmitReport` request of a ready client passes the handle check as a live handle and leaves
the registry unchanged. This holds under any interleaving with other callers' `Register` and
`SubmitReport` calls, after lost replies, and after `setId`. -/
theorem ready_client_never_refused {persisted : Option RegTable} {s : Session}
    (hs : s.Reachable persisted) {subject : String} {observation : Observation}
    {req : SubmitReportRequest} (hreq : s.client.report subject observation = some req) :
    s.reg.check req.handle req.report = .ok (.live, s.reg) := by
  obtain ⟨hr, rfl⟩ := Client.report_eq_some.1 hreq
  exact Registry.check_live (Session.Reachable.live hs hr) _

/-- The client registers `("m", "o")` with a server started without a database, then reports. -/
theorem ready_client_never_refused_registered :
    Session.Reachable none
        ⟨((Registry.start none).register [] ⟨"m", "o"⟩ 0).2,
          (Client.new.init "localhost" 8980 "m" "o"
            (some ((Registry.start none).register [] ⟨"m", "o"⟩ 0).1)).2⟩ ∧
      (Client.new.init "localhost" 8980 "m" "o"
          (some ((Registry.start none).register [] ⟨"m", "o"⟩ 0).1)).2.report "disk" ⟨1⟩ =
        some ⟨10000, some ⟨"o", "disk", some ⟨1⟩⟩⟩ ∧
      ((Registry.start none).register [] ⟨"m", "o"⟩ 0).2.check 10000
          (some ⟨"o", "disk", some ⟨1⟩⟩) =
        .ok (.live, ((Registry.start none).register [] ⟨"m", "o"⟩ 0).2) := by
  have hs : Session.Reachable none
      ⟨((Registry.start none).register [] ⟨"m", "o"⟩ 0).2,
        (Client.new.init "localhost" 8980 "m" "o"
          (some ((Registry.start none).register [] ⟨"m", "o"⟩ 0).1)).2⟩ :=
    .loaded .refl (.single (.initServed "localhost" 8980 "m" "o" 0 (List.Perm.refl _) true rfl))
  have hreq : (Client.new.init "localhost" 8980 "m" "o"
      (some ((Registry.start none).register [] ⟨"m", "o"⟩ 0).1)).2.report "disk" ⟨1⟩ =
        some ⟨10000, some ⟨"o", "disk", some ⟨1⟩⟩⟩ := rfl
  exact ⟨hs, hreq, ready_client_never_refused hs hreq⟩

end Panorama
