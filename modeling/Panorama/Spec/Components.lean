import Panorama.Spec.Types

/-!
# The collaborators of the service

`HealthGServer` calls four components whose code is not in the source: the observation store
(`storage`), the hold buffer (`hold_buffer`, a `store.CacheList`), the exchange (`exchange`)
and the inference engine (`inference`). Each is modelled here from the spec, as far as the
service uses it, and each call is one atomic step: every component has its own mutex
(spec §5).

* the store: the watch list, and `AddReport`'s acceptance rule (spec §4.1), in either order
  of its two checks;
* the hold buffer: per subject a list of entries, oldest first, with a time to live and a
  length bound (spec §4.4);
* the exchange: which peers are interested in which subjects, and the messages it sends
  (spec §4.3).

The inference engine only queues requests, so a call to it is an event of the run's log
(`Node.log`), like the messages the exchange sends.
-/

namespace Panorama

/-- Modelled from the spec: the observation store (`store.RawHealthStorage`, not in the
source), as the service uses it: its watch list, and whether its `AddReport` checks a
report's fields before the watch list (`shapeFirst`), which the spec leaves open. -/
structure Store where
  watch : List String
  shapeFirst : Bool
  deriving DecidableEq, Repr

namespace Store

/-- Modelled from the spec: `AddSubject`, idempotent; whether the subject is new. -/
def addSubject (st : Store) (subject : String) : Bool × Store :=
  if subject ∈ st.watch then (false, st) else (true, { st with watch := st.watch ++ [subject] })

/-- Modelled from the spec: `RemoveSubject`; whether the subject was watched. -/
def removeSubject (st : Store) (subject : String) : Bool × Store :=
  (decide (subject ∈ st.watch), { st with watch := st.watch.filter (· ≠ subject) })

/-- Modelled from the spec: `AddReport`'s result code and error. A report without observer,
subject or observation fails (`MALFORMED_REPORT`); with `filter`, a report about a subject
off the watch list is ignored; every other report is accepted. A malformed report about a
subject off the watch list, with `filter`, fails when the store checks the report's fields
first and is ignored otherwise. -/
def addReport (st : Store) (r : Report) (filter : Bool) : Rc × Option String :=
  let malformed := r.observer = "" ∨ r.subject = "" ∨ r.observation = none
  let unwatched := filter ∧ r.subject ∉ st.watch
  if st.shapeFirst then
    if malformed then (.failed, some "MALFORMED_REPORT")
    else if unwatched then (.ignored, none) else (.accepted, none)
  else
    if unwatched then (.ignored, none)
    else if malformed then (.failed, some "MALFORMED_REPORT") else (.accepted, none)

@[simp] theorem addSubject_shapeFirst (st : Store) (s : String) :
    (st.addSubject s).2.shapeFirst = st.shapeFirst := by
  unfold addSubject
  split <;> rfl

@[simp] theorem removeSubject_shapeFirst (st : Store) (s : String) :
    (st.removeSubject s).2.shapeFirst = st.shapeFirst := rfl

theorem mem_addSubject (st : Store) (s : String) : s ∈ (st.addSubject s).2.watch := by
  unfold addSubject
  split <;> simp_all

theorem addSubject_watch (st : Store) (s t : String) :
    t ∈ (st.addSubject s).2.watch ↔ t = s ∨ t ∈ st.watch := by
  unfold addSubject
  split <;> simp_all [or_comm]

theorem removeSubject_watch (st : Store) (s t : String) :
    t ∈ (st.removeSubject s).2.watch ↔ t ≠ s ∧ t ∈ st.watch := by
  simp [removeSubject, and_comm]

/-- A report that a store checking fields first ignored is well formed, so every store
accepts it unfiltered. -/
theorem addReport_accepted_of_ignored {st st' : Store} {r : Report} {filter : Bool}
    (hs : st.shapeFirst = true) (h : (st.addReport r filter).1 = .ignored) :
    (st'.addReport r false).1 = .accepted := by
  unfold addReport at *
  rw [if_pos hs] at h
  by_cases hm : r.observer = "" ∨ r.subject = "" ∨ r.observation = none
  · simp [hm] at h
  · cases st'.shapeFirst <;> simp [hm]

/-- Unfiltered, no store ignores a report. -/
theorem addReport_unfiltered_ne_ignored (st : Store) (r : Report) :
    (st.addReport r false).1 ≠ .ignored := by
  unfold addReport
  by_cases hm : r.observer = "" ∨ r.subject = "" ∨ r.observation = none <;>
    cases st.shapeFirst <;> simp [hm]

end Store

/-- An entry of the hold buffer: the held report, the time of its `Set`, and an identity
(the number of the `Set` in the run) that tells two holds of equal reports apart. -/
structure HoldItem where
  id : Nat
  time : Nat
  report : Report
  deriving DecidableEq, Repr

/-- Modelled from the spec: the hold buffer (`store.CacheList`, not in the source): per key
a list of entries, oldest first, each alive for `ttl` seconds, at most `maxLen` per key. -/
structure CacheList where
  ttl : Nat
  maxLen : Nat
  lists : String → List HoldItem

namespace CacheList

/-- An entry is alive at `now` while its time to live has not run out. -/
def Alive (c : CacheList) (now : Nat) (it : HoldItem) : Bool := now < it.time + c.ttl

/-- Modelled from the spec: `Set` drops the key's expired entries, appends the new one, and
evicts the oldest beyond the length bound. -/
def set (c : CacheList) (now : Nat) (key : String) (it : HoldItem) : CacheList :=
  let l := (c.lists key).filter (c.Alive now) ++ [it]
  { c with lists := Function.update c.lists key (l.drop (l.length - c.maxLen)) }

/-- Modelled from the spec: `Get` returns the key's alive entries and removes nothing. -/
def get (c : CacheList) (now : Nat) (key : String) : List HoldItem :=
  (c.lists key).filter (c.Alive now)

/-- Modelled from the spec: `Empty` clears the key. The entries it erases are returned too,
for the run's log. -/
def empty (c : CacheList) (key : String) : List HoldItem × CacheList :=
  (c.lists key, { c with lists := Function.update c.lists key [] })

theorem mem_set {c : CacheList} {now : Nat} {key k : String} {it x : HoldItem}
    (hx : x ∈ (c.set now key it).lists k) : (k = key ∧ (x = it ∨ x ∈ c.lists key)) ∨
      (k ≠ key ∧ x ∈ c.lists k) := by
  unfold set at hx
  by_cases hk : k = key
  · subst hk
    simp only [Function.update_same] at hx
    have := List.mem_of_mem_drop hx
    simp only [List.mem_append, List.mem_filter, List.mem_singleton] at this
    exact .inl ⟨rfl, this.elim (fun h => .inr h.1) .inl⟩
  · simp only [ne_eq, hk, not_false_eq_true, Function.update_noteq] at hx
    exact .inr ⟨hk, hx⟩

theorem mem_get {c : CacheList} {now : Nat} {key : String} {x : HoldItem}
    (hx : x ∈ c.get now key) : x ∈ c.lists key :=
  (List.mem_filter.1 hx).1

theorem mem_empty {c : CacheList} {key k : String} {x : HoldItem}
    (hx : x ∈ (c.empty key).2.lists k) : k ≠ key ∧ x ∈ c.lists k := by
  by_cases hk : k = key
  · subst hk; simp [empty] at hx
  · simp only [empty, ne_eq, hk, not_false_eq_true, Function.update_noteq] at hx
    exact ⟨hk, hx⟩

end CacheList

/-- Modelled from the spec: the interest table of the exchange (`exchange.ExchangeProtocol`,
not in the source): the `(peer, subject)` pairs it believes interested. -/
structure Exchange where
  interest : List (String × String)
  deriving DecidableEq, Repr

namespace Exchange

/-- Modelled from the spec: `Interested(peer, subject)`. -/
def interested (x : Exchange) (peer subject : String) : Exchange :=
  if (peer, subject) ∈ x.interest then x else ⟨x.interest ++ [(peer, subject)]⟩

/-- Modelled from the spec: `Uninterested(peer, subject)`. -/
def uninterested (x : Exchange) (peer subject : String) : Exchange :=
  ⟨x.interest.filter (· ≠ (peer, subject))⟩

theorem interested_interest (x : Exchange) (p s : String) (q : String × String) :
    q ∈ (x.interested p s).interest ↔ q = (p, s) ∨ q ∈ x.interest := by
  unfold interested
  split <;> simp_all [or_comm]

theorem uninterested_interest (x : Exchange) (p s : String) (q : String × String) :
    q ∈ (x.uninterested p s).interest ↔ q ≠ (p, s) ∧ q ∈ x.interest := by
  simp [uninterested, and_comm]

end Exchange

/-- Modelled from the spec: the notice `Subscribe` or `Unsubscribe` sends to every peer, a
`LearnReport` of that kind from this node, with a report that bears only the subject. -/
def notice (self : String) (kind : Kind) (subject : String) : LearnReportRequest :=
  ⟨some ⟨self⟩, kind, some ⟨"", subject, none⟩⟩

/-- Modelled from the spec: the message `Propagate` sends to an interested peer. -/
def propagation (self : String) (r : Report) : LearnReportRequest :=
  ⟨some ⟨self⟩, .normal, some r⟩

end Panorama
