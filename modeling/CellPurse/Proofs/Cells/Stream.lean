import CellPurse.Cells.Index
import CellPurse.Cells.Stream
import Mathlib.Data.List.Basic

/-!
# CellPurse.Proofs.Cells.Stream — a walk goes to the first stop, and no further

A policy that nothing stops is called once for each record, in order, each time in the state that the calls before it
left.  A walk makes these calls up to the first that answers with a stop.  A stream makes them when it is asked, and
keeps in its source what lies behind the last of them.

* `Policy.stateAfter`, `Policy.calls`: the state after some records, and the calls for them, if nothing stops these;
  `Policy.visits`: the calls up to the first stop; `Visit.kept`: the records that some calls collect;
* `Scan.run_eq`: a walk in these terms; `Scan.andThen`, `run_append`: a walk over two lists, one after the other;
* `Stream.rest`: the walk that is left of a stream; `Stream.Leads policy w calls t`: the calls lead from `w` to `t`;
  `leads_one`, `leads_next`, `leads_take`: one record, one request, and a number of them;
* `Stream.Hands`: what is known of a stream after a number of requests;
* `Stream.visits_to_first_stop`: all this of the streams over records; `Index.scan_eq_walk`: a scan of an index is one.
-/

namespace CellPurse

variable {σ α : Type}

/-! ## The calls of a policy -/

namespace Policy

/-- The state after a policy saw some records, the first of which has ordinal `k`. -/
def stateAfter (policy : Policy σ α) (s : σ) (k : Nat) (records : List α) : σ :=
  (records.zipIdx k).foldl (fun s x => (policy s x.2 x.1).1) s

/-- The calls for some records: for each of them one, with its ordinal, in the state after those before it. -/
def calls (policy : Policy σ α) (s : σ) (k : Nat) (records : List α) : List (Visit α) :=
  records.mapIdx fun i a => ⟨k + i, a, (policy (stateAfter policy s k (records.take i)) (k + i) a).2⟩

variable (policy : Policy σ α) (s : σ) (k : Nat)

theorem stateAfter_cons (a : α) (r : List α) :
    stateAfter policy s k (a :: r) = stateAfter policy (policy s k a).1 (k + 1) r := rfl

theorem stateAfter_append (a b : List α) :
    stateAfter policy s k (a ++ b) = stateAfter policy (stateAfter policy s k a) (k + a.length) b := by
  rw [stateAfter, List.zipIdx_append, List.foldl_append]
  rfl

theorem calls_cons (a : α) (r : List α) :
    calls policy s k (a :: r) = ⟨k, a, (policy s k a).2⟩ :: calls policy (policy s k a).1 (k + 1) r := by
  rw [calls, List.mapIdx_cons]
  refine congrArg₂ List.cons rfl (congrArg (r.mapIdx ·) ?_)
  funext i b
  rw [List.take_succ_cons, stateAfter_cons, Nat.add_right_comm k 1 i]
  rfl

theorem map_record_calls (records : List α) : (calls policy s k records).map Visit.record = records := by
  induction records generalizing s k with
  | nil => rfl
  | cons a r ih => rw [calls_cons, List.map_cons, ih]

end Policy

namespace Visit

/-- The calls up to the first that answers with a stop, or all of them. -/
def throughStop (calls : List (Visit α)) : List (Visit α) :=
  calls.take (calls.findIdx (fun v => v.verdict.stop) + 1)

/-- The records of those calls that answer with a verdict to collect. -/
def kept (calls : List (Visit α)) : List α := (calls.filter fun v => v.verdict.collect).map record

@[simp] theorem kept_nil : kept ([] : List (Visit α)) = [] := rfl

theorem kept_append (a b : List (Visit α)) : kept (a ++ b) = kept a ++ kept b := by
  rw [kept, List.filter_append, List.map_append]
  rfl

theorem kept_cons (v : Visit α) (r : List (Visit α)) :
    kept (v :: r) = (if v.verdict.collect then [v.record] else []) ++ kept r := by
  unfold kept
  by_cases h : v.verdict.collect = true <;> simp [h]

theorem throughStop_cons_of_stop {v : Visit α} (h : v.verdict.stop = true) (r : List (Visit α)) :
    throughStop (v :: r) = [v] := by
  rw [throughStop, List.findIdx_cons, h]
  rfl

theorem throughStop_cons_of_not_stop {v : Visit α} (h : ¬ v.verdict.stop = true) (r : List (Visit α)) :
    throughStop (v :: r) = v :: throughStop r := by
  rw [throughStop, List.findIdx_cons, Bool.eq_false_iff.mpr h]
  rfl

end Visit

namespace Policy

/-- The calls that are made for some records: those up to the first stop. -/
def visits (policy : Policy σ α) (s : σ) (k : Nat) (records : List α) : List (Visit α) :=
  Visit.throughStop (policy.calls s k records)

variable (policy : Policy σ α) (s : σ) (k : Nat) (records : List α)

theorem map_record_visits_prefix : (policy.visits s k records).map Visit.record <+: records := by
  have hcalls : policy.visits s k records <+: policy.calls s k records := List.take_prefix _ _
  simpa only [map_record_calls] using hcalls.map Visit.record

theorem map_record_visits :
    (policy.visits s k records).map Visit.record = records.take (policy.visits s k records).length := by
  simpa only [List.length_map] using List.prefix_iff_eq_take.mp (policy.map_record_visits_prefix s k records)

theorem length_visits_le : (policy.visits s k records).length ≤ records.length := by
  simpa only [List.length_map] using (policy.map_record_visits_prefix s k records).length_le

end Policy

/-! ## Walks -/

namespace Scan

variable (policy : Policy σ α) (s : σ) (k : Nat)

/-- Two walks, the second one after the first. -/
def andThen (w w' : Scan σ α) : Scan σ α := ⟨w'.state, w.visits ++ w'.visits, w.collected ++ w'.collected⟩

theorem andThen_assoc (w w' w'' : Scan σ α) : (w.andThen w').andThen w'' = w.andThen (w'.andThen w'') := by
  simp [andThen]

/-- The walk that has ended with some calls, which left the policy in a state. -/
def ofCalls (t : σ) (calls : List (Visit α)) : Scan σ α := ⟨t, calls, Visit.kept calls⟩

theorem ofCalls_append (t u : σ) (a b : List (Visit α)) : (ofCalls t a).andThen (ofCalls u b) = ofCalls u (a ++ b) := by
  rw [andThen, ofCalls, ofCalls, ofCalls, Visit.kept_append]

/-- A walk begins with the call for its first record, and goes on unless this answers with a stop. -/
theorem run_cons (a : α) (r : List α) : run policy s k (a :: r) =
    (ofCalls (policy s k a).1 [⟨k, a, (policy s k a).2⟩]).andThen
      (if (policy s k a).2.stop then ofCalls (policy s k a).1 [] else run policy (policy s k a).1 (k + 1) r) := by
  rw [run]
  obtain ⟨t, stop, collect⟩ := policy s k a
  cases collect <;> simp [ofCalls, andThen, Visit.kept_cons]

/-- **A walk makes the calls up to the first stop**, and collects what they say. -/
theorem run_eq (records : List α) : run policy s k records =
    ofCalls (policy.stateAfter s k ((policy.visits s k records).map Visit.record)) (policy.visits s k records) := by
  induction records generalizing s k with
  | nil => rfl
  | cons a r ih =>
    rw [run_cons, Policy.visits, Policy.calls_cons]
    by_cases hstop : (policy s k a).2.stop = true
    · rw [if_pos hstop, ofCalls_append, Visit.throughStop_cons_of_stop hstop]
      rfl
    · rw [if_neg hstop, ih, Visit.throughStop_cons_of_not_stop hstop]
      exact ofCalls_append ..

variable {policy s k}

/-- A walk over one list that is not stopped, and from its end on a walk over another, are a walk over both. -/
theorem run_append {a : List α} (h : ∀ v ∈ (run policy s k a).visits, v.verdict.stop = false) (b : List α) :
    run policy s k (a ++ b) = (run policy s k a).andThen (run policy (run policy s k a).state (k + a.length) b) := by
  induction a generalizing s k with
  | nil => rfl
  | cons c r ih =>
    rw [run_cons] at h
    obtain ⟨hc, hr⟩ := List.forall_mem_cons.mp h
    have hgo : ¬ (policy s k c).2.stop = true := Bool.eq_false_iff.mp hc
    rw [if_neg hgo] at hr
    rw [List.cons_append, run_cons, run_cons, if_neg hgo, if_neg hgo, ih hr, andThen_assoc, List.length_cons,
      Nat.add_assoc k 1, Nat.add_comm 1]
    rfl

/-- A policy that does not look at the ordinals leaves the same state and collects the same, whatever they are. -/
theorem run_congr (h : ∀ s k l a, policy s k a = policy s l a) (s : σ) (k l : Nat) (records : List α) :
    (run policy s k records).state = (run policy s l records).state ∧
      (run policy s k records).collected = (run policy s l records).collected := by
  induction records generalizing s k l with
  | nil => exact ⟨rfl, rfl⟩
  | cons a r ih =>
    obtain ⟨hstate, hcollected⟩ := ih (policy s k a).1 (k + 1) (l + 1)
    rw [run_cons, run_cons, h s l k]
    simp only [andThen, ofCalls, Visit.kept_cons, Visit.kept_nil]
    split
    · exact ⟨rfl, rfl⟩
    · exact ⟨hstate, congrArg (_ ++ ·) hcollected⟩

end Scan

/-! ## Streams -/

namespace Stream

variable {policy : Policy σ α} {w t u : Stream σ α} {calls more : List (Visit α)}

/-- Nothing will be handed over any more. -/
def IsOver (w : Stream σ α) : Prop := w.stopped = true ∨ w.source = []

theorem next_of_isOver (h : w.IsOver) : w.next policy = (none, w) := by
  obtain ⟨source, s, k, stopped, visits⟩ := w
  rcases h with rfl | rfl
  · rfl
  · cases stopped <;> rfl

/-- The walk that is left of a stream. -/
def rest (policy : Policy σ α) (w : Stream σ α) : Scan σ α :=
  if w.stopped then .ofCalls w.state [] else Scan.run policy w.state w.ordinal w.source

theorem rest_of_isOver (h : w.IsOver) : w.rest policy = .ofCalls w.state [] := by
  obtain ⟨source, s, k, stopped, visits⟩ := w
  rcases h with rfl | rfl
  · rfl
  · cases stopped <;> rfl

/-- Some calls lead from a stream to another: their records are taken from its source, and they begin the walk that is
left of it. -/
structure Leads (policy : Policy σ α) (w : Stream σ α) (calls : List (Visit α)) (t : Stream σ α) : Prop where
  visits : t.visits = w.visits ++ calls
  source : w.source = calls.map Visit.record ++ t.source
  ordinal : t.ordinal = w.ordinal + calls.length
  state : t.state = policy.stateAfter w.state w.ordinal (calls.map Visit.record)
  rest : w.rest policy = (Scan.ofCalls t.state calls).andThen (t.rest policy)

theorem Leads.refl (w : Stream σ α) : Leads policy w [] w where
  visits := (List.append_nil _).symm
  source := rfl
  ordinal := rfl
  state := rfl
  rest := rfl

theorem Leads.trans (h : Leads policy w calls t) (h' : Leads policy t more u) : Leads policy w (calls ++ more) u where
  visits := by rw [h'.visits, h.visits, List.append_assoc]
  source := by rw [h.source, h'.source, List.map_append, List.append_assoc]
  ordinal := by rw [h'.ordinal, h.ordinal, List.length_append, Nat.add_assoc]
  state := by rw [h'.state, h.state, h.ordinal, List.map_append, Policy.stateAfter_append, List.length_map]
  rest := by rw [h.rest, h'.rest, ← Scan.andThen_assoc, Scan.ofCalls_append]

/-- One record that is taken from the source is one call. -/
theorem leads_one (policy : Policy σ α) (visits : List (Visit α)) (s : σ) (k : Nat) (a : α) (r : List α) :
    Leads policy ⟨a :: r, s, k, false, visits⟩ [⟨k, a, (policy s k a).2⟩]
      ⟨r, (policy s k a).1, k + 1, (policy s k a).2.stop, visits ++ [⟨k, a, (policy s k a).2⟩]⟩ where
  visits := rfl
  source := rfl
  ordinal := rfl
  state := rfl
  rest := Scan.run_cons policy s k a r

/-- What the calls for one request say of its answer: nothing is handed over only if the stream is over, and what is
handed over is the record of the last call, the only one that is collected. -/
inductive Answers : List (Visit α) → Stream σ α → Option α → Prop where
  | nothing {calls : List (Visit α)} {t : Stream σ α} (kept : Visit.kept calls = []) (ended : t.IsOver) :
      Answers calls t none
  | record (before : List (Visit α)) {v : Visit α} {t : Stream σ α} (kept : Visit.kept before = [])
      (collect : v.verdict.collect = true) : Answers (before ++ [v]) t (some v.record)

theorem Answers.cons {o : Option α} {v : Visit α} (h : Answers calls t o) (hv : ¬ v.verdict.collect = true) :
    Answers (v :: calls) t o := by
  have hkept (before : List (Visit α)) : Visit.kept (v :: before) = Visit.kept before := by
    rw [Visit.kept_cons, if_neg hv, List.nil_append]
  cases h with
  | nothing hnone hover => exact .nothing ((hkept _).trans hnone) hover
  | record before hnone hcollect => exact .record (v :: before) ((hkept _).trans hnone) hcollect

theorem leads_advance (policy : Policy σ α) (visits : List (Visit α)) (s : σ) (k : Nat) (records : List α) :
    ∃ calls, Leads policy ⟨records, s, k, false, visits⟩ calls (advance policy visits s k records).2 ∧
      Answers calls (advance policy visits s k records).2 (advance policy visits s k records).1 := by
  induction records generalizing visits s k with
  | nil => exact ⟨[], .refl _, .nothing rfl (.inr rfl)⟩
  | cons a r ih =>
    have hone := leads_one policy visits s k a r
    rw [advance]
    by_cases hcollect : (policy s k a).2.collect = true
    · simp only [hcollect, if_true]
      exact ⟨_, hone, .record [] rfl hcollect⟩
    · by_cases hstop : (policy s k a).2.stop = true
      · rw [hstop] at hone
        simp only [hcollect, hstop, Bool.false_eq_true, if_false, if_true]
        exact ⟨_, hone, (Answers.nothing rfl (.inl rfl)).cons hcollect⟩
      · rw [Bool.eq_false_iff.mpr hstop] at hone
        simp only [hcollect, hstop, Bool.false_eq_true, if_false]
        obtain ⟨calls, hleads, hanswers⟩ := ih (visits ++ [⟨k, a, (policy s k a).2⟩]) (policy s k a).1 (k + 1)
        exact ⟨_, hone.trans hleads, hanswers.cons hcollect⟩

theorem leads_next (policy : Policy σ α) (w : Stream σ α) :
    ∃ calls, Leads policy w calls (w.next policy).2 ∧ Answers calls (w.next policy).2 (w.next policy).1 := by
  obtain ⟨source, s, k, stopped, visits⟩ := w
  cases stopped with
  | true => exact ⟨[], .refl _, .nothing rfl (.inl rfl)⟩
  | false => exact leads_advance policy visits s k source

/-- What the calls for `n` requests hand over: `n` records, the last of them that of the last call, or fewer, and then
the stream is over. -/
theorem leads_take (policy : Policy σ α) (n : Nat) (w : Stream σ α) :
    ∃ calls, Leads policy w calls (w.take policy n).2 ∧ (w.take policy n).1 = Visit.kept calls ∧
      (((w.take policy n).1.length = n ∧ ∀ v ∈ calls.getLast?, v.verdict.collect = true) ∨
        ((w.take policy n).1.length < n ∧ (w.take policy n).2.IsOver)) := by
  induction n generalizing w with
  | zero => exact ⟨[], .refl w, rfl, .inl ⟨rfl, nofun⟩⟩
  | succ n ih =>
    obtain ⟨calls, hleads, hanswers⟩ := leads_next policy w
    rw [take]
    generalize w.next policy = answer at hleads hanswers
    obtain ⟨o, t⟩ := answer
    cases hanswers with
    | nothing hnone hover => exact ⟨calls, hleads, hnone.symm, .inr ⟨Nat.succ_pos n, hover⟩⟩
    | record before hnone hcollect =>
      obtain ⟨more, hmore, hhanded, hend⟩ := ih t
      refine ⟨_, hleads.trans hmore, ?_, ?_⟩
      · rw [Visit.kept_append, Visit.kept_append, hnone, ← hhanded, Visit.kept_cons, if_pos hcollect]
        rfl
      · refine hend.imp (fun ⟨hlength, hlast⟩ => ⟨congrArg (· + 1) hlength, fun v' hv' => ?_⟩)
          fun ⟨hlength, hover⟩ => ⟨Nat.succ_lt_succ hlength, hover⟩
        -- the last call is that of the last request that made any
        rw [Option.mem_def, List.getLast?_append, Option.or_eq_some_iff] at hv'
        rcases hv' with hv' | ⟨-, hv'⟩
        · exact hlast v' hv'
        · rw [List.getLast?_concat] at hv'
          obtain rfl := Option.some.inj hv'
          exact hcollect

/-- What is known of a stream over some records after a number of requests, of its calls and of what it handed over,
where `visits` are the calls up to the first stop. -/
structure Hands (policy : Policy σ α) (s : σ) (records : List α) (visits : List (Visit α)) (asked : Nat)
    (handed : List α) (t : Stream σ α) : Prop where
  /-- The records to collect are handed over one by one. -/
  first : handed = (Visit.kept visits).take asked
  kept : handed = Visit.kept t.visits
  calls : t.visits <+: visits
  state : t.state = policy.stateAfter s 0 (t.visits.map Visit.record)
  /-- What no call was made for is still in the source. -/
  source : records = t.visits.map Visit.record ++ t.source
  /-- No call was made behind the record that was handed over last. -/
  least : asked ≤ (Visit.kept visits).length → ∀ v ∈ t.visits.getLast?, v.verdict.collect = true
  /-- With a request for more than there is all calls were made, and nothing comes after it. -/
  all : (Visit.kept visits).length < asked → t.visits = visits ∧ t.next policy = (none, t)

theorem hands_take (policy : Policy σ α) (s : σ) (records : List α) (asked : Nat) :
    Hands policy s records (policy.visits s 0 records) asked ((ofRecords s records).take policy asked).1
      ((ofRecords s records).take policy asked).2 := by
  obtain ⟨calls, hleads, hkept, hend⟩ := leads_take policy asked (ofRecords s records)
  generalize (ofRecords s records).take policy asked = answer at hleads hkept hend
  obtain ⟨handed, t⟩ := answer
  dsimp only at hleads hkept hend
  obtain rfl : t.visits = calls := hleads.visits
  have hrest : Scan.run policy s 0 records = (Scan.ofCalls t.state t.visits).andThen (t.rest policy) := hleads.rest
  rw [Scan.run_eq] at hrest
  have hvisits : policy.visits s 0 records = t.visits ++ (t.rest policy).visits := congrArg Scan.visits hrest
  have hcollected : Visit.kept (policy.visits s 0 records) = handed ++ (t.rest policy).collected :=
    (congrArg Scan.collected hrest).trans (congrArg (· ++ _) hkept.symm)
  have hover : t.IsOver → (t.rest policy).visits = [] ∧ (t.rest policy).collected = [] := fun h => by
    rw [rest_of_isOver h]
    exact ⟨rfl, rfl⟩
  refine ⟨?first, hkept, hvisits ▸ List.prefix_append _ _, hleads.state, hleads.source, fun hasked => ?least,
    fun hasked => ?all⟩
  case first =>
    rcases hend with ⟨hlength, -⟩ | ⟨hlength, h⟩
    · rw [hcollected, ← hlength, List.take_left]
    · rw [hcollected, (hover h).2, List.append_nil, List.take_of_length_le (Nat.le_of_lt hlength)]
  case least =>
    rcases hend with ⟨-, hlast⟩ | ⟨hlength, h⟩
    · exact hlast
    · rw [hcollected, (hover h).2, List.append_nil] at hasked
      exact absurd hasked (Nat.not_le.mpr hlength)
  case all =>
    rcases hend with ⟨hlength, -⟩ | ⟨-, h⟩
    · rw [hcollected, List.length_append] at hasked
      omega
    · rw [hvisits, (hover h).1, List.append_nil]
      exact ⟨rfl, next_of_isOver h⟩

/-- A stream that hands over all it has makes all calls up to the first stop. -/
theorem hands_drain (policy : Policy σ α) (s : σ) (records : List α) :
    ((ofRecords s records).drain policy).2.visits = policy.visits s 0 records ∧
      Hands policy s records (policy.visits s 0 records) (records.length + 1)
        ((ofRecords s records).drain policy).1 ((ofRecords s records).drain policy).2 := by
  have hands := hands_take policy s records (records.length + 1)
  refine ⟨(hands.all (Nat.lt_succ_of_le ?_)).1, hands⟩
  rw [Visit.kept, List.length_map]
  exact Nat.le_trans (List.length_filter_le ..) (policy.length_visits_le s 0 records)

theorem walk_ofRecords (policy : Policy σ α) (s : σ) (records : List α) :
    (ofRecords s records).walk policy = Scan.run policy s 0 records := by
  obtain ⟨hvisits, hands⟩ := hands_drain policy s records
  show Scan.mk ((ofRecords s records).drain policy).2.state ((ofRecords s records).drain policy).2.visits
    ((ofRecords s records).drain policy).1 = _
  rw [hands.state, hands.kept, hvisits, Scan.run_eq]
  rfl

theorem source_drain (policy : Policy σ α) (s : σ) (records : List α) :
    ((ofRecords s records).drain policy).2.source = records.drop (policy.visits s 0 records).length := by
  obtain ⟨hvisits, hands⟩ := hands_drain policy s records
  have hsource := congrArg (List.drop (policy.visits s 0 records).length) hands.source
  rw [hvisits, List.drop_left' (List.length_map _)] at hsource
  exact hsource.symm

/-- **A stream goes to the first stop.**  If it hands over all it has, it makes the same walk as a policy that sees the
records at once: the calls for them in order, up to the first that answers with a stop.  What is collected are the
records of the calls that say so, that of the stop among them, and what lies behind the last call stays in the source.
After any number of requests no more of these calls were made than had to be.  A policy that does not look at the
ordinals collects the same over two lists, at the first of which it does not stop, as over both at once, and ends in the
same state. -/
theorem visits_to_first_stop (policy : Policy σ α) (s : σ) (records : List α) :
    (ofRecords s records).walk policy = Scan.run policy s 0 records ∧
      Scan.run policy s 0 records = ⟨policy.stateAfter s 0 (records.take (policy.visits s 0 records).length),
        policy.visits s 0 records, Visit.kept (policy.visits s 0 records)⟩ ∧
      ((ofRecords s records).drain policy).2.source = records.drop (policy.visits s 0 records).length ∧
      (∀ asked, Hands policy s records (policy.visits s 0 records) asked ((ofRecords s records).take policy asked).1
        ((ofRecords s records).take policy asked).2) ∧
      ∀ a b, (∀ s k l c, policy s k c = policy s l c) →
        (∀ v ∈ (Scan.run policy s 0 a).visits, v.verdict.stop = false) →
        (Scan.run policy s 0 (a ++ b)).state = (Scan.run policy (Scan.run policy s 0 a).state 0 b).state ∧
          (Scan.run policy s 0 (a ++ b)).collected =
            (Scan.run policy s 0 a).collected ++ (Scan.run policy (Scan.run policy s 0 a).state 0 b).collected := by
  refine ⟨walk_ofRecords policy s records, ?_, source_drain policy s records, hands_take policy s records,
    fun a b hordinal hgo => ?_⟩
  · rw [Scan.run_eq, Policy.map_record_visits]
    rfl
  · obtain ⟨hstate, hcollected⟩ := Scan.run_congr hordinal (Scan.run policy s 0 a).state (0 + a.length) 0 b
    rw [Scan.run_append hgo]
    exact ⟨hstate, congrArg (_ ++ ·) hcollected⟩

/-- Adds up numbers until they make ten, and collects the even ones. -/
def Sample.toTen : Policy Nat Nat := fun s _ a => (s + a, ⟨10 ≤ s + a, a % 2 = 0⟩)

/-- The numbers up to six make more than ten: the eight stays in the source, and so does the six after two requests.
Over two lists, the first of which makes three, the same is collected. -/
theorem visits_to_first_stop_sample : (∀ s k l a, Sample.toTen s k a = Sample.toTen s l a) ∧
    (∀ v ∈ (Scan.run Sample.toTen 0 0 [1, 2]).visits, v.verdict.stop = false) ∧
    (Scan.run Sample.toTen 0 0 [1, 2, 4, 6, 8]).state = 13 ∧
    (Scan.run Sample.toTen 0 0 [1, 2, 4, 6, 8]).collected = [2] ++ [4, 6] ∧
    ((ofRecords 0 [1, 2, 4, 6, 8]).drain Sample.toTen).2.source = [8] ∧
    ∃ t, Hands Sample.toTen 0 [1, 2, 4, 6, 8] (Sample.toTen.visits 0 0 [1, 2, 4, 6, 8]) 2 [2, 4] t ∧
      t.source = [6, 8] := by
  have hgo : ∀ v ∈ (Scan.run Sample.toTen 0 0 [1, 2]).visits, v.verdict.stop = false := by decide
  obtain ⟨-, -, hsource, hhands, hboth⟩ := visits_to_first_stop Sample.toTen 0 [1, 2, 4, 6, 8]
  obtain ⟨hstate, hcollected⟩ := hboth [1, 2] [4, 6, 8] (fun _ _ _ _ => rfl) hgo
  exact ⟨fun _ _ _ _ => rfl, hgo, hstate, hcollected, hsource, _, hhands 2, rfl⟩

end Stream

/-- A scan of an index asks a stream over the cells of its key for all it has. -/
theorem Index.scan_eq_walk (i : Index) (key : SearchKey) (policy : Policy σ LiveCell) (s : σ) (start : Option Int) :
    i.scan key policy s start = (Stream.ofRecords s (i.matching key start)).walk policy :=
  (Stream.walk_ofRecords policy s _).symm

end CellPurse
