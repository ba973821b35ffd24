import CommitPolicy.Proofs.Validator.BatchRuns

/-!
# Batches without a deadline

Without a deadline every message of a batch gets the verdict of its rules.  If nothing was stored in
the memo before, and there is room for all messages, the callers of a batch start one computation
for each distinct message, and all other callers find the verdict.  The invariant is that each key
that is stored or in flight was started once, and that each caller that is past the memo was
counted.
-/

namespace CommitPolicy

open SharedMemo Validator

/-! ### Keys that were started -/

namespace Memo

variable {V : Type} {m : Memo V} {messages : List String} {key : String} {value : V}

/-- The keys that are stored or in flight. -/
def known (m : Memo V) : List String := m.keys ++ m.inFlight

/-- Each key that is stored or in flight is one of the messages and was started once. -/
structure Tallies (m : Memo V) (messages : List String) : Prop where
  once : m.known.Nodup
  asked : m.known ⊆ messages
  misses : m.misses = m.known.length
  roomy : ∀ n, m.maxSize = some n → messages.dedup.length ≤ n

section Tallies

variable (h : m.Tallies messages)
include h

/-- The keys become others, in some order. -/
theorem Tallies.of_perm {m' : Memo V} (hknown : m'.known.Perm m.known)
    (hmisses : m'.misses = m.misses)
    (hsize : m'.maxSize = m.maxSize) :
  m'.Tallies messages
  := by
  constructor
  · apply hknown.nodup_iff.mpr h.once
  · apply List.Subset.trans hknown.subset h.asked
  · rw [hmisses, h.misses, hknown.length_eq]
  · rw [hsize]
    apply h.roomy

theorem Tallies.length_le :
  m.known.length ≤ messages.dedup.length
  := by
  apply List.Subperm.length_le
  apply List.subperm_of_subset h.once
  intro k hk
  apply List.mem_dedup.mpr (h.asked hk)

theorem Tallies.hit (hget : m.get? key = some value) :
  Tallies { m with entries := m.touch key value, hits := m.hits + 1 } messages
  := by
  have hmem : key ∈ m.keys := List.mem_map_of_mem (mem_entries_of_get? hget)
  have hkeys : (m.touch key value).map (·.1) = m.keys.erase key ++ [key] := by
    rw [touch, List.map_append, h.once.of_append_left.erase_eq_filter, keys, List.filter_map]
    rfl
  refine h.of_perm ?_ rfl rfl
  change ((m.touch key value).map (·.1) ++ m.inFlight).Perm (m.keys ++ m.inFlight)
  rw [hkeys]
  apply List.Perm.append_right
  apply (List.perm_append_singleton key _).trans (List.perm_cons_erase hmem).symm

theorem Tallies.lead (hkey : key ∈ messages) (hget : m.get? key = none)
    (hflight : key ∉ m.inFlight) :
  Tallies { m with inFlight := key :: m.inFlight, misses := m.misses + 1 } messages
  := by
  have hknown : (m.keys ++ key :: m.inFlight).Perm (key :: m.known) := List.perm_middle
  constructor
  · apply hknown.nodup_iff.mpr (List.nodup_cons.mpr ⟨?_, h.once⟩)
    rintro hmem
    rcases List.mem_append.mp hmem with hmem | hmem
    · apply get?_eq_none_iff.mp hget hmem
    · apply hflight hmem
  · apply List.Subset.trans hknown.subset (List.cons_subset.mpr ⟨hkey, h.asked⟩)
  · change m.misses + 1 = (m.keys ++ key :: m.inFlight).length
    rw [hknown.length_eq, h.misses, List.length_cons]
  · apply h.roomy

/-- There is room for a value under a key that is in flight. -/
theorem Tallies.entries_settle (hm : m.Consistent) (hkey : key ∈ m.inFlight) (value : V) :
  (m.settle key value).entries = m.entries ++ [(key, value)]
  := by
  change evict m.maxSize (put m.entries key value) = _
  rw [put_of_not_mem (hm.notStored key hkey)]
  apply evict_eq_self
  intro n hn
  have hflight := List.length_pos_of_mem hkey
  have hlength : m.entries.length + m.inFlight.length ≤ n := by
    simpa [known, keys] using Nat.le_trans h.length_le (h.roomy n hn)
  rw [List.length_append, List.length_singleton]
  omega

theorem Tallies.settle (hm : m.Consistent) (hkey : key ∈ m.inFlight) (value : V) :
  (m.settle key value).Tallies messages
  := by
  refine h.of_perm ?_ rfl rfl
  change ((m.settle key value).entries.map (·.1) ++ m.inFlight.erase key).Perm _
  rw [h.entries_settle hm hkey, List.map_append, List.append_assoc]
  apply List.Perm.append_left
  apply (List.perm_cons_erase hkey).symm

end Tallies

end Memo

/-! ### Callers that were counted -/

/-- Whether a caller is past the memo, so that it was counted as a hit or as a computation: one for
yes and zero for no. -/
def Phase.admitted {V : Type} : Phase V → Nat
  | computing _ _ => 1
  | ending _ _ _ => 1
  | answered _ _ _ => 1
  | _ => 0

namespace Batch

variable {b : Batch} {m : Memo Verdict} {s t : SharedMemo Verdict} {i event : Nat}
  {r : Request Verdict} {p : Phase Verdict}

/-- The memo tallies with the messages, each caller that is past it was counted, and the messages of
those that have a result are stored. -/
structure Counted (b : Batch) (s : SharedMemo Verdict) : Prop where
  tallies : s.memo.Tallies b.messages
  counted : s.memo.hits + s.memo.misses
    = ∑ i ∈ Finset.range b.messages.length, (s.phase i).admitted
  stored : ∀ c r result, (s.phase c).outcome? = some (r, result) → r.key ∈ s.memo.keys

/-- A caller goes on to another phase. -/
theorem Counted.move (h : b.Counted s) (hi : i < b.messages.length)
    (hphase : t.phase = Function.update s.phase i p) (htallies : t.memo.Tallies b.messages)
    (hcounted : t.memo.hits + t.memo.misses + (s.phase i).admitted
      = s.memo.hits + s.memo.misses + p.admitted)
    (hkeys : s.memo.keys ⊆ t.memo.keys)
    (hstored : ∀ r result, p.outcome? = some (r, result) → r.key ∈ t.memo.keys) :
  b.Counted t
  := by
  constructor
  · apply htallies
  · have hsum := sum_update_add Phase.admitted s.phase p hi
    rw [hphase]
    have hbefore := h.counted
    omega
  · intro c r result hc
    rw [hphase, Function.update_apply] at hc
    split at hc
    · apply hstored r result hc
    · apply hkeys (h.stored c r result hc)

theorem Counted.enter (h : b.Counted s) (hs : b.Sound s) (hphase : s.phase i = .entering r) :
  b.Counted (s.letIn i r (s.memo.enter r.key))
  := by
  obtain ⟨message, hmessage, rfl⟩ : b.Asks i r := by
    apply hs.proper.asked i r
    rw [hphase]
    rfl
  have hi : i < b.messages.length := (List.getElem?_eq_some_iff.mp hmessage).1
  obtain ⟨verdict, hget, henter⟩ | ⟨-, -, henter⟩ | ⟨hget, hflight, henter⟩ :=
    Memo.enter_cases s.memo (b.request message).key
  · have hkeys := Memo.cons_keys_subset_touch s.memo (b.request message).key verdict
    rw [henter]
    refine h.move hi rfl (h.tallies.hit hget) ?_ (List.subset_of_cons_subset hkeys) ?_
    · rw [hphase]
      change s.memo.hits + 1 + s.memo.misses + 0 = s.memo.hits + s.memo.misses + 1
      omega
    · rintro _ _ ⟨⟩
      apply hkeys List.mem_cons_self
  · rw [henter]
    refine h.move hi rfl h.tallies ?_ (List.Subset.refl _) ?_
    · rw [hphase]
      rfl
    · rintro _ _ ⟨⟩
  · rw [henter]
    refine h.move hi rfl (h.tallies.lead ?_ hget hflight) ?_ (List.Subset.refl _) ?_
    · apply List.mem_of_getElem? hmessage
    · rw [hphase]
      change s.memo.hits + (s.memo.misses + 1) + 0 = s.memo.hits + s.memo.misses + 1
      omega
    · rintro _ _ ⟨⟩

/-- A memo in which nothing is stored yet, and in which there is room for all messages. -/
theorem Counted.start {maxSize : Option Int} (hm : Memo.make? maxSize = .ok m)
    (hroomy : ∀ n, maxSize = some n → (b.messages.dedup.length : Int) ≤ n) :
  b.Counted (start m)
  := by
  obtain rfl := Memo.eq_empty_of_make? hm
  constructor
  · constructor
    · apply List.nodup_nil
    · apply List.nil_subset
    · rfl
    · intro n hn
      obtain ⟨k, hk, rfl⟩ := Option.map_eq_some_iff.mp hn
      have hle := hroomy k hk
      omega
  · exact (Finset.sum_const_zero).symm
  · rintro c r result ⟨⟩

section Rules

variable [ReadingLimits] {cfg : Config} (hrules : RuleSet.ofConfig cfg = .ok b.rules)
  (hseconds : b.seconds = none)
include hrules hseconds

/-- Without a deadline a computation gives the verdict of the rules, which is stored. -/
theorem eq_verdict_of_gives {message : String} {verdict : Verdict}
    (hgives : (b.request message).gives verdict) :
  verdict = b.rules.verdict message ∧ (b.request message).keeps verdict = true
  := by
  obtain ⟨_, _, hread⟩ := RuleSet.exists_readFrom hrules
  obtain ⟨workers, start, course, hfits, hattempt⟩ := hgives
  rw [hseconds] at hfits hattempt
  rw [RuleSet.attempt_of_fits hread.inOrder hfits] at hattempt
  obtain rfl := Except.ok.inj hattempt
  use rfl
  simp [request, Validator.request, RuleSet.timedOut_verdict hread.inOrder]

theorem Counted.conclude (h : b.Counted s) (hs : b.Sound s)
    (hphase : s.phase i = .computing r event)
    {verdict : Verdict} (hgives : r.gives verdict) :
  b.Counted (s.giveBack i r event (.ok verdict)
    (if r.keeps verdict then s.memo.settle r.key verdict else s.memo.release r.key))
  := by
  obtain ⟨message, hmessage, rfl⟩ : b.Asks i r := by
    apply hs.proper.asked i r
    rw [hphase]
    rfl
  have hi : i < b.messages.length := (List.getElem?_eq_some_iff.mp hmessage).1
  have hflight : (b.request message).key ∈ s.memo.inFlight := by
    apply (hs.led.mem i (b.request message).key event _).1
    rw [hphase]
    rfl
  rw [if_pos (eq_verdict_of_gives hrules hseconds hgives).2]
  have hentries := h.tallies.entries_settle hs.consistent hflight verdict
  have hkeys : (s.memo.settle (b.request message).key verdict).keys
      = s.memo.keys ++ [(b.request message).key] := by
    rw [Memo.keys, hentries, List.map_append]
    rfl
  refine h.move hi rfl (h.tallies.settle hs.consistent hflight verdict) ?_ ?_ ?_
  · rw [hphase]
    rfl
  · change s.memo.keys ⊆ (s.memo.settle _ _).keys
    rw [hkeys]
    apply List.subset_append_left
  · rintro _ _ ⟨⟩
    change _ ∈ (s.memo.settle _ _).keys
    rw [hkeys]
    simp

theorem Step.counted (h : b.Step s t) (hs : b.Sound s) (hcounted : b.Counted s) :
  b.Counted t
  := by
  cases h with
  | @call i r hphase hasks hroom =>
      refine hcounted.move hasks.lt rfl hcounted.tallies ?_ (List.Subset.refl _) ?_
      · rw [hphase]
        rfl
      · rintro _ _ ⟨⟩
  | enter hphase => apply hcounted.enter hs hphase
  | @wake i event r hphase hset =>
      have hasks : b.Asks i r := hs.proper.asked i r (by rw [hphase]; rfl)
      refine hcounted.move hasks.lt rfl hcounted.tallies ?_ (List.Subset.refl _) ?_
      · rw [hphase]
        rfl
      · rintro _ _ ⟨⟩
  | @giveUp i event r hphase htimeout =>
      obtain ⟨message, -, rfl⟩ : b.Asks i r := hs.proper.asked i r (by rw [hphase]; rfl)
      cases htimeout hseconds
  | conclude hphase hgives => apply hcounted.conclude hrules hseconds hs hphase hgives
  | @signal i event r result hphase =>
      have hasks : b.Asks i r := hs.proper.asked i r (by rw [hphase]; rfl)
      refine hcounted.move hasks.lt rfl hcounted.tallies ?_ (List.Subset.refl _) ?_
      · rw [hphase]
        rfl
      · rintro _ _ ⟨⟩
        apply hcounted.stored i r result
        rw [hphase]
        rfl

theorem Reachable.counted (h : b.Reachable m s) (hm : AtRest b.rules m)
    (hstart : b.Counted (SharedMemo.start m)) :
  b.Counted s
  := by
  induction h with
  | refl => apply hstart
  | tail hreached hstep ih =>
      apply hstep.counted hrules hseconds (Reachable.sound hrules hm hreached) ih

end Rules

/-! ### What a batch comes to -/

theorem Gathers.counts {verdicts : List Verdict} (h : b.Gathers s verdicts) (hs : b.Sound s)
    (hcounted : b.Counted s) :
  s.memo.misses = b.messages.dedup.length
    ∧ s.memo.hits = b.messages.length - b.messages.dedup.length
    ∧ ∀ message ∈ b.messages, s.memo.contains message = true
  := by
  have hkeys : s.memo.known = s.memo.keys := by
    rw [Memo.known, (h.quiet hs).inFlight hs.led, List.append_nil]
  have hstored : ∀ message ∈ b.messages, message ∈ s.memo.keys := by
    intro message hmessage
    obtain ⟨i, hi, rfl⟩ := List.getElem_of_mem hmessage
    obtain ⟨r, ran, result, verdict, hphase, -⟩ := h.exists_answered hi
    obtain ⟨message, -, hmessage, rfl, -⟩ := hs.exists_answers hphase
    obtain ⟨_, rfl⟩ := List.getElem?_eq_some_iff.mp hmessage
    apply hcounted.stored i (b.request b.messages[i]) result
    rw [hphase]
    rfl
  have hperm : s.memo.keys.Perm b.messages.dedup := by
    apply (List.perm_ext_iff_of_nodup (hkeys ▸ hcounted.tallies.once) (List.nodup_dedup _)).mpr
    intro key
    rw [List.mem_dedup]
    exact ⟨fun hkey => hcounted.tallies.asked (hkeys ▸ hkey), hstored key⟩
  have hadmitted : ∀ i ∈ Finset.range b.messages.length, (s.phase i).admitted = 1 := by
    intro i hi
    obtain ⟨_, _, _, _, hphase, -⟩ := h.exists_answered (Finset.mem_range.mp hi)
    rw [hphase]
    rfl
  have hmisses : s.memo.misses = b.messages.dedup.length := by
    rw [hcounted.tallies.misses, hkeys, hperm.length_eq]
  have hcounts : s.memo.hits + s.memo.misses = b.messages.length := by
    rw [hcounted.counted, Finset.sum_congr rfl hadmitted]
    simp
  refine ⟨hmisses, by omega, ?_⟩
  intro message hmessage
  rw [Memo.contains, Option.isSome_iff_ne_none, Ne, Memo.get?_eq_none_iff, not_not]
  apply hstored message hmessage

end Batch

/-! ### Batches of a validator -/

namespace Validator

variable {O : Type} {v : Validator O} {cfg : Config} {messages : List String}
  {verdicts : List Verdict}

/-- Without a deadline there is one answer. -/
theorem Answers.eq_verdict [ReadingLimits] {rs : RuleSet} (hrules : RuleSet.ofConfig cfg = .ok rs)
    {message : String} {verdict : Verdict} (h : Answers rs none message verdict) :
  verdict = rs.verdict message
  := by
  obtain ⟨_, _, hread⟩ := RuleSet.exists_readFrom hrules
  cases h with
  | judged hfits hattempt =>
      have hverdict := RuleSet.attempt_of_fits hread.inOrder hfits message
      apply Except.ok.inj (hattempt.symm.trans (hverdict _))
  | stored => rfl
  | gaveUp hseconds => cases hseconds rfl

theorem eq_map_of_answers [ReadingLimits] {rs : RuleSet} (hrules : RuleSet.ofConfig cfg = .ok rs)
    (h : List.Forall₂ (Answers rs none) messages verdicts) :
  verdicts = messages.map rs.verdict
  := by
  induction h with
  | nil => rfl
  | cons hanswer _ ih => rw [List.map_cons, hanswer.eq_verdict hrules, ih]

/-- In any order in which the validations of a batch start, wait for each other and finish, and
however many of them may be under way, the batch ends, the verdict on each message is the one that a
validation without a memo and without a deadline gives, and if the memo was new and has room for all
messages, the verdict on each distinct message is computed once and stored, and found for every
other one.  Validating the messages one after the other is one of these orders. -/
theorem batch_pointwise [ReadingLimits] (hv : v.Used cfg) (hdeadline : v.deadline = none)
    (messages : List String) (concurrency : Int) :
  (∀ m ∈ v.memo, (v.batch messages none concurrency).Ends m)
    ∧ (∀ verdicts memo, v.ComesTo messages none concurrency verdicts memo →
      verdicts = messages.map v.rules.verdict
      ∧ ∀ new maxSize, v.memo = some new → Memo.make? maxSize = .ok new →
        (∀ n, maxSize = some n → (messages.dedup.length : Int) ≤ n) →
        ∃ m, memo = some m ∧ m.misses = messages.dedup.length
          ∧ m.hits = messages.length - messages.dedup.length
          ∧ ∀ message ∈ messages, m.contains message = true)
    ∧ ∀ timing, v.Fits timing → ∃ verdicts told w,
      v.validateAll timing messages = (.ok verdicts, told, w)
        ∧ v.ComesTo messages none concurrency verdicts w.memo
  := by
  refine ⟨?_, ?_, ?_⟩
  · intro m hm
    apply Batch.Ends.of_atRest hv.rules (hv.atRest hm) (v.batch_limit_pos _ _ _)
  · intro verdicts memo h
    use eq_map_of_answers hv.rules (h.answers hv)
    intro new maxSize hmemo hnew hroomy
    cases h with
    | apart hapart =>
        rw [hapart] at hmemo
        cases hmemo
    | @together m s _ hm hs hgathers =>
        obtain rfl := Option.some.inj (hm.symm.trans hmemo)
        have hrest := hv.atRest hm
        have hcounted := hs.counted hv.rules rfl hrest (Batch.Counted.start hnew hroomy)
        use s.memo, rfl
        apply hgathers.counts (hs.sound hv.rules hrest) hcounted
  · intro timing hfits
    apply validateAll_comesTo_of_deadline_eq_none hv hdeadline hfits

/-- The strict validator with a new memo for one verdict. -/
def cramped : Validator Unit := { strictValidator with memo := some (.empty (some 1)) }

/-- The same message twice. -/
def twice : Batch := cramped.batch ["b(t): xxxx", "b(t): xxxx"] none 2

/-- Both callers have made their request, the first one leads and the second one waits for it. -/
def queued : SharedMemo Verdict :=
  ((((start (.empty (some 1))).move 0 (.entering (strictRequest none))).move 1
    (.entering (strictRequest none))).letIn 0 (strictRequest none)
      (.lead, ⟨some 1, [], ["b(t): xxxx"], 0, 1⟩)).letIn 1 (strictRequest none)
        (.wait, ⟨some 1, [], ["b(t): xxxx"], 0, 1⟩)

/-- The first caller has stored its verdict, and the second one has found it. -/
def served : SharedMemo Verdict :=
  (((queued.giveBack 0 (strictRequest none) 0 (.ok (strictValidator.rules.verdict "b(t): xxxx"))
    ⟨some 1, [("b(t): xxxx", strictValidator.rules.verdict "b(t): xxxx")], [], 0, 1⟩).signal 0
      (strictRequest none) 0 (.ok (strictValidator.rules.verdict "b(t): xxxx"))).move 1
        (.entering (strictRequest none))).letIn 1 (strictRequest none)
          (.hit (strictValidator.rules.verdict "b(t): xxxx"),
            ⟨some 1, [("b(t): xxxx", strictValidator.rules.verdict "b(t): xxxx")], [], 1, 1⟩)

theorem reachable_served :
  twice.Reachable (.empty (some 1)) served
  := by
  have hfirst : twice.Asks 0 (strictRequest none) := ⟨"b(t): xxxx", rfl, rfl⟩
  have hsecond : twice.Asks 1 (strictRequest none) := ⟨"b(t): xxxx", rfl, rfl⟩
  have hstart : twice.Reachable (.empty (some 1)) (start (.empty (some 1))) := .refl
  have hqueued : twice.Reachable (.empty (some 1)) queued :=
    (((hstart.tail (.call rfl hfirst (by decide))).tail (.call rfl hsecond (by decide))).tail
      (.enter rfl)).tail (.enter rfl)
  have hgives : (strictRequest none).gives (strictValidator.rules.verdict "b(t): xxxx") :=
    ⟨1, 0, .inTurn fun _ => 0, Int.le_refl 1, RuleSet.attempt_none _ _ _ _⟩
  have hrules : RuleSet.ofConfig strictConfig = .ok twice.rules := rfl
  have hkeeps : (strictRequest none).keeps (strictValidator.rules.verdict "b(t): xxxx") = true :=
    (Batch.eq_verdict_of_gives hrules rfl hgives).2
  have hleads : queued.phase 0 = .computing (strictRequest none) 0 := rfl
  have hconclude : twice.Step queued _ := .conclude hleads hgives
  rw [if_pos hkeeps] at hconclude
  exact (((hqueued.tail hconclude).tail (.signal rfl)).tail (.wake rfl rfl)).tail (.enter rfl)

theorem batch_pointwise_twice :
  cramped.Used strictConfig ∧ cramped.deadline = none
    ∧ cramped.ComesTo ["b(t): xxxx", "b(t): xxxx"] none 2
      [strictValidator.rules.verdict "b(t): xxxx", strictValidator.rules.verdict "b(t): xxxx"]
      (some served.memo)
    ∧ served.memo.misses = 1 ∧ served.memo.hits = 1
    ∧ served.memo.contains "b(t): xxxx" = true
  := by
  have hused : cramped.Used strictConfig := by
    constructor
    · rfl
    · rintro _ ⟨⟩
      exact ⟨some 1, .empty (some 1), start (.empty (some 1)), rfl, .refl, rfl, rfl⟩
  have hcomes : cramped.ComesTo ["b(t): xxxx", "b(t): xxxx"] none 2
      [strictValidator.rules.verdict "b(t): xxxx", strictValidator.rules.verdict "b(t): xxxx"]
      (some served.memo) := .together rfl reachable_served rfl
  obtain ⟨-, hall, -⟩ := batch_pointwise hused rfl ["b(t): xxxx", "b(t): xxxx"] 2
  obtain ⟨-, hcounts⟩ := hall _ _ hcomes
  obtain ⟨m, hm, hmisses, hhits, hcontains⟩ := hcounts _ (some 1) rfl rfl (by decide)
  obtain rfl := Option.some.inj hm
  exact ⟨hused, rfl, hcomes, hmisses, hhits, hcontains _ (by decide)⟩

end Validator

end CommitPolicy
