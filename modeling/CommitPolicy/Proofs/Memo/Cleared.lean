import CommitPolicy.Proofs.Memo.Places

/-!
# What is found after a memo was cleared

A memo that is cleared forgets what is stored, but computations that are under way go on and store
their values when they end.  So a value that is found later was stored later, and its computation
either started later or was under way when the memo was cleared.
-/

namespace CommitPolicy

open MemoEvent MemoStep

variable {V : Type}

namespace MemoStep

/-- The value that a step gives without computing it, with its key. -/
def served? : MemoStep V → MemoReport V → Option (String × V)
  | .get key, .got (some value) _ => some (key, value)
  | .compute key _ _ _ _, .computed false (.ok value) _ _ => some (key, value)
  | _, _ => none

theorem get?_of_served? {m : Memo V} {step : MemoStep V} {key : String} {value : V}
    (h : served? step (run m step) = some (key, value)) :
  m.get? key = some value
  := by
  cases step with
  | compute other result keep fault inner =>
      obtain ⟨stored, hget, henter⟩ | ⟨-, -, henter⟩ | ⟨-, -, henter⟩ := Memo.enter_cases m other
      · rw [run, henter] at h
        cases h
        apply hget
      · rw [run, henter] at h
        cases h
      · rw [run_compute_of_lead henter] at h
        cases h
  | get other =>
      rw [run] at h
      cases hget : m.get? other with
      | none =>
          rw [hget] at h
          cases h
      | some stored =>
          rw [hget] at h
          cases h
          apply hget
  | contains other => cases h
  | clear => cases h

end MemoStep

/-- The step that is taken at the place gives a stored value. -/
def MemoPlace.Serves (p : MemoPlace V) (key : String) (value : V) : Prop :=
  ∃ step rest, p.next = step :: rest ∧ served? step (run p.memo step) = some (key, value)

/-- The step that is taken at the place clears the memo. -/
def MemoPlace.Clears (p : MemoPlace V) : Prop := ∃ rest, p.next = .clear :: rest

/-! ### Events after the memo was cleared -/

theorem sinceCleared_suffix (x y : List (MemoEvent V)) :
  sinceCleared (x ++ .cleared :: y) <:+ y
  := by
  induction y using List.reverseRecOn with
  | nil => simp [sinceCleared_cleared]
  | append_singleton y e ih =>
      rw [← List.cons_append, ← List.append_assoc]
      cases he : e.isCleared with
      | false =>
          rw [sinceCleared_concat he]
          obtain ⟨z, hz⟩ := ih
          use z
          rw [← List.append_assoc, hz]
      | true =>
          cases e with
          | cleared =>
              rw [sinceCleared_cleared]
              apply List.nil_suffix
          | _ => cases he

theorem mem_of_latest? {l : List (MemoEvent V)} {key : String} {value : V}
    (h : Memo.latest? l key = some value) :
  .stored key value ∈ l
  := by
  obtain ⟨above, below, hl, -⟩ := List.lookup_eq_some_iff.mp h
  have hmem : (key, value) ∈ l.filterMap stored? := by
    rw [← List.mem_reverse, hl]
    simp
  obtain ⟨e, he, hstored⟩ := List.mem_filterMap.mp hmem
  cases e with
  | stored k v =>
      cases hstored
      apply he
  | _ => cases hstored

variable {m : Memo V} {steps : List (MemoStep V)} {p : MemoPlace V} {key : String} {value : V}

theorem MemoStep.Reaches.cleared_prefix (hp : Reaches m steps p) (hclears : p.Clears) :
  p.past ++ [.cleared] <+: eventsAll steps (runAll m steps)
  := by
  obtain ⟨rest, hnext⟩ := hclears
  have hevents := hp.events_prefix
  rw [hnext, runAll, eventsAll] at hevents
  apply List.IsPrefix.trans _ hevents
  rw [List.prefix_append_right_inj]
  apply List.prefix_append

/-- The memo is cleared at the place `p`, and `x` happens from then until the value is stored.  It is
stored by a computation that starts at the place `r`, either later or with `p` inside of it; `course`
is what happens in the computation until then. -/
structure StoredSince (m : Memo V) (steps : List (MemoStep V)) (p : MemoPlace V) (key : String)
    (value : V) (x : List (MemoEvent V)) (r : MemoPlace V) (course : List (MemoEvent V)) :
    Prop where
  reaches : Reaches m steps r
  stores : Stores r key value course
  past_eq : p.past ++ .cleared :: x = r.past ++ course
  started : p.past ++ [.cleared] <+: r.past ∨ r.past ++ [.started key] <+: p.past ∧ key ∈ p.around

section StoredSince

variable {r : MemoPlace V} {x course : List (MemoEvent V)} {rest : List (MemoStep V)}

theorem StoredSince.inside {entered : Memo V} {other : String} {result : V} {keep : Bool}
    {fault : Option String} (henter : m.enter other = (.lead, entered))
    (h : StoredSince entered steps p key value x r course) :
  StoredSince m (.compute other result keep fault steps :: rest) (p.within other) key value x
    (r.within other) course
  := by
  constructor
  · apply Reaches.inside henter h.reaches
  · apply h.stores.within
  · apply congrArg (MemoEvent.started other :: ·) h.past_eq
  · apply h.started.imp
    · intro hlater
      apply List.cons_prefix_cons.mpr ⟨rfl, hlater⟩
    · rintro ⟨hearlier, hkey⟩
      constructor
      · apply List.cons_prefix_cons.mpr ⟨rfl, hearlier⟩
      · apply List.mem_append_left _ hkey

theorem StoredSince.later {step : MemoStep V}
    (h : StoredSince (run m step).after rest p key value x r course) :
  StoredSince m (step :: rest) (p.behind (events step (run m step))) key value x
    (r.behind (events step (run m step))) course
  := by
  constructor
  · apply Reaches.later h.reaches
  · apply h.stores.behind
  · simp [MemoPlace.behind, h.past_eq]
  · simpa [MemoPlace.behind] using h.started

end StoredSince

/-- A value that is stored after the memo was cleared at a place was computed by a computation that
started after that, or was under way at the place. -/
theorem MemoStep.Reaches.exists_stores (hp : Reaches m steps p) (hclears : p.Clears)
    {x : List (MemoEvent V)}
    (h : (p.past ++ .cleared :: x) ++ [.stored key value] <+: eventsAll steps (runAll m steps)) :
  ∃ r course, StoredSince m steps p key value x r course
  := by
  -- The computation is looked for below the place, where it can only have started later, and
  -- around it.
  induction hp generalizing x with
  | @here m steps =>
      obtain ⟨rest, rfl⟩ := hclears
      rw [runAll, eventsAll] at h
      change [.cleared] ++ (x ++ [.stored key value]) <+: [.cleared] ++ _ at h
      rw [List.prefix_append_right_inj] at h
      obtain ⟨r, course, hr, hstores, rfl⟩ := exists_stores_runAll _ rest h
      exact ⟨_, course, .later hr, hstores.behind _, rfl, .inl (List.prefix_append _ _)⟩
  | @inside m entered other result keep fault inner rest p henter hp ih =>
      have hevents := events_compute_of_lead henter result keep fault inner
      have hbelow : (p.past ++ .cleared :: x) ++ [.stored key value]
          <+: eventsAll inner (runAll entered inner)
            ++ (endEvents other keep (conclude (lastOf entered (runAll entered inner)) other result
                keep fault).1
              ++ eventsAll rest
                (runAll (run m (.compute other result keep fault inner)).after rest)) := by
        rw [runAll, eventsAll, hevents] at h
        simpa [MemoPlace.within] using h
      rcases concat_prefix_append hbelow with hinner | ⟨y, hy, hbehind⟩
      · obtain ⟨r, course, hr⟩ := ih hclears hinner
        exact ⟨r.within other, course, hr.inside henter⟩
      rcases concat_prefix_append hbehind with hend | ⟨z, rfl, hrest⟩
      · obtain ⟨rfl, rfl, rfl, rfl, rfl⟩ := of_prefix_endEvents hend
        rw [List.append_nil] at hy
        refine ⟨_, _, .here, .mk rfl henter, ?_, .inr ⟨?_, ?_⟩⟩
        · apply congrArg (MemoEvent.started key :: ·) hy
        · apply List.prefix_append [_]
        · apply List.mem_append_right _ (List.mem_singleton_self key)
      · obtain ⟨r, course, hr, hstores, rfl⟩ := exists_stores_runAll _ rest hrest
        refine ⟨_, course, .later hr, hstores.behind _, ?_, .inl ?_⟩
        · simp [MemoPlace.within, MemoPlace.behind, hevents, hy]
        · simp only [MemoPlace.within, MemoPlace.behind, hevents, List.cons_append,
            List.append_assoc, List.cons_prefix_cons, true_and]
          apply (hp.cleared_prefix hclears).trans (List.prefix_append _ _)
  | @later m step rest p _ ih =>
      have hbelow : (p.past ++ .cleared :: x) ++ [.stored key value]
          <+: eventsAll rest (runAll (run m step).after rest) := by
        rw [runAll, eventsAll] at h
        simpa [MemoPlace.behind] using h
      obtain ⟨r, course, hr⟩ := ih hclears hbelow
      exact ⟨r.behind (events step (run m step)), course, hr.later⟩

namespace MemoStep

/-- After a memo was cleared at a place, every value that is given without being computed was stored
since, by a computation that started after the memo was cleared or was under way at the place. -/
theorem served_since_cleared {n : Option Int} (hm : Memo.make? n = .ok m) {q : MemoPlace V}
    {after : List (MemoEvent V)} (hp : Reaches m steps p) (hclears : p.Clears)
    (hq : Reaches m steps q) (hpast : q.past = p.past ++ .cleared :: after)
    (hserves : q.Serves key value) :
  ∃ r course since ends, Reaches m steps r ∧ Stores r key value course
    ∧ r.past ++ course = p.past ++ .cleared :: since ∧ after = since ++ .stored key value :: ends
    ∧ (p.past ++ [.cleared] <+: r.past ∨ r.past ++ [.started key] <+: p.past ∧ key ∈ p.around)
  := by
  obtain ⟨step, rest, -, hserved⟩ := hserves
  have hrecounts := hq.recounts hm .refl rfl (.of_make? hm)
  have hlatest := hrecounts.values _ (Memo.mem_entries_of_get? (get?_of_served? hserved))
  have hmem : .stored key value ∈ after := by
    rw [List.nil_append, hpast] at hlatest
    apply (sinceCleared_suffix p.past after).subset (mem_of_latest? hlatest)
  obtain ⟨since, ends, rfl⟩ := List.append_of_mem hmem
  have hstored : (p.past ++ .cleared :: since) ++ [.stored key value]
      <+: eventsAll steps (runAll m steps) := by
    apply List.IsPrefix.trans _ hq.past_prefix
    rw [hpast]
    use ends
    simp
  obtain ⟨r, course, hr, hstores, heq, hplace⟩ := hp.exists_stores hclears hstored
  exact ⟨r, course, since, ends, hr, hstores, heq.symm, rfl, hplace⟩

/-- While the value of `a` is computed, the memo is cleared and `b` is stored. -/
def straddling : List (MemoStep Nat) :=
  [.compute "a" 1 true none [.clear, .compute "b" 2 true none []], .compute "b" 0 true none [],
    .get "a"]

/-- Inside of the computation of `a`, before the memo is cleared. -/
def beforeClearing : MemoPlace Nat :=
  ⟨[.started "a"], ["a"], ⟨none, [], ["a"], 0, 1⟩, [.clear, .compute "b" 2 true none []]⟩

/-- Before `a` is asked for. -/
def beforeAsking : MemoPlace Nat :=
  ⟨[.started "a", .cleared, .started "b", .stored "b" 2, .stored "a" 1, .found "b"], [],
    ⟨none, [("a", 1), ("b", 2)], [], 1, 1⟩, [.get "a"]⟩

theorem reaches_beforeClearing :
  Reaches (.empty none) straddling beforeClearing
  := .inside rfl .here

theorem reaches_beforeAsking :
  Reaches (.empty none) straddling beforeAsking
  := .later (.later .here)

theorem serves_beforeAsking :
  beforeAsking.Serves "a" 1
  := ⟨_, _, rfl, rfl⟩

theorem served_since_cleared_straddling :
  Memo.make? none = .ok (.empty none : Memo Nat)
    ∧ Reaches (.empty none) straddling beforeClearing ∧ beforeClearing.Clears
    ∧ Reaches (.empty none) straddling beforeAsking
    ∧ beforeAsking.past = beforeClearing.past
      ++ .cleared :: [.started "b", .stored "b" 2, .stored "a" 1, .found "b"]
    ∧ beforeAsking.Serves "a" 1
    ∧ ∃ r course, Reaches (.empty none) straddling r ∧ Stores r "a" 1 course
      ∧ (beforeClearing.past ++ [.cleared] <+: r.past
        ∨ r.past ++ [.started "a"] <+: beforeClearing.past ∧ "a" ∈ beforeClearing.around)
  := by
  have hclears : beforeClearing.Clears := ⟨_, rfl⟩
  obtain ⟨r, course, -, -, hr, hstores, -, -, hplace⟩ :=
    served_since_cleared (rfl : Memo.make? none = .ok (.empty none)) reaches_beforeClearing hclears
      reaches_beforeAsking rfl serves_beforeAsking
  exact ⟨rfl, reaches_beforeClearing, hclears, reaches_beforeAsking, rfl, serves_beforeAsking,
    r, course, hr, hstores, hplace⟩

/-- The value need not come from a computation that started after the memo was cleared: `a` is
stored by the computation during which it was cleared. -/
theorem served_from_before_cleared :
  ¬ ∀ (m : Memo Nat) (steps : List (MemoStep Nat)) (p q : MemoPlace Nat)
      (after : List (MemoEvent Nat)) (key : String) (value : Nat),
    Memo.make? none = .ok m → Reaches m steps p → p.Clears → Reaches m steps q →
    q.past = p.past ++ .cleared :: after → q.Serves key value →
    ∃ r course, Reaches m steps r ∧ Stores r key value course
      ∧ p.past ++ [.cleared] <+: r.past ∧ r.past ++ course <+: q.past
  := by
  intro h
  obtain ⟨r, course, -, hstores, ⟨since, hsince⟩, ⟨ends, hends⟩⟩ :=
    h (.empty none) straddling beforeClearing beforeAsking _ "a" 1 rfl reaches_beforeClearing
      ⟨_, rfl⟩ reaches_beforeAsking rfl serves_beforeAsking
  cases hstores with
  | mk hnext henter =>
      have hmem : MemoEvent.started "a"
          ∈ [.started "b", .stored "b" 2, .stored "a" 1, .found "b"] := by
        rw [← hsince] at hends
        simp only [beforeClearing, beforeAsking, List.cons_append, List.nil_append,
          List.cons.injEq, true_and] at hends
        rw [← hends]
        simp
      simp at hmem

end MemoStep

end CommitPolicy
