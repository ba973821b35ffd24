import CommitPolicy.Proofs.Memo.Places

/-!
# Computations that fail

A computation that fails hands its failure on, and the memo is then as the request and the steps
inside of the computation left it, with the key no longer in flight.  It is shown that

* a key in flight is not stored by the steps inside of its computation, so that the next request for
  it computes again;
* the keys in flight are those of the computations that are under way, and none is left after a step
  that is not inside of a computation.
-/

namespace CommitPolicy

/-- The memo after a request for a key that is neither stored nor in flight. -/
def Memo.missed {V : Type} (m : Memo V) (key : String) : Memo V :=
  { m with inFlight := key :: m.inFlight, misses := m.misses + 1 }

namespace MemoStep

variable {V : Type} {m : Memo V} {key : String}

/-! ### A key in flight is not stored -/

/-- A computation of another key does not store the key. -/
theorem not_mem_keys_conclude {other : String} (hne : key ≠ other) (hkey : key ∉ m.keys) (value : V)
    (keep : Bool) (fault : Option String) :
  key ∉ (conclude m other value keep fault).2.keys
  := by
  cases fault with
  | some text => apply hkey
  | none =>
      cases keep with
      | false => apply hkey
      | true =>
          intro hmem
          rcases Memo.mem_keys_of_settle hmem with hmem | rfl
          · apply hkey hmem
          · apply hne rfl

mutual

theorem not_mem_keys_run (m : Memo V) (step : MemoStep V) (hflight : key ∈ m.inFlight)
    (hkey : key ∉ m.keys) :
  key ∉ (run m step).after.keys
  := by
  cases step with
  | compute other value keep fault inner =>
      obtain ⟨stored, hget, henter⟩ | ⟨-, -, henter⟩ | ⟨-, hother, henter⟩ :=
        Memo.enter_cases m other
      · rw [run, henter]
        intro hmem
        have hstored := List.mem_map_of_mem (f := (·.1)) (Memo.mem_entries_of_get? hget)
        apply hkey (Memo.keys_touch_subset hstored hmem)
      · rw [run, henter]
        apply hkey
      · -- Another key leads: this one is in flight already.
        have hne : key ≠ other := by
          rintro rfl
          apply hother hflight
        rw [run_compute_of_lead henter]
        apply not_mem_keys_conclude hne
        apply not_mem_keys_runAll (m.missed other) inner (List.mem_cons_of_mem _ hflight) hkey
  | get other => apply hkey
  | contains other => apply hkey
  | clear => apply List.not_mem_nil

theorem not_mem_keys_runAll (m : Memo V) (steps : List (MemoStep V)) (hflight : key ∈ m.inFlight)
    (hkey : key ∉ m.keys) :
  key ∉ (lastOf m (runAll m steps)).keys
  := by
  cases steps with
  | nil => apply hkey
  | cons step rest =>
      rw [runAll, lastOf_cons]
      apply not_mem_keys_runAll _ rest _ (not_mem_keys_run m step hflight hkey)
      rw [inFlight_run]
      apply hflight

end

/-! ### What a failing computation leaves -/

section Failing

variable (hget : m.get? key = none) (hkey : key ∉ m.inFlight)
include hget hkey

/-- The failure is handed on, and the memo is as the steps inside of the computation left it, with
the key taken back. -/
theorem run_compute_of_fault (value : V) (keep : Bool) (text : String) (inner : List (MemoStep V)) :
  run m (.compute key value keep (some text) inner)
    = .computed true (.error (.computation text)) (runAll (m.missed key) inner)
      { lastOf (m.missed key) (runAll (m.missed key) inner) with inFlight := m.inFlight }
  := by
  have henter : m.enter key = (.lead, m.missed key) := Memo.enter_of_get?_eq_none hget hkey
  have hflight : (lastOf (m.missed key) (runAll (m.missed key) inner)).inFlight
      = key :: m.inFlight := inFlight_runAll (m.missed key) inner
  rw [run_compute_of_lead henter, conclude, Memo.release, hflight, List.erase_cons_head]

/-- The next request for the key leads. -/
theorem enter_after_fault (value : V) (keep : Bool) (text : String) (inner : List (MemoStep V)) :
  ∃ entered, (run m (.compute key value keep (some text) inner)).after.enter key = (.lead, entered)
  := by
  have hnew : key ∉ (lastOf (m.missed key) (runAll (m.missed key) inner)).keys :=
    not_mem_keys_runAll _ inner List.mem_cons_self (Memo.get?_eq_none_iff.mp hget)
  rw [run_compute_of_fault hget hkey]
  exact ⟨_, Memo.enter_of_get?_eq_none (Memo.get?_eq_none_iff.mpr hnew) hkey⟩

end Failing

/-! ### Keys in flight during a run -/

theorem inFlight_of_mem_runAll (hidle : m.inFlight = []) (steps : List (MemoStep V)) :
  ∀ report ∈ runAll m steps, report.after.inFlight = []
  := by
  induction steps generalizing m with
  | nil => nofun
  | cons step rest ih =>
      have hafter := (inFlight_run m step).trans hidle
      intro report hreport
      rcases List.mem_cons.mp hreport with rfl | hreport
      · apply hafter
      · apply ih hafter report hreport

/-- A computation of a key that is neither stored nor in flight, whatever steps are taken inside of
it, hands its failure on, leaves the memo as the request and those steps did, and the next request
for the key computes again.  At every place of a run from a new memo the keys in flight are those of
the computations under way, and none is left after a step that is not inside of a computation. -/
theorem failing_leaves_a_miss :
  (∀ (m : Memo V) (key : String), m.get? key = none → key ∉ m.inFlight →
    ∀ (value : V) (keep : Bool) (text : String) (inner : List (MemoStep V)),
      run m (.compute key value keep (some text) inner)
        = .computed true (.error (.computation text)) (runAll (m.missed key) inner)
          { lastOf (m.missed key) (runAll (m.missed key) inner) with inFlight := m.inFlight }
      ∧ ∀ (value' : V) (keep' : Bool) (fault' : Option String) (inner' : List (MemoStep V)),
        ∃ result reports after,
          run (run m (.compute key value keep (some text) inner)).after
            (.compute key value' keep' fault' inner') = .computed true result reports after)
  ∧ ∀ (n : Option Int) (m : Memo V), Memo.make? n = .ok m → ∀ steps : List (MemoStep V),
    (∀ p, Reaches m steps p → p.memo.inFlight = p.around)
      ∧ ∀ report ∈ runAll m steps, report.after.inFlight = []
  := by
  constructor
  · intro m key hget hkey value keep text inner
    use run_compute_of_fault hget hkey value keep text inner
    intro value' keep' fault' inner'
    obtain ⟨entered, henter⟩ := enter_after_fault hget hkey value keep text inner
    exact ⟨_, _, _, run_compute_of_lead henter value' keep' fault' inner'⟩
  · intro n m hm steps
    have hidle := (Memo.of_make? hm).2
    constructor
    · intro p hp
      rw [hp.inFlight_eq, hidle, List.append_nil]
    · apply inFlight_of_mem_runAll hidle

/-- Inside of the computation of `a`, `b` is found, `a` is asked for again, and `c` fails after `d`
was stored. -/
def failing : List (MemoStep Nat) :=
  [.compute "b" 0 true none [], .compute "a" 1 true none [],
    .compute "c" 2 true (some "no c") [.compute "d" 3 true none [], .get "a"]]

theorem failing_leaves_a_miss_nested :
  (⟨some 2, [("b", 7), ("e", 8)], ["z"], 3, 4⟩ : Memo Nat).get? "a" = none ∧ "a" ∉ ["z"]
    ∧ (run (⟨some 2, [("b", 7), ("e", 8)], ["z"], 3, 4⟩ : Memo Nat)
        (.compute "a" 0 true (some "no a") failing)).after
      = ⟨some 2, [("b", 7), ("d", 3)], ["z"], 4, 7⟩
    ∧ (∃ result reports after, run (⟨some 2, [("b", 7), ("d", 3)], ["z"], 4, 7⟩ : Memo Nat)
        (.compute "a" 5 true none []) = .computed true result reports after)
    ∧ Memo.make? none = .ok (.empty none : Memo Nat)
    ∧ (∃ p, Reaches (.empty none : Memo Nat) [.compute "a" 0 true (some "no a") failing] p
      ∧ p.next = [.get "a"] ∧ p.memo.inFlight = ["c", "a"] ∧ p.around = ["c", "a"])
  := by
  obtain ⟨hfault, hnext⟩ := (failing_leaves_a_miss (V := Nat)).1
    ⟨some 2, [("b", 7), ("e", 8)], ["z"], 3, 4⟩ "a" rfl (by decide) 0 true "no a" failing
  have hinside : Reaches (.empty none : Memo Nat) [.compute "a" 0 true (some "no a") failing] _ :=
    .inside rfl (.later (.later (.inside rfl (.later .here))))
  have hflight := ((failing_leaves_a_miss (V := Nat)).2 none _ rfl _).1 _ hinside
  refine ⟨rfl, by decide, ?_, ?_, rfl, _, hinside, rfl, hflight, rfl⟩
  · rw [hfault]
    rfl
  · rw [hfault] at hnext
    apply hnext

end MemoStep

end CommitPolicy
