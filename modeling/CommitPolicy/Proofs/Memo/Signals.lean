import CommitPolicy.Proofs.Memo.SingleFlight

/-!
# Events are set once

A leader gets a new event when it starts to lead, and nobody else sets it.  So the event of a key in
flight has not been set, and a caller that starts to wait waits for an event that comes.
-/

namespace CommitPolicy.SharedMemo

variable {V : Type} {asks : Nat → Request V → Prop} {m : Memo V} {s t : SharedMemo V}
  {caller event : Nat} {r : Request V} {p : Phase V}

/-- An event that a caller has to set was made and has not been set, no other event was set before
it was made, and no event has to be set by two callers. -/
structure Owed (s : SharedMemo V) : Prop where
  unset : ∀ c key event, (s.phase c).owes? = some (key, event) →
    event < s.events ∧ s.isSet event = false
  made : ∀ event, s.isSet event = true → event < s.events
  unique : ∀ c c' key key' event, (s.phase c).owes? = some (key, event) →
    (s.phase c').owes? = some (key', event) → c = c'

theorem Owed.start (m : Memo V) :
  (start m).Owed
  := by
  constructor
  · rintro c key event ⟨⟩
  · rintro event ⟨⟩
  · rintro c c' key key' event ⟨⟩

/-- A step to a phase in which the caller owes at most the event that it owed. -/
theorem Owed.move (h : s.Owed) (hset : t.isSet = s.isSet) (hevents : t.events = s.events)
    (hphase : t.phase = Function.update s.phase caller p)
    (howes : ∀ x, p.owes? = some x → (s.phase caller).owes? = some x) :
  t.Owed
  := by
  have hof : ∀ c x, (t.phase c).owes? = some x → (s.phase c).owes? = some x := by
    intro c x hx
    rw [hphase, Function.update_apply] at hx
    split at hx
    · next hc =>
      rw [hc]
      apply howes x hx
    · apply hx
  constructor
  · intro c key event hc
    rw [hset, hevents]
    apply h.unset c key event (hof c _ hc)
  · rw [hset, hevents]
    apply h.made
  · intro c c' key key' event hc hc'
    apply h.unique c c' key key' event (hof c _ hc) (hof c' _ hc')

/-- A caller starts to lead under a new event. -/
theorem Owed.lead (h : s.Owed) (caller : Nat) (r : Request V) (m : Memo V) :
  (s.letIn caller r (.lead, m)).Owed
  := by
  have hcases : ∀ c x, ((s.letIn caller r (.lead, m)).phase c).owes? = some x →
      (c = caller ∧ x.2 = s.events) ∨ (s.phase c).owes? = some x := by
    intro c x hx
    by_cases hc : c = caller
    · subst hc
      rw [phase_lead] at hx
      obtain rfl := Option.some.inj hx
      apply Or.inl ⟨rfl, rfl⟩
    · rw [phase_letIn_of_ne _ hc] at hx
      apply Or.inr hx
  -- The new event is none of the old ones.
  have hnew : ∀ c key, (s.phase c).owes? ≠ some (key, s.events) := by
    intro c key hc
    apply Nat.lt_irrefl _ (h.unset c key _ hc).1
  constructor
  · intro c key event hc
    rcases hcases c _ hc with ⟨-, heq⟩ | hc
    · obtain rfl : event = s.events := heq
      use Nat.lt_succ_self _
      apply Bool.eq_false_iff.mpr
      intro hset
      apply Nat.lt_irrefl _ (h.made _ hset)
    · use Nat.lt_succ_of_lt (h.unset c key event hc).1
      apply (h.unset c key event hc).2
  · intro event hevent
    apply Nat.lt_succ_of_lt (h.made event hevent)
  · intro c c' key key' event hc hc'
    rcases hcases c _ hc with ⟨rfl, heq⟩ | hc
    · obtain rfl : event = s.events := heq
      rcases hcases c' _ hc' with ⟨rfl, -⟩ | hc'
      · rfl
      · cases hnew c' key' hc'
    · rcases hcases c' _ hc' with ⟨-, heq⟩ | hc'
      · obtain rfl : event = s.events := heq
        cases hnew c key hc
      · apply h.unique c c' key key' event hc hc'

/-- The caller sets the event that it owes. -/
theorem Owed.signal {result : Except Failure V} (h : s.Owed)
    (hphase : s.phase caller = .ending r event result) :
  (s.signal caller r event result).Owed
  := by
  have hcaller : (s.phase caller).owes? = some (r.key, event) := by
    rw [hphase]
    rfl
  have hof : ∀ c x, ((s.signal caller r event result).phase c).owes? = some x →
      c ≠ caller ∧ (s.phase c).owes? = some x := by
    intro c x hx
    apply of_view_update rfl hx
  constructor
  · intro c key event' hc
    obtain ⟨hne, howes⟩ := hof c _ hc
    use (h.unset c key event' howes).1
    have hother : event' ≠ event := by
      rintro rfl
      apply hne (h.unique c caller key r.key event' howes hcaller)
    apply (Function.update_of_ne hother ..).trans (h.unset c key event' howes).2
  · intro event' hevent
    by_cases heq : event' = event
    · rw [heq]
      apply (h.unset caller r.key event hcaller).1
    · apply h.made event'
      rw [← hevent]
      exact (Function.update_of_ne heq ..).symm
  · intro c c' key key' event' hc hc'
    apply h.unique c c' key key' event' (hof c _ hc).2 (hof c' _ hc').2

theorem Step.owed (h : Step asks s t) (hs : s.Owed) :
  t.Owed
  := by
  cases h with
  | @turn caller p hturn =>
      refine hs.move rfl rfl rfl ?_
      rw [hturn.owes?_eq_none.2]
      rintro x ⟨⟩
  | @enter caller r hphase =>
      obtain ⟨value, -, henter⟩ | ⟨-, -, henter⟩ | ⟨-, -, henter⟩ := Memo.enter_cases s.memo r.key
      · rw [henter]
        refine hs.move rfl rfl rfl ?_
        rintro x ⟨⟩
      · rw [henter]
        refine hs.move rfl rfl rfl ?_
        rintro x ⟨⟩
      · rw [henter]
        apply hs.lead
  | giveBack hphase hends =>
      refine hs.move rfl rfl rfl ?_
      rw [hphase]
      intro x hx
      apply hx
  | signal hphase => apply hs.signal hphase
  | clear => exact ⟨hs.unset, hs.made, hs.unique⟩

/-- The event of a key in flight has not been set. -/
theorem Owed.isSet_eventOf (h : s.Owed) (hled : s.Led) {key : String}
    (hkey : key ∈ s.memo.inFlight) :
  s.isSet (s.eventOf key) = false
  := by
  obtain ⟨c, hc⟩ := hled.exists_leader key hkey
  apply (h.unset c key _ (Phase.owes?_of_leads? hc)).2

end CommitPolicy.SharedMemo
