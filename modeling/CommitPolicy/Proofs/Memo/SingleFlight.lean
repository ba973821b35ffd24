import CommitPolicy.Proofs.Memo.Shared

/-!
# Each value is computed by one caller at a time

The invariant of callers that share a memo, `SharedMemo.Sound`, in parts: the memo is consistent,
the keys in flight are those that a caller leads, every event that is waited for is owed by a leader
until it is set, and every stored or received value was computed by a leader.  Each part is shown to
be kept by every step, so it holds in every state that callers come to.
-/

namespace CommitPolicy.SharedMemo

variable {V : Type} {asks : Nat → Request V → Prop} {m : Memo V} {s t : SharedMemo V}
  {caller event : Nat} {r : Request V} {p : Phase V}

/-! ### The memo -/

theorem Ends.consistent {result : Except Failure V} {m' : Memo V} (h : Ends m r result m')
    (hm : m.Consistent) :
  m'.Consistent ∧ m'.maxSize = m.maxSize
  := by
  cases h with
  | @store value => use hm.settle r.key value; rfl
  | pass => use hm.release r.key; rfl
  | fail => use hm.release r.key; rfl

theorem Step.consistent (h : Step asks s t) (hs : s.memo.Consistent) :
  t.memo.Consistent ∧ t.memo.maxSize = s.memo.maxSize
  := by
  cases h with
  | turn => use hs; rfl
  | @enter caller r =>
      rw [memo_letIn]
      use hs.enter r.key
      apply Memo.maxSize_enter
  | giveBack _ hends => apply hends.consistent hs
  | signal => use hs; rfl
  | clear => use hs.clear; rfl

/-! ### Leaders and the keys in flight -/

/-- The keys in flight are those that a caller leads, each one under its event, and no key is led by
two callers. -/
structure Led (s : SharedMemo V) : Prop where
  mem : ∀ c key event, (s.phase c).leads? = some (key, event) →
    key ∈ s.memo.inFlight ∧ event = s.eventOf key
  exists_leader : ∀ key ∈ s.memo.inFlight, ∃ c, (s.phase c).leads? = some (key, s.eventOf key)
  unique : ∀ c c' key event event', (s.phase c).leads? = some (key, event) →
    (s.phase c').leads? = some (key, event') → c = c'

theorem Led.start (hm : m.inFlight = []) :
  (start m).Led
  := by
  constructor
  · rintro c key event ⟨⟩
  · intro key hkey
    change key ∈ m.inFlight at hkey
    rw [hm] at hkey
    cases hkey
  · rintro c c' key event event' ⟨⟩

/-- A step between phases in which the caller does not lead. -/
theorem Led.move (h : s.Led) (hflight : t.memo.inFlight = s.memo.inFlight)
    (hevent : t.eventOf = s.eventOf) (hphase : t.phase = Function.update s.phase caller p)
    (hold : (s.phase caller).leads? = none) (hnew : p.leads? = none) :
  t.Led
  := by
  have hof : ∀ c x, (t.phase c).leads? = some x → (s.phase c).leads? = some x := by
    intro c x hx
    rw [hphase] at hx
    apply (of_view_update hnew hx).2
  constructor
  · intro c key event hc
    rw [hflight, hevent]
    apply h.mem c key event (hof c _ hc)
  · intro key hkey
    rw [hflight] at hkey
    obtain ⟨c, hc⟩ := h.exists_leader key hkey
    use c
    rw [hphase, hevent]
    apply view_update_of_view _ hc
    rw [hold]
    rintro x ⟨⟩
  · intro c c' key event event' hc hc'
    apply h.unique c c' key event event' (hof c _ hc) (hof c' _ hc')

theorem leads?_lead {c : Nat} {x : String × Nat} :
  ((s.letIn caller r (.lead, m)).phase c).leads? = some x
    ↔ (c = caller ∧ x = (r.key, s.events)) ∨ (c ≠ caller ∧ (s.phase c).leads? = some x)
  := by
  by_cases hc : c = caller
  · subst hc
    simp [phase_lead, Phase.leads?, eq_comm]
  · simp [phase_letIn_of_ne _ hc, hc]

theorem leads?_giveBack {c : Nat} {x : String × Nat} {result : Except Failure V} :
  ((s.giveBack caller r event result m).phase c).leads? = some x
    ↔ c ≠ caller ∧ (s.phase c).leads? = some x
  := by
  by_cases hc : c = caller
  · subst hc
    have hself : (s.giveBack c r event result m).phase c = .ending r event result :=
      Function.update_self ..
    simp [hself, Phase.leads?]
  · have hother : (s.giveBack caller r event result m).phase c = s.phase c :=
      Function.update_of_ne hc ..
    simp [hother, hc]

/-- A caller starts to lead a key which was not in flight. -/
theorem Led.lead (h : s.Led) (hkey : r.key ∉ s.memo.inFlight)
    (hold : (s.phase caller).leads? = none) (hm : m.inFlight = r.key :: s.memo.inFlight) :
  (s.letIn caller r (.lead, m)).Led
  := by
  have hevent : (s.letIn caller r (.lead, m)).eventOf
      = Function.update s.eventOf r.key s.events := rfl
  -- Whoever led before leads a key that was in flight, so not this one.
  have hne : ∀ c key event, (s.phase c).leads? = some (key, event) → key ≠ r.key := by
    rintro c _ event hc rfl
    apply hkey (h.mem c _ event hc).1
  constructor
  · intro c key event hc
    rw [memo_letIn, hm, hevent]
    rcases leads?_lead.mp hc with ⟨-, heq⟩ | ⟨-, hc⟩
    · obtain ⟨rfl, rfl⟩ := Prod.mk.inj heq
      simp
    · rw [Function.update_of_ne (hne c key event hc)]
      use List.mem_cons_of_mem _ (h.mem c key event hc).1
      apply (h.mem c key event hc).2
  · intro key hmem
    rw [memo_letIn, hm] at hmem
    rw [hevent]
    rcases List.mem_cons.mp hmem with rfl | hmem
    · use caller
      rw [Function.update_self]
      apply leads?_lead.mpr (Or.inl ⟨rfl, rfl⟩)
    · obtain ⟨c, hc⟩ := h.exists_leader key hmem
      use c
      rw [Function.update_of_ne (hne c key _ hc)]
      refine leads?_lead.mpr (Or.inr ⟨?_, hc⟩)
      rintro rfl
      rw [hold] at hc
      cases hc
  · intro c c' key event event' hc hc'
    rcases leads?_lead.mp hc with ⟨rfl, heq⟩ | ⟨-, hc⟩
    · rcases leads?_lead.mp hc' with ⟨rfl, -⟩ | ⟨-, hc'⟩
      · rfl
      · cases hne c' key event' hc' (Prod.mk.inj heq).1
    · rcases leads?_lead.mp hc' with ⟨-, heq⟩ | ⟨-, hc'⟩
      · cases hne c key event hc (Prod.mk.inj heq).1
      · apply h.unique c c' key event event' hc hc'

/-- A caller gives back the key that it leads. -/
theorem Led.giveBack (h : s.Led) (hnodup : s.memo.inFlight.Nodup)
    (hphase : s.phase caller = .computing r event) (result : Except Failure V)
    (hm : m.inFlight = s.memo.inFlight.erase r.key) :
  (s.giveBack caller r event result m).Led
  := by
  have hcaller : (s.phase caller).leads? = some (r.key, event) := by
    rw [hphase]
    rfl
  have hmem : ∀ key, key ∈ (s.giveBack caller r event result m).memo.inFlight
      ↔ key ≠ r.key ∧ key ∈ s.memo.inFlight := by
    intro key
    change key ∈ m.inFlight ↔ _
    rw [hm]
    apply hnodup.mem_erase_iff
  constructor
  · intro c key event' hc
    obtain ⟨hne, hc⟩ := leads?_giveBack.mp hc
    refine ⟨(hmem key).mpr ⟨?_, (h.mem c key event' hc).1⟩, (h.mem c key event' hc).2⟩
    rintro rfl
    apply hne (h.unique c caller _ _ _ hc hcaller)
  · intro key hkey
    obtain ⟨hne, hkey⟩ := (hmem key).mp hkey
    obtain ⟨c, hc⟩ := h.exists_leader key hkey
    use c
    apply leads?_giveBack.mpr ⟨?_, hc⟩
    rintro rfl
    rw [hcaller] at hc
    apply hne (Prod.mk.inj (Option.some.inj hc)).1.symm
  · intro c c' key event event' hc hc'
    apply h.unique c c' key event event' (leads?_giveBack.mp hc).2 (leads?_giveBack.mp hc').2

theorem Step.led (h : Step asks s t) (hmemo : s.memo.Consistent) (hs : s.Led) :
  t.Led
  := by
  cases h with
  | @turn caller p hturn =>
      obtain ⟨hold, hnew⟩ := hturn.owes?_eq_none
      exact hs.move rfl rfl rfl (leads?_eq_none hold) (leads?_eq_none hnew)
  | @enter caller r hphase =>
      have hold : (s.phase caller).leads? = none := by rw [hphase]; rfl
      obtain ⟨value, -, henter⟩ | ⟨-, -, henter⟩ | ⟨-, hkey, henter⟩ :=
        Memo.enter_cases s.memo r.key
      · rw [henter]
        exact hs.move rfl rfl rfl hold rfl
      · rw [henter]
        exact hs.move rfl rfl rfl hold rfl
      · rw [henter]
        apply hs.lead hkey hold rfl
  | giveBack hphase hends => apply hs.giveBack hmemo.nodup hphase _ hends.inFlight_eq
  | signal hphase =>
      refine hs.move rfl rfl rfl ?_ rfl
      rw [hphase]
      rfl
  | clear => exact ⟨hs.mem, hs.exists_leader, hs.unique⟩

/-! ### Events -/

/-- An event that is waited for and has not been set is one that a leader of the key has yet to
set. -/
def Awaited (s : SharedMemo V) : Prop :=
  ∀ c key event, (s.phase c).awaits? = some (key, event) → s.isSet event = false →
    ∃ leader, (s.phase leader).owes? = some (key, event)

/-- A step to a phase in which the caller does not wait, and owes the event that it owed. -/
theorem Awaited.move (h : s.Awaited) (hset : t.isSet = s.isSet)
    (hphase : t.phase = Function.update s.phase caller p) (hawaits : p.awaits? = none)
    (howes : ∀ x, (s.phase caller).owes? = some x → p.owes? = some x) :
  t.Awaited
  := by
  intro c key event hc hevent
  rw [hphase] at hc
  rw [hset] at hevent
  obtain ⟨leader, hleader⟩ := h c key event (of_view_update hawaits hc).2 hevent
  use leader
  rw [hphase]
  apply view_update_of_view howes hleader

/-- A step to a phase in which the caller waits for the event of a key in flight. -/
theorem Awaited.wait (h : s.Awaited) (hled : s.Led) (hphase : s.phase caller = .entering r)
    (hkey : r.key ∈ s.memo.inFlight) :
  (s.letIn caller r (.wait, s.memo)).Awaited
  := by
  have hstays : ∀ c x, (s.phase c).owes? = some x →
      ((s.letIn caller r (.wait, s.memo)).phase c).owes? = some x := by
    intro c x hx
    apply view_update_of_view _ hx
    rw [hphase]
    rintro y ⟨⟩
  intro c key event hc hevent
  by_cases hcaller : c = caller
  · subst hcaller
    have hself : (s.letIn c r (.wait, s.memo)).phase c = .waiting r (s.eventOf r.key) :=
      Function.update_self ..
    rw [hself] at hc
    obtain ⟨rfl, rfl⟩ := Prod.mk.inj (Option.some.inj hc)
    obtain ⟨leader, hleader⟩ := hled.exists_leader r.key hkey
    use leader
    apply hstays leader _ (Phase.owes?_of_leads? hleader)
  · rw [phase_letIn_of_ne _ hcaller] at hc
    obtain ⟨leader, hleader⟩ := h c key event hc hevent
    use leader
    apply hstays leader _ hleader

/-- The caller sets the event that it owes. -/
theorem Awaited.signal {result : Except Failure V} (h : s.Awaited)
    (hphase : s.phase caller = .ending r event result) :
  (s.signal caller r event result).Awaited
  := by
  intro c key event' hc hevent
  have hne : event' ≠ event := by
    rintro rfl
    have hself : (s.signal caller r event' result).isSet event' = true := Function.update_self ..
    rw [hself] at hevent
    cases hevent
  have hbefore : (s.signal caller r event result).isSet event' = s.isSet event' :=
    Function.update_of_ne hne ..
  rw [hbefore] at hevent
  have hawaits : (Phase.answered r true result).awaits? = none := rfl
  obtain ⟨leader, hleader⟩ := h c key event' (of_view_update hawaits hc).2 hevent
  use leader
  have hother : (s.signal caller r event result).phase leader = s.phase leader := by
    apply Function.update_of_ne
    rintro rfl
    rw [hphase] at hleader
    apply hne (Prod.mk.inj (Option.some.inj hleader)).2.symm
  rw [hother]
  apply hleader

theorem Step.awaited (h : Step asks s t) (hled : s.Led) (hs : s.Awaited) :
  t.Awaited
  := by
  cases h with
  | @turn caller p hturn =>
      refine hs.move rfl rfl hturn.awaits?_eq_none ?_
      rw [hturn.owes?_eq_none.1]
      rintro x ⟨⟩
  | @enter caller r hphase =>
      have howes : ∀ q x, (s.phase caller).owes? = some x → Phase.owes? (V := V) q = some x := by
        rw [hphase]
        rintro q x ⟨⟩
      obtain ⟨value, -, henter⟩ | ⟨-, hkey, henter⟩ | ⟨-, -, henter⟩ :=
        Memo.enter_cases s.memo r.key
      · rw [henter]
        exact hs.move rfl rfl rfl (howes _)
      · rw [henter]
        apply hs.wait hled hphase hkey
      · rw [henter]
        exact hs.move rfl rfl rfl (howes _)
  | giveBack hphase hends =>
      refine hs.move rfl rfl rfl ?_
      rw [hphase]
      intro x hx
      apply hx
  | signal hphase => apply hs.signal hphase
  | clear => apply hs

/-! ### Values -/

/-- A leader has computed a value for the key, and its request is one whose values are stored. -/
def WasStored (s : SharedMemo V) (key : String) (value : V) : Prop :=
  ∃ leader r, (s.phase leader).computed? = some (r, value) ∧ r.key = key ∧ r.keeps value = true

/-- What a caller has computed stays known. -/
theorem Step.computed?_of (h : Step asks s t) {c : Nat} {x : Request V × V}
    (hc : (s.phase c).computed? = some x) :
  (t.phase c).computed? = some x
  := by
  cases h with
  | @turn caller p hturn =>
      apply view_update_of_view _ hc
      rw [hturn.computed?_eq_none.1]
      rintro y ⟨⟩
  | enter hphase =>
      rw [phase_letIn_of_ne]
      · apply hc
      · rintro rfl
        rw [hphase] at hc
        cases hc
  | giveBack hphase hends =>
      apply view_update_of_view _ hc
      rw [hphase]
      rintro y ⟨⟩
  | @signal caller event r result hphase =>
      apply view_update_of_view _ hc
      rw [hphase]
      intro y hy
      cases result with
      | error e => cases hy
      | ok value => apply hy
  | clear => apply hc

theorem Step.wasStored (h : Step asks s t) {key : String} {value : V} (hs : s.WasStored key value) :
  t.WasStored key value
  := by
  obtain ⟨leader, r, hleader, hr⟩ := hs
  use leader, r, h.computed?_of hleader

/-- Callers make requests that they can make, get values that their computations can give, and every
value that is in the memo or that was received from it was stored by a leader. -/
structure Recorded (asks : Nat → Request V → Prop) (s : SharedMemo V) : Prop where
  asked : ∀ c r, (s.phase c).request? = some r → asks c r
  given : ∀ c r value, (s.phase c).computed? = some (r, value) → r.gives value
  entries : s.memo.Holds s.WasStored
  received : ∀ c key value, (s.phase c).received? = some (key, value) → s.WasStored key value

/-- A caller goes on to a phase `p` whose views are accounted for. -/
theorem Recorded.move (h : s.Recorded asks) (hstep : Step asks s t)
    (hphase : t.phase = Function.update s.phase caller p)
    (hasked : ∀ r, p.request? = some r → asks caller r)
    (hgiven : ∀ r value, p.computed? = some (r, value) → r.gives value)
    (hreceived : ∀ key value, p.received? = some (key, value) → s.WasStored key value)
    (hentries : t.memo.Holds t.WasStored) :
  t.Recorded asks
  := by
  have hcases : ∀ c, t.phase c = s.phase c ∨ (c = caller ∧ t.phase c = p) := by
    intro c
    rw [hphase, Function.update_apply]
    split
    · next hc => apply Or.inr ⟨hc, rfl⟩
    · apply Or.inl rfl
  constructor
  · intro c r hc
    rcases hcases c with heq | ⟨rfl, heq⟩
    · rw [heq] at hc
      apply h.asked c r hc
    · rw [heq] at hc
      apply hasked r hc
  · intro c r value hc
    rcases hcases c with heq | ⟨rfl, heq⟩
    · rw [heq] at hc
      apply h.given c r value hc
    · rw [heq] at hc
      apply hgiven r value hc
  · apply hentries
  · intro c key value hc
    apply hstep.wasStored
    rcases hcases c with heq | ⟨rfl, heq⟩
    · rw [heq] at hc
      apply h.received c key value hc
    · rw [heq] at hc
      apply hreceived key value hc

theorem Ends.gives {value : V} {m' : Memo V} (h : Ends m r (.ok value) m') :
  r.gives value
  := by
  cases h with
  | store hgives => apply hgives
  | pass hgives => apply hgives

/-- If a property holds of what is stored, it still holds after the end of a computation. -/
theorem Ends.holds {P : String → V → Prop} {result : Except Failure V} {m' : Memo V}
    (h : Ends m r result m') (hm : m.Holds P)
    (hvalue : ∀ value, result = .ok value → r.keeps value = true → P r.key value) :
  m'.Holds P
  := by
  cases h with
  | @store value hgives hkeeps => apply hm.settle (hvalue value rfl hkeeps)
  | pass => apply hm.release
  | fail => apply hm.release

theorem Recorded.giveBack {result : Except Failure V} (h : s.Recorded asks)
    (hphase : s.phase caller = .computing r event) (hends : Ends s.memo r result m) :
  (s.giveBack caller r event result m).Recorded asks
  := by
  have hstep : Step asks s (s.giveBack caller r event result m) := .giveBack hphase hends
  have hself : (s.giveBack caller r event result m).phase caller = .ending r event result :=
    Function.update_self ..
  refine h.move hstep rfl ?_ ?_ ?_ ?_
  · rintro _ ⟨⟩
    apply h.asked caller
    rw [hphase]
    rfl
  · intro r' value hvalue
    cases result with
    | error e => cases hvalue
    | ok v =>
        cases hvalue
        apply hends.gives
  · rintro key value ⟨⟩
  · apply hends.holds (h.entries.imp fun _ _ => hstep.wasStored)
    rintro value rfl hkeeps
    use caller, r
    rw [hself]
    use rfl, rfl, hkeeps

theorem Recorded.enter (h : s.Recorded asks) (hphase : s.phase caller = .entering r) :
  (s.letIn caller r (s.memo.enter r.key)).Recorded asks
  := by
  have hstep : Step asks s (s.letIn caller r (s.memo.enter r.key)) := .enter hphase
  have hasked : asks caller r := by
    apply h.asked caller
    rw [hphase]
    rfl
  have hentries : (s.letIn caller r (s.memo.enter r.key)).memo.Holds
      (s.letIn caller r (s.memo.enter r.key)).WasStored := by
    rw [memo_letIn]
    apply Memo.Holds.enter
    apply h.entries.imp fun _ _ => hstep.wasStored
  obtain ⟨p, hp, hrequest, hcomputed, -, hreceived⟩ := exists_phase_enter s caller r
  refine h.move hstep hp ?_ ?_ ?_ hentries
  · rw [hrequest]
    rintro _ ⟨⟩
    apply hasked
  · rw [hcomputed]
    rintro _ _ ⟨⟩
  · intro key value hvalue
    apply h.entries.of_get? (hreceived key value hvalue)

theorem Step.recorded (h : Step asks s t) (hs : s.Recorded asks) :
  t.Recorded asks
  := by
  have hentries : s.memo.Holds t.WasStored := hs.entries.imp fun _ _ => h.wasStored
  cases h with
  | @turn caller p hturn =>
      refine hs.move (.turn hturn) rfl ?_ ?_ ?_ hentries
      · intro r hr
        apply (hturn.asks_or_request? hr).elim id (hs.asked caller r)
      · rw [hturn.computed?_eq_none.2]
        rintro _ _ ⟨⟩
      · intro key value hvalue
        apply hs.entries.of_get? (hturn.get?_eq_some hvalue)
  | enter hphase => apply hs.enter hphase
  | giveBack hphase hends => apply hs.giveBack hphase hends
  | @signal caller event r result hphase =>
      refine hs.move (.signal hphase) rfl ?_ ?_ ?_ hentries
      · rintro _ ⟨⟩
        apply hs.asked caller
        rw [hphase]
        rfl
      · intro r' value hvalue
        apply hs.given caller
        rw [hphase]
        cases result with
        | error e => cases hvalue
        | ok v => apply hvalue
      · rintro _ _ ⟨⟩
  | clear => exact ⟨hs.asked, hs.given, Memo.Holds.clear _, hs.received⟩

/-! ### The invariant -/

/-- What holds of a memo and its callers in every state that they come to. -/
structure Sound (asks : Nat → Request V → Prop) (s : SharedMemo V) : Prop where
  consistent : s.memo.Consistent
  led : s.Led
  awaited : s.Awaited
  recorded : s.Recorded asks

theorem Step.sound (h : Step asks s t) (hs : s.Sound asks) :
  t.Sound asks
  := by
  constructor
  · apply (h.consistent hs.consistent).1
  · apply h.led hs.consistent hs.led
  · apply h.awaited hs.led hs.awaited
  · apply h.recorded hs.recorded

theorem Sound.start {maxSize : Option Int} (hm : Memo.make? maxSize = .ok m) :
  (start m).Sound asks
  := by
  obtain ⟨hentries, hflight⟩ := Memo.of_make? hm
  constructor
  · apply Memo.Consistent.of_make? hm
  · apply Led.start hflight
  · rintro c key event ⟨⟩
  · constructor
    · rintro c r ⟨⟩
    · rintro c r value ⟨⟩
    · intro e he
      change e ∈ m.entries at he
      rw [hentries] at he
      cases he
    · rintro c key value ⟨⟩

theorem Reachable.sound {maxSize : Option Int} (hm : Memo.make? maxSize = .ok m)
    (h : Reachable asks m s) :
  s.Sound asks ∧ s.memo.maxSize = m.maxSize
  := by
  induction h with
  | refl => use Sound.start hm; rfl
  | tail _ hstep ih =>
      obtain ⟨hs, hsize⟩ := ih
      use hstep.sound hs
      rw [(hstep.consistent hs.consistent).2, hsize]

theorem exists_of_leads? {key : String} (h : p.leads? = some (key, event)) :
  ∃ r, p = .computing r event ∧ r.key = key
  := by
  cases p with
  | computing r e =>
      cases h
      use r
  | _ => cases h

theorem exists_of_owes? {key : String} (h : p.owes? = some (key, event)) :
  ∃ r, r.key = key ∧ (p = .computing r event ∨ ∃ result, p = .ending r event result)
  := by
  cases p with
  | computing r e =>
      cases h
      use r, rfl
      apply Or.inl rfl
  | ending r e result =>
      cases h
      use r, rfl
      apply Or.inr ⟨result, rfl⟩
  | _ => cases h

/-- In every state that callers of a memo come to,

* the keys in flight are those that a caller computes the value of, and each one has one such
  caller;
* no key in flight is stored, and no more entries are stored than the memo can hold;
* a value that a caller was given without computing it was computed for its key by a leader that
  stores its values;
* an event that is waited for, if it is not set, is one that a leader of the key has yet to set. -/
theorem single_flight {maxSize : Option Int} (hm : Memo.make? maxSize = .ok m)
    (hs : Reachable asks m s) :
  (∀ key, key ∈ s.memo.inFlight ↔ ∃ c r event, s.phase c = .computing r event ∧ r.key = key)
    ∧ (∀ c c' r r' event event', s.phase c = .computing r event →
      s.phase c' = .computing r' event' → r.key = r'.key → c = c')
    ∧ (∀ key ∈ s.memo.inFlight, key ∉ s.memo.keys)
    ∧ (∀ n, maxSize = some n → s.memo.entries.length ≤ n)
    ∧ (∀ c key value, (s.phase c).received? = some (key, value) →
      ∃ leader r, (s.phase leader).computed? = some (r, value) ∧ r.key = key
        ∧ r.gives value ∧ r.keeps value = true)
    ∧ ∀ c r event, s.phase c = .waiting r event → s.isSet event = false →
      ∃ leader r', r'.key = r.key
        ∧ (s.phase leader = .computing r' event
          ∨ ∃ result, s.phase leader = .ending r' event result)
  := by
  obtain ⟨hsound, hsize⟩ := hs.sound hm
  refine ⟨?_, ?_, hsound.consistent.notStored, ?_, ?_, ?_⟩
  · intro key
    constructor
    · intro hkey
      obtain ⟨c, hc⟩ := hsound.led.exists_leader key hkey
      obtain ⟨r, hphase, hr⟩ := exists_of_leads? hc
      use c, r, s.eventOf key
    · rintro ⟨c, r, event, hphase, rfl⟩
      apply (hsound.led.mem c r.key event _).1
      rw [hphase]
      rfl
  · intro c c' r r' event event' hphase hphase' hkey
    apply hsound.led.unique c c' r.key event event'
    · rw [hphase]
      rfl
    · rw [hphase', hkey]
      rfl
  · rintro n rfl
    obtain ⟨hpos, hm'⟩ := Memo.maxSize_of_make? hm
    have := hsound.consistent.bounded n.toNat (hsize.trans hm')
    omega
  · intro c key value hc
    obtain ⟨leader, r, hleader, hkey, hkeeps⟩ := hsound.recorded.received c key value hc
    use leader, r, hleader, hkey, hsound.recorded.given leader r value hleader
  · intro c r event hphase hset
    have hawaits : (s.phase c).awaits? = some (r.key, event) := by
      rw [hphase]
      rfl
    obtain ⟨leader, hleader⟩ := hsound.awaited c r.key event hawaits hset
    use leader
    apply exists_of_owes? hleader

/-- A request that gives seven. -/
def ask : Request Nat := ⟨"k", (· = 7), fun _ => true, some 1⟩

/-- Caller `0` leads. -/
def leading : SharedMemo Nat :=
  ((start (.empty (some 1))).move 0 (.entering ask)).letIn 0 ask
    (.lead, ⟨some 1, [], ["k"], 0, 1⟩)

/-- Caller `0` has stored its value, and caller `1` waits for its event. -/
def notified : SharedMemo Nat :=
  ((leading.move 1 (.entering ask)).letIn 1 ask (.wait, leading.memo)).giveBack 0 ask 0 (.ok 7)
    ⟨some 1, [("k", 7)], [], 0, 1⟩

/-- Caller `2` has found the value before the event was set. -/
def overtaken : SharedMemo Nat :=
  (notified.move 2 (.entering ask)).letIn 2 ask (.hit 7, ⟨some 1, [("k", 7)], [], 1, 1⟩)

theorem reachable_overtaken :
  Reachable (fun _ r => r = ask) (.empty (some 1)) overtaken
  := by
  have hstart : Reachable (fun _ r => r = ask) (.empty (some 1)) (start (.empty (some 1))) := .refl
  have hleading : Reachable (fun _ r => r = ask) (.empty (some 1)) leading :=
    (hstart.tail (.turn (.call rfl rfl))).tail (.enter rfl)
  have hnotified : Reachable (fun _ r => r = ask) (.empty (some 1)) notified :=
    ((hleading.tail (.turn (.call rfl rfl))).tail (.enter rfl)).tail
      (.giveBack rfl (.store rfl rfl))
  exact (hnotified.tail (.turn (.call rfl rfl))).tail (.enter rfl)

theorem single_flight_overtaken :
  Memo.make? (some 1) = .ok (.empty (some 1) : Memo Nat)
    ∧ Reachable (fun _ r => r = ask) (.empty (some 1)) overtaken
    ∧ (∃ leader r, (overtaken.phase leader).computed? = some (r, 7) ∧ r.key = "k")
    ∧ ∃ leader r, r.key = "k"
      ∧ (overtaken.phase leader = .computing r 0
        ∨ ∃ result, overtaken.phase leader = .ending r 0 result)
  := by
  have hm : Memo.make? (some 1) = .ok (.empty (some 1) : Memo Nat) := rfl
  obtain ⟨-, -, -, -, hreceived, hawaited⟩ := single_flight hm reachable_overtaken
  obtain ⟨leader, r, hleader, hkey, -, -⟩ := hreceived 2 "k" 7 rfl
  use hm, reachable_overtaken, ⟨leader, r, hleader, hkey⟩
  apply hawaited 1 ask 0 rfl rfl

end CommitPolicy.SharedMemo
