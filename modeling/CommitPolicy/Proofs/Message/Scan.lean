import CommitPolicy.Proofs.Message.Ticket

/-!
# Looking for references from left to right

A form reads a reference at a place of a text.  `scan` goes through a text from left to right and
goes on behind each reference that it finds; `located` tries every place and keeps the positions.  If
no reference of a form starts inside another one, then

* both find the same, so the scan skips no reference;
* they find every reference that is there, in order of position, and no two of them overlap.

Of the references that are found, `firstOfEach` keeps those in front of which no other one has the
same identifier.
-/

namespace CommitPolicy.TicketRef

/-- The form reads a reference exactly where `shape` says that it stands between two texts, and it
reads none inside of a reference. -/
structure IsReader (form : Option Char → List Char → Option TicketRef)
    (shape : List Char → TicketRef → List Char → Prop) : Prop where
  eq_some_iff : ∀ before s r, form before.getLast? s = some r
    ↔ ∃ after, s = r.raw.toList ++ after ∧ shape before r after
  ne_nil : ∀ before r after, shape before r after → r.raw.toList ≠ []
  eq_none : ∀ before r after, shape before r after → ∀ front c back,
    r.raw.toList = front ++ c :: back → front ≠ [] →
      form (before ++ front).getLast? (c :: (back ++ after)) = none

/-- The list holds the references that stand in a text, with their positions, in order of position.
None of them overlaps the next one. -/
structure Lists (shape : List Char → TicketRef → List Char → Prop) (s : List Char)
    (found : List (Nat × TicketRef)) : Prop where
  apart : found.Pairwise fun p q => p.1 + p.2.raw.length ≤ q.1
  mem_iff : ∀ i r, (i, r) ∈ found
    ↔ ∃ before after, s = before ++ (r.raw.toList ++ after) ∧ before.length = i
      ∧ shape before r after

section Form

variable (form : Option Char → List Char → Option TicketRef)

/-- What `form` reads from left to right, where the first `skip` characters are still part of the
last reference that was read. -/
def scan (before : Option Char) (skip : Nat) : List Char → List TicketRef
  | [] => []
  | c :: rest =>
    match skip with
    | n + 1 => scan (some c) n rest
    | 0 =>
      match form before (c :: rest) with
      | some r => r :: scan (some c) (r.raw.length - 1) rest
      | none => scan (some c) 0 rest

/-- What `form` reads at the places of a text that stands behind `before`, with the positions. -/
def located (before : List Char) : List Char → List (Nat × TicketRef)
  | [] => []
  | c :: rest =>
    ((form before.getLast? (c :: rest)).map fun r => (before.length, r)).toList
      ++ located (before ++ [c]) rest

theorem map_snd_located (before s : List Char) :
  (located form before s).map Prod.snd = occurrences form before.getLast? s
  := by
  induction s generalizing before with
  | nil => rfl
  | cons c rest ih =>
      rw [located, occurrences, List.map_append, ih, List.getLast?_concat]
      cases form before.getLast? (c :: rest) with
      | none => rfl
      | some r => rfl

theorem mem_located {before s : List Char} {i : Nat} {r : TicketRef} :
  (i, r) ∈ located form before s
    ↔ ∃ front c back, s = front ++ c :: back ∧ i = before.length + front.length
      ∧ form (before ++ front).getLast? (c :: back) = some r
  := by
  induction s generalizing before with
  | nil => simp [located]
  | cons d rest ih =>
      rw [located, List.mem_append, ih]
      constructor
      · rintro (h | ⟨front, c, back, rfl, rfl, hform⟩)
        · obtain ⟨r', hform, heq⟩ := Option.map_eq_some_iff.mp (Option.mem_toList.mp h)
          obtain ⟨rfl, rfl⟩ := Prod.mk.inj heq
          use [], d, rest, rfl, rfl
          simpa using hform
        · use d :: front, c, back, rfl
          constructor
          · simp
            omega
          · simpa using hform
      · rintro ⟨front, c, back, hs, rfl, hform⟩
        cases front with
        | nil =>
            obtain ⟨rfl, rfl⟩ := List.cons.inj hs
            apply Or.inl
            rw [List.append_nil] at hform
            simp [hform]
        | cons e front =>
            obtain ⟨rfl, rfl⟩ := List.cons.inj hs
            apply Or.inr
            use front, c, back, rfl
            constructor
            · simp
              omega
            · simpa using hform

theorem pairwise_located (before s : List Char) :
  (located form before s).Pairwise fun p q => p.1 < q.1
  := by
  induction s generalizing before with
  | nil => apply List.Pairwise.nil
  | cons c rest ih =>
      rw [located]
      apply List.pairwise_append.mpr
      refine ⟨?_, ih _, ?_⟩
      · cases form before.getLast? (c :: rest) with
        | none => apply List.Pairwise.nil
        | some r => apply List.pairwise_singleton
      · rintro ⟨i, r⟩ hp ⟨j, r'⟩ hq
        obtain ⟨_, -, heq⟩ := Option.map_eq_some_iff.mp (Option.mem_toList.mp hp)
        obtain ⟨rfl, -⟩ := Prod.mk.inj heq
        obtain ⟨front, _, _, -, rfl, -⟩ := (mem_located form).mp hq
        simp
        omega

end Form

section IsReader

variable {form : Option Char → List Char → Option TicketRef}
  {shape : List Char → TicketRef → List Char → Prop} (h : IsReader form shape)
include h

theorem IsReader.eq_none_of_lt {before front back after : List Char} {c : Char} {r : TicketRef}
    (hshape : shape before r after) (heq : r.raw.toList ++ after = front ++ c :: back)
    (hne : front ≠ []) (hlt : front.length < r.raw.length) :
  form (before ++ front).getLast? (c :: back) = none
  := by
  rw [← String.length_toList] at hlt
  rcases List.append_eq_append_iff.mp heq with ⟨more, rfl, -⟩ | ⟨more, hraw, hback⟩
  · rw [List.length_append] at hlt
    omega
  · cases more with
    | nil =>
        rw [hraw, List.append_nil] at hlt
        omega
    | cons e more =>
        obtain ⟨rfl, rfl⟩ := List.cons.inj hback
        apply h.eq_none before r after hshape front c more hraw hne

/-- Behind the first character of a reference that is read there is none up to its end. -/
theorem IsReader.eq_none_behind {before rest : List Char} {d : Char} {r : TicketRef}
    (hform : form before.getLast? (d :: rest) = some r) (front : List Char) (c : Char)
    (back : List Char) (hrest : rest = front ++ c :: back)
    (hlt : front.length < r.raw.length - 1) :
  form (before ++ [d] ++ front).getLast? (c :: back) = none
  := by
  obtain ⟨after, hraw, hshape⟩ := (h.eq_some_iff before _ r).mp hform
  rw [List.append_assoc, List.singleton_append]
  apply h.eq_none_of_lt hshape
  · rw [← hraw, hrest, List.cons_append]
  · apply List.cons_ne_nil
  · rw [List.length_cons]
    omega

/-- Where the places that are skipped hold no reference, the scan finds what stands in the text. -/
theorem IsReader.scan_eq (before s : List Char) (skip : Nat)
    (hskip : ∀ front c back, s = front ++ c :: back → front.length < skip →
      form (before ++ front).getLast? (c :: back) = none) :
  scan form before.getLast? skip s = occurrences form before.getLast? s
  := by
  induction s generalizing before skip with
  | nil => rfl
  | cons d rest ih =>
      have hnext : some d = (before ++ [d]).getLast? := List.getLast?_concat.symm
      cases skip with
      | succ n =>
          have hnone := hskip [] d rest rfl (Nat.succ_pos n)
          rw [List.append_nil] at hnone
          rw [occurrences, hnone, hnext, Option.toList_none, List.nil_append, ← ih]
          · rw [scan, hnext]
          · intro front c back hs hlt
            have := hskip (d :: front) c back (by rw [hs]; rfl) (Nat.succ_lt_succ hlt)
            simpa using this
      | zero =>
          cases hform : form before.getLast? (d :: rest) with
          | none =>
              rw [occurrences, hform, hnext, Option.toList_none, List.nil_append,
                ← ih (before ++ [d]) 0]
              · simp only [scan, hform, hnext]
              · intro front c back _ hlt
                cases hlt
          | some r =>
              rw [occurrences, hform, hnext, Option.toList_some, List.singleton_append,
                ← ih (before ++ [d]) (r.raw.length - 1)]
              · simp only [scan, hform, hnext]
              · apply h.eq_none_behind hform

/-- What is read behind a reference that is read starts behind its end. -/
theorem IsReader.le_of_located {s : List Char} {i j : Nat} {r r' : TicketRef}
    (hr : (i, r) ∈ located form [] s) (hr' : (j, r') ∈ located form [] s) (hlt : i < j) :
  i + r.raw.length ≤ j
  := by
  obtain ⟨front, c, back, rfl, rfl, hform⟩ := (mem_located form).mp hr
  obtain ⟨front', d, back', hs, rfl, hform'⟩ := (mem_located form).mp hr'
  simp only [List.length_nil, Nat.zero_add, List.nil_append] at hlt hform hform' ⊢
  obtain ⟨after, hraw, hshape⟩ := (h.eq_some_iff front _ r).mp hform
  obtain ⟨inside, rfl, hinside⟩ : ∃ inside, front' = front ++ inside
      ∧ c :: back = inside ++ d :: back' := by
    rcases List.append_eq_append_iff.mp hs with h' | ⟨more, rfl, -⟩
    · exact h'
    · rw [List.length_append] at hlt
      omega
  rw [List.length_append] at hlt ⊢
  by_contra hoverlap
  have hnone : form (front ++ inside).getLast? (d :: back') = none := by
    apply h.eq_none_of_lt hshape (hraw.symm.trans hinside)
    · apply List.ne_nil_of_length_pos
      omega
    · omega
  rw [hnone] at hform'
  cases hform'

theorem IsReader.mem_located_iff {s : List Char} {i : Nat} {r : TicketRef} :
  (i, r) ∈ located form [] s
    ↔ ∃ before after, s = before ++ (r.raw.toList ++ after) ∧ before.length = i
      ∧ shape before r after
  := by
  rw [mem_located]
  constructor
  · rintro ⟨front, c, back, rfl, rfl, hform⟩
    obtain ⟨after, hraw, hshape⟩ := (h.eq_some_iff _ _ r).mp hform
    use front, after
    rw [hraw]
    simpa using hshape
  · rintro ⟨before, after, rfl, rfl, hshape⟩
    have hform := (h.eq_some_iff before _ r).mpr ⟨after, rfl, hshape⟩
    obtain ⟨c, back, hraw⟩ := List.exists_cons_of_ne_nil (h.ne_nil _ _ _ hshape)
    use before, c, back ++ after
    rw [hraw] at hform ⊢
    simpa using hform

theorem IsReader.lists_located (s : List Char) :
  Lists shape s (located form [] s)
  where
    apart := by
      apply List.Pairwise.imp_of_mem _ (pairwise_located form [] s)
      intro p q hp hq hlt
      apply h.le_of_located hp hq hlt
    mem_iff _ _ := h.mem_located_iff

/-- A reference is not empty, so two that do not overlap have different positions. -/
theorem IsReader.ordered {s : List Char} {found : List (Nat × TicketRef)}
    (hfound : Lists shape s found) :
  found.Pairwise fun p q => p.1 < q.1
  := by
  apply List.Pairwise.imp_of_mem _ hfound.apart
  rintro ⟨i, r⟩ q hp - happart
  obtain ⟨before, after, -, -, hshape⟩ := (hfound.mem_iff i r).mp hp
  have hlength : 0 < r.raw.length := by
    rw [← String.length_toList]
    apply List.length_pos_of_ne_nil (h.ne_nil before r after hshape)
  simp only at happart ⊢
  omega

/-- What is found from left to right is listed with its positions. -/
theorem IsReader.exists_lists (s : List Char) :
  ∃ found, Lists shape s found ∧ scan form none 0 s = found.map Prod.snd
    ∧ occurrences form none s = found.map Prod.snd
  := by
  have hall : occurrences form none s = (located form [] s).map Prod.snd :=
    (map_snd_located form [] s).symm
  have hscan : scan form none 0 s = occurrences form none s := by
    apply h.scan_eq [] s 0
    intro front c back _ hlt
    cases hlt
  exact ⟨located form [] s, h.lists_located s, hscan.trans hall, hall⟩

end IsReader

/-! ### The first reference to each identifier -/

/-- No reference that was found at an earlier position has the same identifier. -/
def IsFirst (found : List (Nat × TicketRef)) (p : Nat × TicketRef) : Prop :=
  ∀ q ∈ found, q.1 < p.1 → q.2.id ≠ p.2.id

instance (found : List (Nat × TicketRef)) (p : Nat × TicketRef) : Decidable (IsFirst found p) :=
  inferInstanceAs (Decidable (∀ q ∈ found, q.1 < p.1 → q.2.id ≠ p.2.id))

/-- The first references to each identifier. -/
def firsts (found : List (Nat × TicketRef)) : List TicketRef :=
  (found.filter fun p => IsFirst found p).map Prod.snd

theorem isFirst_cons {p q : Nat × TicketRef} {rest : List (Nat × TicketRef)} (h : p.1 < q.1) :
  IsFirst (p :: rest) q ↔ p.2.id ≠ q.2.id ∧ IsFirst rest q
  := by
  rw [IsFirst, List.forall_mem_cons, forall_prop_of_true h]
  rfl

theorem isFirst_head {p : Nat × TicketRef} {rest : List (Nat × TicketRef)}
    (h : ∀ q ∈ rest, p.1 < q.1) :
  IsFirst (p :: rest) p
  := by
  intro q hq hlt
  rcases List.mem_cons.mp hq with rfl | hq
  · exact absurd hlt (Nat.lt_irrefl _)
  · exact absurd hlt (Nat.lt_asymm (h q hq))

/-- Where some identifiers were seen before, those are left out as well. -/
theorem firstOfEach_eq {found : List (Nat × TicketRef)}
    (horder : found.Pairwise fun p q => p.1 < q.1) (seen : List String) :
  firstOfEach seen (found.map Prod.snd)
    = (found.filter fun p => p.2.id ∉ seen ∧ IsFirst found p).map Prod.snd
  := by
  induction found generalizing seen with
  | nil => rfl
  | cons p rest ih =>
      obtain ⟨hfirst, hrest⟩ := List.pairwise_cons.mp horder
      rw [List.map_cons, firstOfEach]
      by_cases hseen : p.2.id ∈ seen
      · rw [if_pos (List.contains_iff_mem.mpr hseen), ih hrest,
          List.filter_cons_of_neg (by simp [hseen])]
        congr 1
        apply List.filter_congr
        intro q hq
        rw [decide_eq_decide, isFirst_cons (hfirst q hq)]
        have hne : q.2.id ∉ seen → p.2.id ≠ q.2.id := by
          rintro hq heq
          rw [← heq] at hq
          exact hq hseen
        tauto
      · rw [if_neg (mt List.contains_iff_mem.mp hseen), ih hrest,
          List.filter_cons_of_pos (by simp [hseen, isFirst_head hfirst]), List.map_cons]
        congr 2
        apply List.filter_congr
        intro q hq
        rw [decide_eq_decide, isFirst_cons (hfirst q hq), List.mem_cons, not_or, ne_comm]
        tauto

theorem firstOfEach_map_snd {found : List (Nat × TicketRef)}
    (horder : found.Pairwise fun p q => p.1 < q.1) :
  firstOfEach [] (found.map Prod.snd) = firsts found
  := by
  rw [firstOfEach_eq horder, firsts]
  simp

theorem mem_ids_firstOfEach {seen : List String} {refs : List TicketRef} {id : String} :
  id ∈ (firstOfEach seen refs).map (·.id) ↔ id ∈ refs.map (·.id) ∧ id ∉ seen
  := by
  induction refs generalizing seen with
  | nil => simp [firstOfEach]
  | cons r rest ih =>
      rw [firstOfEach, List.map_cons]
      by_cases hseen : r.id ∈ seen
      · rw [if_pos (List.contains_iff_mem.mpr hseen), ih, List.mem_cons]
        have : id = r.id → id ∈ seen := by
          rintro rfl
          exact hseen
        tauto
      · rw [if_neg (mt List.contains_iff_mem.mp hseen), List.map_cons, List.mem_cons, ih,
          List.mem_cons, List.mem_cons]
        have : id = r.id → id ∉ seen := by
          rintro rfl
          exact hseen
        tauto

theorem nodup_ids_firstOfEach (seen : List String) (refs : List TicketRef) :
  ((firstOfEach seen refs).map (·.id)).Nodup
  := by
  induction refs generalizing seen with
  | nil => apply List.nodup_nil
  | cons r rest ih =>
      rw [firstOfEach]
      split
      · apply ih
      · rw [List.map_cons, List.nodup_cons, mem_ids_firstOfEach]
        constructor
        · simp
        · apply ih

theorem nodup_ids_firsts {found : List (Nat × TicketRef)}
    (horder : found.Pairwise fun p q => p.1 < q.1) :
  ((firsts found).map (·.id)).Nodup
  := by
  rw [← firstOfEach_map_snd horder]
  apply nodup_ids_firstOfEach

theorem exists_mem_firsts {found : List (Nat × TicketRef)}
    (horder : found.Pairwise fun p q => p.1 < q.1) {p : Nat × TicketRef} (hp : p ∈ found) :
  ∃ r ∈ firsts found, r.id = p.2.id
  := by
  rw [← firstOfEach_map_snd horder]
  apply List.mem_map.mp
  apply mem_ids_firstOfEach.mpr
  constructor
  · rw [List.map_map]
    apply List.mem_map_of_mem hp
  · apply List.not_mem_nil

theorem mem_of_mem_firsts {found : List (Nat × TicketRef)} {r : TicketRef}
    (h : r ∈ firsts found) :
  ∃ i, (i, r) ∈ found
  := by
  obtain ⟨⟨i, r'⟩, hmem, rfl⟩ := List.mem_map.mp h
  use i, List.mem_of_mem_filter hmem

end CommitPolicy.TicketRef
