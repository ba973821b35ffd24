import Mathlib.Data.List.Nodup
import CommitPolicy.Proofs.Message.Footer
import CommitPolicy.Proofs.Message.Scan

/-!
# The references of a text

Each form of reference is described by where it stands: which text is in front of it, which text is
behind it, and what is recorded of it.

* `#12` stands behind no word character and no ampersand, and `GH-12` behind no word character.
* `[ABC-12]` stands anywhere.
* `ABC-12` stands behind no word character.

The number of one that is not in brackets stands in front of no word character, so all of its digits
are recorded.  No two references of one form overlap, and `extract` gives every reference of a text:
for each form the first one to each identifier, in order of position, where a bare key is left out
if it is a mark of the first form or if its identifier occurs in brackets.  A mark is a ticket only
where it stands in brackets.
-/

namespace CommitPolicy.TicketRef

open Text
open Footer (IsNumber)

/-! ### Where references stand -/

/-- Two capitals and at most eight more capitals or digits. -/
inductive IsProjectKey : List Char → Prop where
  | mk {a b : Char} {more : List Char} (ha : isCapital a = true) (hb : isCapital b = true)
      (hmore : ∀ c ∈ more, isProjectChar c = true) (hlength : more.length ≤ 8) :
      IsProjectKey (a :: b :: more)

/-- A reference to a number, by the number sign or by the mark `GH`. -/
inductive IsGithub : List Char → TicketRef → List Char → Prop where
  | numberSign {before ds after : List Char}
      (hbefore : ∀ c ∈ before.getLast?, isWordChar c = false ∧ c ≠ '&') (hds : IsNumber ds)
      (hafter : ∀ c ∈ after.head?, isWordChar c = false) :
      IsGithub before ⟨.github, String.ofList ds, String.ofList ('#' :: ds)⟩ after
  | mark {before ds after : List Char} (hbefore : ∀ c ∈ before.getLast?, isWordChar c = false)
      (hds : IsNumber ds) (hafter : ∀ c ∈ after.head?, isWordChar c = false) :
      IsGithub before
        ⟨.github, String.ofList ds, String.ofList ('G' :: 'H' :: '-' :: ds)⟩ after

/-- A ticket in brackets. -/
inductive IsGeneric : List Char → TicketRef → List Char → Prop where
  | mk {before key ds after : List Char} (hkey : IsProjectKey key) (hds : IsNumber ds) :
      IsGeneric before
        ⟨.generic, String.ofList (ticketId key ds), String.ofList ('[' :: ticketId key ds ++ [']'])⟩
        after

/-- A bare ticket. -/
inductive IsJira : List Char → TicketRef → List Char → Prop where
  | mk {before key ds after : List Char} (hbefore : ∀ c ∈ before.getLast?, isWordChar c = false)
      (hkey : IsProjectKey key) (hds : IsNumber ds)
      (hafter : ∀ c ∈ after.head?, isWordChar c = false) :
      IsJira before
        ⟨.jira, String.ofList (ticketId key ds), String.ofList (ticketId key ds)⟩ after

/-! ### Characters -/

theorem isCapital_eq_false_of_isDigit {c : Char} (h : isDigit c = true) :
  isCapital c = false
  := by
  have hcapital : isCapital c = inRanges [(0x41, 0x5A)] c.toNat := by
    have hA : 'A'.val.toNat = 0x41 := rfl
    have hZ : 'Z'.val.toNat = 0x5A := rfl
    have hc : c.toNat = c.val.toNat := rfl
    simp only [isCapital, inRanges, Char.le_def, UInt32.le_iff_toNat_le, hA, hZ, hc]
    rw [Bool.eq_iff_iff]
    simp
  rw [hcapital]
  apply inRanges_eq_false_of_disjoint (by decide +kernel) h

theorem isWordChar_of_isProjectChar {c : Char} (h : isProjectChar c = true) :
  isWordChar c = true
  := by
  have hword : ∀ n < 0x5B, inRanges [(0x30, 0x39), (0x41, 0x5A)] n = true →
      (inRanges letterRanges n || inRanges digitRanges n) = true := by decide +kernel
  rw [isProjectChar_eq_inRanges] at h
  have hlt : c.toNat < 0x5B := by
    obtain ⟨r, hr, -, hle⟩ := exists_mem_of_inRanges h
    rcases List.mem_pair.mp hr with rfl | rfl
    · simp only at hle
      omega
    · simp only at hle
      omega
  have := hword c.toNat hlt h
  rw [isWordChar, isAlphanumeric, isLetter, isDigit, this]
  simp

theorem isDigit_eq_false_of_isWordChar {c : Char} (h : isWordChar c = false) :
  isDigit c = false
  := by
  by_contra hdigit
  rw [isWordChar_of_isDigit (Bool.not_eq_false _ ▸ hdigit)] at h
  cases h

theorem IsProjectKey.isProjectChar_of_mem {key : List Char} (h : IsProjectKey key) :
  ∀ c ∈ key, isProjectChar c = true
  := by
  obtain ⟨ha, hb, hmore, -⟩ := h
  simp only [List.forall_mem_cons]
  use by simp [isProjectChar, ha], by simp [isProjectChar, hb]

theorem cases_of_mem_ticketId {key ds : List Char} (hkey : IsProjectKey key) (hds : IsNumber ds)
    {c : Char} (h : c ∈ ticketId key ds) :
  isProjectChar c = true ∨ c = '-' ∨ isDigit c = true
  := by
  rcases List.mem_append.mp h with h | h
  · exact .inl (hkey.isProjectChar_of_mem c h)
  · exact .inr ((List.mem_cons.mp h).imp_right (hds.2 c))

/-! ### What the readers read -/

theorem startsWord_iff {before : Option Char} :
  startsWord before = true ↔ ∀ c ∈ before, isWordChar c = false
  := by
  cases before with
  | none => simp [startsWord]
  | some c => simp [startsWord]

theorem endsWord_iff {s : List Char} :
  endsWord s = true ↔ ∀ c ∈ s.head?, isWordChar c = false
  := by
  cases s with
  | nil => simp [endsWord]
  | cons c s => simp [endsWord]

theorem digits?_eq_some_iff {s ds rest : List Char} :
  digits? s = some (ds, rest)
    ↔ s = ds ++ rest ∧ IsNumber ds ∧ ∀ c ∈ rest.head?, isDigit c = false
  := by
  rw [digits?]
  constructor
  · intro h
    obtain ⟨hne, heq⟩ := Option.ite_none_left_eq_some.mp h
    obtain ⟨rfl, rfl⟩ := Prod.mk.inj (Option.some.inj heq)
    refine ⟨List.takeWhile_append_dropWhile.symm, ⟨by simpa using hne, ?_⟩, ?_⟩
    · apply List.mem_takeWhile_imp
    · intro c hc
      have := List.head?_dropWhile_not isDigit s
      rw [Option.mem_def.mp hc] at this
      simpa using this
  · rintro ⟨rfl, ⟨hne, hdigits⟩, hrest⟩
    simp only [takeWhile_run hdigits hrest, dropWhile_run hdigits hrest]
    simp [hne]

theorem wholeNumber?_eq_some_iff {s ds : List Char} :
  wholeNumber? s = some ds
    ↔ ∃ after, s = ds ++ after ∧ IsNumber ds ∧ ∀ c ∈ after.head?, isWordChar c = false
  := by
  rw [wholeNumber?]
  constructor
  · intro h
    split at h
    · next ds' rest hdigits =>
      obtain ⟨hends, heq⟩ := Option.ite_none_right_eq_some.mp h
      obtain rfl := Option.some.inj heq
      obtain ⟨rfl, hds, -⟩ := digits?_eq_some_iff.mp hdigits
      use rest, rfl, hds, endsWord_iff.mp hends
    · cases h
  · rintro ⟨after, rfl, hds, hafter⟩
    have hdigits : digits? (ds ++ after) = some (ds, after) := by
      apply digits?_eq_some_iff.mpr ⟨rfl, hds, _⟩
      intro c hc
      apply isDigit_eq_false_of_isWordChar (hafter c hc)
    simp [hdigits, endsWord_iff.mpr hafter]

theorem key?_eq_some_iff {s key ds rest : List Char} :
  key? s = some (key, ds, rest)
    ↔ s = ticketId key ds ++ rest ∧ IsProjectKey key ∧ IsNumber ds
      ∧ ∀ c ∈ rest.head?, isDigit c = false
  := by
  constructor
  · intro h
    unfold key? at h
    split at h
    · next a b s' =>
      obtain ⟨hcapital, h⟩ := Option.ite_none_right_eq_some.mp h
      obtain ⟨hlength, h⟩ := Option.ite_none_right_eq_some.mp h
      split at h
      · next tail hdrop =>
        obtain ⟨⟨ds', rest'⟩, hdigits, heq⟩ := Option.map_eq_some_iff.mp h
        obtain ⟨rfl, rfl, rfl⟩ := by simpa using heq
        obtain ⟨rfl, hds, hrest⟩ := digits?_eq_some_iff.mp hdigits
        obtain ⟨ha, hb⟩ := Bool.and_eq_true_iff.mp hcapital
        refine ⟨?_, ⟨ha, hb, fun _ => List.mem_takeWhile_imp, hlength⟩, hds, hrest⟩
        have hs : s' = s'.takeWhile isProjectChar ++ '-' :: (ds' ++ rest') := by
          rw [← hdrop, List.takeWhile_append_dropWhile]
        simpa [ticketId] using hs
      · cases h
    · cases h
  · rintro ⟨rfl, ⟨ha, hb, hmore, hlength⟩, hds, hrest⟩
    next a b more =>
    have hstop : ∀ c ∈ ('-' :: (ds ++ rest)).head?, isProjectChar c = false := by
      simp only [List.head?_cons, Option.mem_some_iff, forall_eq']
      decide
    have hdigits : digits? (ds ++ rest) = some (ds, rest) :=
      digits?_eq_some_iff.mpr ⟨rfl, hds, hrest⟩
    simp [ticketId, key?, ha, hb, takeWhile_run hmore hstop, dropWhile_run hmore hstop, hlength,
      hdigits]

/-! ### The forms -/

theorem mem_tail_of_eq_append {α : Type} {l front back : List α} {a : α}
    (h : l = front ++ a :: back) (hne : front ≠ []) :
  a ∈ l.tail
  := by
  cases front with
  | nil => contradiction
  | cons b front => simp [h]

theorem github?_eq_none {before : Option Char} {c : Char} {s : List Char} (hsign : c ≠ '#')
    (hmark : c ≠ 'G') :
  github? before (c :: s) = none
  := by
  unfold github?
  split
  · next heq => exact absurd (List.cons.inj heq).1 hsign
  · next heq => exact absurd (List.cons.inj heq).1 hmark
  · rfl

theorem github?_eq_some_iff {before s : List Char} {r : TicketRef} :
  github? before.getLast? s = some r ↔ ∃ after, s = r.raw.toList ++ after ∧ IsGithub before r after
  := by
  constructor
  · intro h
    unfold github? at h
    split at h
    · obtain ⟨hbefore, h⟩ := Option.ite_none_right_eq_some.mp h
      obtain ⟨ds, hnumber, rfl⟩ := Option.map_eq_some_iff.mp h
      obtain ⟨after, rfl, hds, hafter⟩ := wholeNumber?_eq_some_iff.mp hnumber
      obtain ⟨hword, hand⟩ := Bool.and_eq_true_iff.mp hbefore
      refine ⟨after, by simp, .numberSign ?_ hds hafter⟩
      intro c hc
      use startsWord_iff.mp hword c hc
      rintro rfl
      simp [Option.mem_def.mp hc] at hand
    · obtain ⟨hbefore, h⟩ := Option.ite_none_right_eq_some.mp h
      obtain ⟨ds, hnumber, rfl⟩ := Option.map_eq_some_iff.mp h
      obtain ⟨after, rfl, hds, hafter⟩ := wholeNumber?_eq_some_iff.mp hnumber
      exact ⟨after, by simp, .mark (startsWord_iff.mp hbefore) hds hafter⟩
    · cases h
  · rintro ⟨after, rfl, hstands⟩
    cases hstands with
    | @numberSign ds _ hbefore hds hafter =>
        have hword := startsWord_iff.mpr fun c hc => (hbefore c hc).1
        have hand : before.getLast? ≠ some '&' := fun h => (hbefore _ h).2 rfl
        have hnumber : wholeNumber? (ds ++ after) = some ds :=
          wholeNumber?_eq_some_iff.mpr ⟨after, rfl, hds, hafter⟩
        simp [github?, hword, hand, hnumber]
    | @mark ds _ hbefore hds hafter =>
        have hword := startsWord_iff.mpr hbefore
        have hnumber : wholeNumber? (ds ++ after) = some ds :=
          wholeNumber?_eq_some_iff.mpr ⟨after, rfl, hds, hafter⟩
        simp [github?, hword, hnumber]

theorem isReader_github? :
  IsReader github? IsGithub
  where
    eq_some_iff _ _ _ := github?_eq_some_iff
    ne_nil before r after h := by
      cases h with
      | numberSign => simp
      | mark => simp
    eq_none before r after h front c back hraw hne := by
      have hmem := mem_tail_of_eq_append hraw hne
      have hc : c = 'H' ∨ c = '-' ∨ isDigit c = true := by
        cases h with
        | @numberSign ds _ _ hds _ =>
            have hdigit : c ∈ ds := by simpa using hmem
            exact .inr (.inr (hds.2 c hdigit))
        | @mark ds _ _ hds _ =>
            have hrest : c = 'H' ∨ c = '-' ∨ c ∈ ds := by simpa using hmem
            exact hrest.imp_right fun h => h.imp_right (hds.2 c)
      apply github?_eq_none
      · rintro rfl
        revert hc
        decide
      · rintro rfl
        revert hc
        decide

theorem generic?_eq_some_iff {before s : List Char} {r : TicketRef} :
  generic? s = some r ↔ ∃ after, s = r.raw.toList ++ after ∧ IsGeneric before r after
  := by
  constructor
  · intro h
    unfold generic? at h
    split at h
    · split at h
      · next key ds after hkey =>
        obtain rfl := Option.some.inj h
        obtain ⟨rfl, hkey, hds, -⟩ := key?_eq_some_iff.mp hkey
        exact ⟨after, by simp, .mk hkey hds⟩
      · cases h
    · cases h
  · rintro ⟨after, rfl, ⟨hkey, hds⟩⟩
    next key ds =>
    have hread : key? (ticketId key ds ++ ']' :: after) = some (key, ds, ']' :: after) := by
      apply key?_eq_some_iff.mpr ⟨rfl, hkey, hds, _⟩
      simp only [List.head?_cons, Option.mem_some_iff, forall_eq']
      decide
    simp [generic?, hread]

theorem isReader_generic? :
  IsReader (fun _ => generic?) IsGeneric
  where
    eq_some_iff _ _ _ := generic?_eq_some_iff
    ne_nil before r after h := by
      cases h with
      | mk => simp
    eq_none before r after h front c back hraw hne := by
      obtain ⟨hkey, hds⟩ := h
      next key ds =>
      have hmem : c ∈ ticketId key ds ∨ c = ']' := by
        simpa using mem_tail_of_eq_append hraw hne
      have hc : c ≠ '[' := by
        rintro rfl
        have hbracket := hmem.imp_left (cases_of_mem_ticketId hkey hds)
        revert hbracket
        decide
      unfold generic?
      split
      · next heq => exact absurd (List.cons.inj heq).1 hc
      · rfl

theorem key?_eq_none {c : Char} {s : List Char} (h : isCapital c = false) :
  key? (c :: s) = none
  := by
  cases s with
  | nil => rfl
  | cons d s => simp [key?, h]

theorem jira?_eq_some_iff {before s : List Char} {r : TicketRef} :
  jira? before.getLast? s = some r ↔ ∃ after, s = r.raw.toList ++ after ∧ IsJira before r after
  := by
  constructor
  · intro h
    unfold jira? at h
    obtain ⟨hbefore, h⟩ := Option.ite_none_right_eq_some.mp h
    split at h
    · next key ds after hkey =>
      obtain ⟨hafter, heq⟩ := Option.ite_none_right_eq_some.mp h
      obtain rfl := Option.some.inj heq
      obtain ⟨rfl, hkey, hds, -⟩ := key?_eq_some_iff.mp hkey
      exact ⟨after, by simp, .mk (startsWord_iff.mp hbefore) hkey hds (endsWord_iff.mp hafter)⟩
    · cases h
  · rintro ⟨after, rfl, ⟨hbefore, hkey, hds, hafter⟩⟩
    next key ds =>
    have hread : key? (ticketId key ds ++ after) = some (key, ds, after) := by
      apply key?_eq_some_iff.mpr ⟨rfl, hkey, hds, _⟩
      intro c hc
      apply isDigit_eq_false_of_isWordChar (hafter c hc)
    simp [jira?, hread, startsWord_iff.mpr hbefore, endsWord_iff.mpr hafter]

theorem isReader_jira? :
  IsReader jira? IsJira
  where
    eq_some_iff _ _ _ := jira?_eq_some_iff
    ne_nil before r after h := by
      cases h with
      | mk => simp [ticketId]
    eq_none before r after h front c back hraw hne := by
      obtain ⟨-, hkey, hds, -⟩ := h
      next key ds =>
      rw [String.toList_ofList, ticketId] at hraw
      rcases List.append_eq_append_iff.mp hraw with ⟨more, rfl, htail⟩ | ⟨more, rfl, hback⟩
      · have hmem : c ∈ '-' :: ds := by simp [htail]
        have hc : isCapital c = false := by
          rcases List.mem_cons.mp hmem with rfl | h
          · decide
          · apply isCapital_eq_false_of_isDigit (hds.2 c h)
        simp [jira?, key?_eq_none hc]
      · have hword : isWordChar (front.getLast hne) = true := by
          apply isWordChar_of_isProjectChar (hkey.isProjectChar_of_mem _ _)
          simp
        rw [List.getLast?_append_of_ne_nil _ hne, List.getLast?_eq_some_getLast hne]
        simp [jira?, startsWord, hword]

/-! ### Projects -/

theorem beforeLastHyphen_ticketId {key ds : List Char} (hds : '-' ∉ ds) :
  beforeLastHyphen (ticketId key ds) = some key
  := by
  have hrun : ∀ c ∈ ds.reverse, (c != '-') = true := by
    intro c hc
    rw [bne_iff_ne]
    rintro rfl
    exact hds (List.mem_reverse.mp hc)
  have hstop : ∀ c ∈ ('-' :: key.reverse).head?, (c != '-') = false := by simp
  have hreverse : (ticketId key ds).reverse = ds.reverse ++ '-' :: key.reverse := by
    simp [ticketId]
  rw [beforeLastHyphen, hreverse, dropWhile_run hrun hstop]
  simp

theorem project_eq {r : TicketRef} {key ds : List Char} (hkind : r.kind ≠ .github)
    (hid : r.id = String.ofList (ticketId key ds)) (hds : IsNumber ds) :
  r.project = some (String.ofList key)
  := by
  have hhyphen : '-' ∉ ds := by
    intro hmem
    have := hds.2 _ hmem
    revert this
    decide
  obtain ⟨kind, id, raw⟩ := r
  subst hid
  cases kind with
  | github => contradiction
  | jira => simp [project, beforeLastHyphen_ticketId hhyphen]
  | generic => simp [project, beforeLastHyphen_ticketId hhyphen]

/-! ### Kinds and identifiers -/

section Nodup

variable {refs refs' : List TicketRef}

theorem nodup_kind_id (h : (refs.map (·.id)).Nodup) :
  (refs.map fun r => (r.kind, r.id)).Nodup
  := by
  apply List.Nodup.of_map Prod.snd
  rw [List.map_map]
  apply h

theorem nodup_kind_id_append (h : (refs.map fun r => (r.kind, r.id)).Nodup)
    (h' : (refs'.map fun r => (r.kind, r.id)).Nodup)
    (hkind : ∀ r ∈ refs, ∀ r' ∈ refs', r.kind ≠ r'.kind) :
  ((refs ++ refs').map fun r => (r.kind, r.id)).Nodup
  := by
  rw [List.map_append, List.nodup_append]
  use h, h'
  intro a ha b hb
  obtain ⟨r, hr, rfl⟩ := List.mem_map.mp ha
  obtain ⟨r', hr', rfl⟩ := List.mem_map.mp hb
  intro heq
  apply hkind r hr r' hr' (congrArg Prod.fst heq)

end Nodup

/-! ### All references -/

/-- A bare key is dropped for the same reasons before and after repeated ones are. -/
theorem isOtherForm_firstOfEach (found : List (Nat × TicketRef)) (r : TicketRef) :
  isOtherForm (firstOfEach [] (found.map Prod.snd)) r = true
    ↔ "GH-".toList <+: r.id.toList ∨ ∃ q ∈ found, q.2.id = r.id
  := by
  have hids := @mem_ids_firstOfEach [] (found.map Prod.snd) r.id
  simp only [List.mem_map, List.not_mem_nil, not_false_eq_true, and_true] at hids
  rw [isOtherForm, Bool.or_eq_true, List.isPrefixOf_iff_prefix, List.any_eq_true]
  simp only [beq_iff_eq, hids]
  simp

/-- The bare keys that are no marks and do not occur in brackets. -/
def properKeys (bracketed bare : List (Nat × TicketRef)) : List (Nat × TicketRef) :=
  bare.filter fun p => ¬"GH-".toList <+: p.2.id.toList ∧ ∀ q ∈ bracketed, q.2.id ≠ p.2.id

/-- The references of each form that stand in a text.  They are found from left to right, and the
references of the text are the first ones to each identifier. -/
structure Holds (s : String) (numbers bracketed bare : List (Nat × TicketRef)) : Prop where
  isGithub : Lists IsGithub s.toList numbers
  isGeneric : Lists IsGeneric s.toList bracketed
  isJira : Lists IsJira s.toList bare
  scan_github : scan github? none 0 s.toList = numbers.map Prod.snd
  scan_generic : scan (fun _ => generic?) none 0 s.toList = bracketed.map Prod.snd
  scan_jira : scan jira? none 0 s.toList = bare.map Prod.snd
  extract_eq : extract s
    = firsts numbers ++ firsts bracketed ++ firsts (properKeys bracketed bare)

theorem exists_holds (s : String) :
  ∃ numbers bracketed bare, Holds s numbers bracketed bare
  := by
  obtain ⟨numbers, hgithub, hscan, hall⟩ := isReader_github?.exists_lists s.toList
  obtain ⟨bracketed, hgeneric, hscan', hall'⟩ :=
    isReader_generic?.exists_lists s.toList
  obtain ⟨bare, hjira, hscan'', hall''⟩ := isReader_jira?.exists_lists s.toList
  have hproper : (bare.map Prod.snd).filter
      (fun r => !isOtherForm (firstOfEach [] (bracketed.map Prod.snd)) r)
        = (properKeys bracketed bare).map Prod.snd := by
    rw [List.filter_map]
    congr 1
    apply List.filter_congr
    intro p _
    rw [Bool.eq_iff_iff]
    simp [isOtherForm_firstOfEach, -Bool.not_eq_true, ← Bool.not_eq_true]
  use numbers, bracketed, bare, hgithub, hgeneric, hjira, hscan, hscan', hscan''
  have horder := (isReader_jira?.ordered hjira).filter fun p =>
    ¬"GH-".toList <+: p.2.id.toList ∧ ∀ q ∈ bracketed, q.2.id ≠ p.2.id
  rw [← firstOfEach_map_snd (isReader_github?.ordered hgithub),
    ← firstOfEach_map_snd (isReader_generic?.ordered hgeneric), properKeys,
    ← firstOfEach_map_snd horder, ← properKeys, ← hproper, ← hall, ← hall', ← hall'']
  rfl

section Holds

variable {s : String} {numbers bracketed bare : List (Nat × TicketRef)}
  (h : Holds s numbers bracketed bare)
include h

theorem Holds.kind_numbers {r : TicketRef} (hr : r ∈ firsts numbers) :
  r.kind = .github
  := by
  obtain ⟨i, hmem⟩ := mem_of_mem_firsts hr
  obtain ⟨_, _, -, -, hstands⟩ := (h.isGithub.mem_iff i r).mp hmem
  cases hstands with
  | numberSign => rfl
  | mark => rfl

theorem Holds.of_bracketed {r : TicketRef} (hr : r ∈ firsts bracketed) :
  r.kind = .generic ∧ ∃ key ds, IsProjectKey key ∧ IsNumber ds
    ∧ r.id = String.ofList (ticketId key ds)
  := by
  obtain ⟨i, hmem⟩ := mem_of_mem_firsts hr
  obtain ⟨_, _, -, -, ⟨hkey, hds⟩⟩ := (h.isGeneric.mem_iff i r).mp hmem
  exact ⟨rfl, _, _, hkey, hds, rfl⟩

theorem Holds.of_properKeys {r : TicketRef} (hr : r ∈ firsts (properKeys bracketed bare)) :
  r.kind = .jira ∧ ∃ key ds, IsProjectKey key ∧ IsNumber ds
    ∧ r.id = String.ofList (ticketId key ds)
  := by
  obtain ⟨i, hmem⟩ := mem_of_mem_firsts hr
  obtain ⟨_, _, -, -, ⟨-, hkey, hds, -⟩⟩ := (h.isJira.mem_iff i r).mp (List.mem_of_mem_filter hmem)
  exact ⟨rfl, _, _, hkey, hds, rfl⟩

/-- A kind of reference tells in which list the reference is. -/
theorem Holds.mem_cases {r : TicketRef} (hr : r ∈ extract s) :
  (r.kind = .github ∧ r ∈ firsts numbers) ∨ (r.kind = .generic ∧ r ∈ firsts bracketed)
    ∨ (r.kind = .jira ∧ r ∈ firsts (properKeys bracketed bare))
  := by
  rw [h.extract_eq, List.mem_append, List.mem_append] at hr
  rcases hr with (hr | hr) | hr
  · exact .inl ⟨h.kind_numbers hr, hr⟩
  · exact .inr (.inl ⟨(h.of_bracketed hr).1, hr⟩)
  · exact .inr (.inr ⟨(h.of_properKeys hr).1, hr⟩)

theorem Holds.nodup :
  ((extract s).map fun r => (r.kind, r.id)).Nodup
  := by
  rw [h.extract_eq]
  apply nodup_kind_id_append
  · apply nodup_kind_id_append
    · apply nodup_kind_id (nodup_ids_firsts (isReader_github?.ordered h.isGithub))
    · apply nodup_kind_id (nodup_ids_firsts (isReader_generic?.ordered h.isGeneric))
    · intro r hr r' hr'
      rw [h.kind_numbers hr, (h.of_bracketed hr').1]
      decide
  · apply nodup_kind_id
    apply nodup_ids_firsts ((isReader_jira?.ordered h.isJira).filter _)
  · intro r hr r' hr'
    rw [(h.of_properKeys hr').1]
    rcases List.mem_append.mp hr with hr | hr
    · rw [h.kind_numbers hr]
      decide
    · rw [(h.of_bracketed hr).1]
      decide

/-- The identifier of a ticket is its project and a number. -/
theorem Holds.project_eq {r : TicketRef} (hr : r ∈ extract s) (hkind : r.kind ≠ .github) :
  ∃ key ds, IsProjectKey key ∧ IsNumber ds ∧ r.project = some (String.ofList key)
    ∧ r.id = String.ofList (ticketId key ds)
  := by
  have hid : ∃ key ds, IsProjectKey key ∧ IsNumber ds
      ∧ r.id = String.ofList (ticketId key ds) := by
    rcases h.mem_cases hr with ⟨hgithub, -⟩ | ⟨-, hr⟩ | ⟨-, hr⟩
    · contradiction
    · apply (h.of_bracketed hr).2
    · apply (h.of_properKeys hr).2
  obtain ⟨key, ds, hkey, hds, hid⟩ := hid
  use key, ds, hkey, hds, TicketRef.project_eq hkind hid hds, hid

/-- A bare key is never a mark. -/
theorem Holds.not_mark {r : TicketRef} (hr : r ∈ extract s) (hkind : r.kind = .jira) :
  ¬"GH-".toList <+: r.id.toList
  := by
  rcases h.mem_cases hr with ⟨hgithub, -⟩ | ⟨hgeneric, -⟩ | ⟨-, hr⟩
  · rw [hgithub] at hkind
    cases hkind
  · rw [hgeneric] at hkind
    cases hkind
  · obtain ⟨i, hmem⟩ := mem_of_mem_firsts hr
    have hproper := List.of_mem_filter hmem
    apply (of_decide_eq_true hproper).1

/-- A ticket whose identifier is a mark is in brackets. -/
theorem Holds.infix_of_mark {r : TicketRef} {ds : List Char} (hr : r ∈ extract s)
    (hkind : r.kind ≠ .github) (hid : r.id.toList = "GH-".toList ++ ds) :
  '[' :: ("GH-".toList ++ ds) ++ [']'] <:+: s.toList
  := by
  rcases h.mem_cases hr with ⟨hgithub, -⟩ | ⟨-, hmem⟩ | ⟨hjira, -⟩
  · contradiction
  · obtain ⟨i, hmem⟩ := mem_of_mem_firsts hmem
    obtain ⟨before, after, hs, -, ⟨_, _⟩⟩ := (h.isGeneric.mem_iff i r).mp hmem
    rw [String.toList_ofList] at hid hs
    use before, after
    rw [← hid, hs, List.append_assoc]
  · exfalso
    apply h.not_mark hr hjira
    rw [hid]
    apply List.prefix_append

/-- A mark in brackets is a ticket. -/
theorem Holds.exists_of_infix {ds : List Char} (hds : IsNumber ds)
    (hs : '[' :: ("GH-".toList ++ ds) ++ [']'] <:+: s.toList) :
  ∃ r ∈ extract s, r.kind ≠ .github ∧ r.id.toList = "GH-".toList ++ ds
  := by
  obtain ⟨before, after, hs⟩ := hs
  have hkey : IsProjectKey ['G', 'H'] := ⟨by decide, by decide, by simp, by simp⟩
  have hmem := (h.isGeneric.mem_iff before.length _).mpr
    ⟨before, after, by simp [← hs, ticketId], rfl, .mk hkey hds⟩
  obtain ⟨r, hr, hid⟩ := exists_mem_firsts (isReader_generic?.ordered h.isGeneric) hmem
  use r
  constructor
  · rw [h.extract_eq]
    apply List.mem_append_left _ (List.mem_append_right _ hr)
  · constructor
    · rw [(h.of_bracketed hr).1]
      decide
    · rw [hid, String.toList_ofList]
      rfl

end Holds

/-- No reference of a text names an empty project. -/
theorem project_ne_empty {s : String} {r : TicketRef} (hr : r ∈ extract s) :
  r.project ≠ some ""
  := by
  obtain ⟨_, _, _, h⟩ := exists_holds s
  by_cases hkind : r.kind = .github
  · simp [project, hkind]
  · obtain ⟨key, ds, hkey, -, hproject, -⟩ := h.project_eq hr hkind
    rw [hproject]
    cases hkey with
    | mk => simp

/-- The references of a text are those to GitHub, the bracketed ones and the bare keys that stand in
it.  Each form is listed in order of position, with the text that was found and without overlaps,
and looking from left to right finds all of them.  Of each form the first reference to an identifier
is kept, and of the bare keys only those that are no marks and do not occur in brackets.  No kind
and identifier are given twice, and an identifier that is not a number is its project and a number.
-/
theorem extract_exact (s : String) :
  ∃ numbers bracketed bare,
    Lists IsGithub s.toList numbers
    ∧ Lists IsGeneric s.toList bracketed
    ∧ Lists IsJira s.toList bare
    ∧ scan github? none 0 s.toList = numbers.map Prod.snd
    ∧ scan (fun _ => generic?) none 0 s.toList = bracketed.map Prod.snd
    ∧ scan jira? none 0 s.toList = bare.map Prod.snd
    ∧ extract s = firsts numbers ++ firsts bracketed
      ++ firsts (bare.filter fun p =>
        ¬"GH-".toList <+: p.2.id.toList ∧ ∀ q ∈ bracketed, q.2.id ≠ p.2.id)
    ∧ ((extract s).map fun r => (r.kind, r.id)).Nodup
    ∧ ∀ r ∈ extract s, r.kind ≠ .github → ∃ key ds, IsProjectKey key ∧ IsNumber ds
      ∧ r.project = some (String.ofList key) ∧ r.id = String.ofList (ticketId key ds)
  := by
  obtain ⟨numbers, bracketed, bare, h⟩ := exists_holds s
  use numbers, bracketed, bare, h.isGithub, h.isGeneric, h.isJira, h.scan_github, h.scan_generic,
    h.scan_jira, h.extract_eq, h.nodup
  intro r
  apply h.project_eq

example : (extract "AB-CD-12 ABC-1-DE-2 #12a &#39; GH-7 [ABC-1]").map (·.raw)
    = ["GH-7", "[ABC-1]", "CD-12", "DE-2"]
  := by decide

end CommitPolicy.TicketRef
