import CommitPolicy.Proofs.Message.Split

/-!
# Declarations of breaking changes

A line declares a breaking change if it opens with the two words in any case, a space, an underscore
or a hyphen between them, and a colon after them.  Where footers are looked for there is no way to
write such a line that goes unnoticed:

* a footer that is written so declares a breaking change;
* a line of the last paragraph of the body that is written so is malformed.
-/

namespace CommitPolicy

open Text

/-! ### Words in any case -/

/-- The text is written with the letters of the word, each one small or capital. -/
def IsSpelling (word s : List Char) : Prop := List.Forall₂ (fun w c => c = w ∨ c = w.toUpper) word s

section Spelling

variable {word s : List Char} (h : IsSpelling word s)
include h

theorem IsSpelling.all_eq_true {p : Char → Bool}
    (hp : (word.all fun w => p w && p w.toUpper) = true) :
  ∀ c ∈ s, p c = true
  := by
  induction h with
  | nil => apply List.forall_mem_nil
  | cons hc _ ih =>
      rw [List.all_cons, Bool.and_eq_true, Bool.and_eq_true] at hp
      obtain ⟨⟨hsmall, hcapital⟩, hrest⟩ := hp
      rw [List.forall_mem_cons]
      refine ⟨?_, ih hrest⟩
      rcases hc with rfl | rfl
      · apply hsmall
      · apply hcapital

theorem IsSpelling.map_eq {f g : Char → Char}
    (hf : (word.all fun w => f w == g w && f w.toUpper == g w) = true) :
  s.map f = word.map g
  := by
  induction h with
  | nil => rfl
  | cons hc _ ih =>
      rw [List.all_cons, Bool.and_eq_true, Bool.and_eq_true, beq_iff_eq, beq_iff_eq] at hf
      obtain ⟨⟨hsmall, hcapital⟩, hrest⟩ := hf
      rw [List.map_cons, List.map_cons, ih hrest]
      congr 1
      rcases hc with rfl | rfl
      · apply hsmall
      · apply hcapital

theorem IsSpelling.dropWord?_append
    (hword : (word.all fun w => sameLetter w w && sameLetter w w.toUpper) = true)
    (rest : List Char) :
  Footer.dropWord? word (s ++ rest) = some rest
  := by
  induction h with
  | nil => rfl
  | @cons w c _ _ hc _ ih =>
      rw [List.all_cons, Bool.and_eq_true, Bool.and_eq_true] at hword
      obtain ⟨⟨hsmall, hcapital⟩, hrest⟩ := hword
      have hsame : sameLetter w c = true := by
        rcases hc with rfl | rfl
        · apply hsmall
        · apply hcapital
      rw [List.cons_append, Footer.dropWord?, if_pos hsame, ih hrest]

end Spelling

/-! ### Characters of keys -/

namespace Footer

theorem isKeyChar_eq_inRanges (c : Char) :
  isKeyChar c = inRanges [(0x2D, 0x2D), (0x41, 0x5A), (0x61, 0x7A)] c.toNat
  := by
  have ha : 'a'.val.toNat = 0x61 := rfl
  have hz : 'z'.val.toNat = 0x7A := rfl
  have hA : 'A'.val.toNat = 0x41 := rfl
  have hZ : 'Z'.val.toNat = 0x5A := rfl
  have hhyphen : c = '-' ↔ c.val.toNat = 0x2D := by
    rw [Char.ext_iff, ← UInt32.toNat_inj]
    rfl
  have hc : c.toNat = c.val.toNat := rfl
  rw [Bool.eq_iff_iff]
  simp only [isKeyChar, isAsciiLetter, inRanges, Char.le_def, UInt32.le_iff_toNat_le, ha, hz, hA,
    hZ, hc, Bool.or_eq_true, beq_iff_eq, hhyphen]
  simp
  omega

theorem isKeyChar_of_isBlank {c : Char} (h : isBlank c = true) :
  isKeyChar c = false
  := by
  rw [isKeyChar_eq_inRanges]
  apply inRanges_eq_false_of_disjoint (by decide) h

theorem IsToken.trim_eq {key : List Char} (hkey : IsToken key) :
  trim key = key
  := by
  have hblank : ∀ c ∈ key, isBlank c = false := by
    intro c hc
    by_contra hb
    have := isKeyChar_of_isBlank (Bool.not_eq_false _ ▸ hb)
    rw [hkey.2 c hc] at this
    cases this
  have hself : ∀ s : List Char, (∀ c ∈ s, isBlank c = false) → s.dropWhile isBlank = s := by
    intro s hs
    cases s with
    | nil => rfl
    | cons c s => rw [List.dropWhile_cons_of_neg (by simp [hs c List.mem_cons_self])]
  rw [trim, trimLeft, trimRight, hself key hblank, hself key.reverse (by simpa using hblank),
    List.reverse_reverse]

/-! ### Lines that declare a breaking change -/

/-- The line opens with the two words, and a colon follows them after the blank characters `gap`. -/
structure Declares (first : List Char) (joint : Char) (second gap rest line : List Char) :
    Prop where
  first_spells : IsSpelling "breaking".toList first
  joint_mem : joint ∈ [' ', '_', '-']
  second_spells : IsSpelling "change".toList second
  gap_blank : ∀ c ∈ gap, isBlank c = true
  line_eq : line = first ++ joint :: (second ++ (gap ++ ':' :: rest))

/-- The line declares a breaking change. -/
def DeclaresBreaking (line : List Char) : Prop :=
  ∃ first joint second gap rest, Declares first joint second gap rest line

section Declares

variable {first : List Char} {joint : Char} {second gap rest line : List Char}

/-- A line that declares a breaking change is malformed where it is no footer line. -/
theorem Declares.isBotched (h : Declares first joint second gap rest line) :
  isBotched line = true
  := by
  have hfirst := h.first_spells.dropWord?_append (by decide) (joint :: (second ++ (gap ++ ':' :: rest)))
  have hsecond := h.second_spells.dropWord?_append (by decide) (gap ++ ':' :: rest)
  have hjoint : dropJoint (joint :: (second ++ (gap ++ ':' :: rest)))
      = second ++ (gap ++ ':' :: rest) := by
    rw [dropJoint, if_pos]
    simpa [or_assoc] using h.joint_mem
  have hcolon : trimLeft (gap ++ ':' :: rest) = ':' :: rest := by
    rw [trimLeft, List.dropWhile_append_of_pos h.gap_blank]
    rfl
  have hopens : opensBreakingColon line = true := by
    rw [opensBreakingColon, h.line_eq, hfirst]
    simp only [hjoint, hsecond, hcolon, List.head?_cons, beq_self_eq_true]
  rw [Footer.isBotched, hopens, Bool.or_true]

/-- No character of a key follows the second word. -/
theorem Declares.head_gap (h : Declares first joint second gap rest line) :
  ∀ c ∈ (gap ++ ':' :: rest).head?, isKeyChar c = false
  := by
  cases hg : gap with
  | nil => simp [isKeyChar, isAsciiLetter]
  | cons c gap =>
      have := isKeyChar_of_isBlank (h.gap_blank c (by simp [hg]))
      simpa using this

/-- If a token comes first and two characters that do not go on with it, then a hyphen stands
between the words. -/
theorem Declares.joint_eq {key tail : List Char} {x y : Char} (hkey : IsToken key)
    (hx : isKeyChar x = false) (hy : y ≠ 'c' ∧ y ≠ 'C')
    (h : Declares first joint second gap rest (key ++ x :: y :: tail)) :
  joint = '-'
  := by
  by_contra hjoint
  -- The token ends after the first word, and the second one does not start with `y`.
  have hfirst : ∀ c ∈ first, isKeyChar c = true := h.first_spells.all_eq_true (by decide)
  have hstop : ∀ c ∈ (x :: y :: tail).head?, isKeyChar c = false := by simp [hx]
  have hhead : ∀ c ∈ (joint :: (second ++ (gap ++ ':' :: rest))).head?, isKeyChar c = false := by
    have hmem := h.joint_mem
    simp only [List.mem_cons, List.not_mem_nil, or_false, hjoint] at hmem
    rintro c ⟨⟩
    rcases hmem with rfl | rfl
    · decide
    · decide
  have hrest : x :: y :: tail = joint :: (second ++ (gap ++ ':' :: rest)) := by
    rw [← dropWhile_run hkey.2 hstop, h.line_eq, dropWhile_run hfirst hhead]
  obtain ⟨-, hrest⟩ := List.cons.inj hrest
  have hsecond := h.second_spells
  rw [show "change".toList = 'c' :: "hange".toList from rfl] at hsecond
  cases hsecond with
  | cons hc _ =>
      obtain ⟨rfl, -⟩ := List.cons.inj hrest
      rcases hc with rfl | rfl
      · apply hy.1 rfl
      · apply hy.2 rfl

/-- If a token comes first and two characters that do not go on with it, then it is the two words
with a hyphen between them. -/
theorem Declares.key_eq {key tail : List Char} {x y : Char} (hkey : IsToken key)
    (hx : isKeyChar x = false) (hy : y ≠ 'c' ∧ y ≠ 'C')
    (h : Declares first joint second gap rest (key ++ x :: y :: tail)) :
  key = first ++ '-' :: second
  := by
  obtain rfl := h.joint_eq hkey hx hy
  have hwords : ∀ c ∈ first ++ '-' :: second, isKeyChar c = true := by
    have hfirst : ∀ c ∈ first, isKeyChar c = true := h.first_spells.all_eq_true (by decide)
    have hsecond : ∀ c ∈ second, isKeyChar c = true := h.second_spells.all_eq_true (by decide)
    apply List.forall_mem_append.mpr ⟨hfirst, List.forall_mem_cons.mpr ⟨rfl, hsecond⟩⟩
  have hstop : ∀ c ∈ (x :: y :: tail).head?, isKeyChar c = false := by simp [hx]
  calc key
    _ = (key ++ x :: y :: tail).takeWhile isKeyChar := (takeWhile_run hkey.2 hstop).symm
    _ = ((first ++ '-' :: second) ++ (gap ++ ':' :: rest)).takeWhile isKeyChar := by
        rw [h.line_eq, List.append_assoc, List.cons_append]
    _ = first ++ '-' :: second := takeWhile_run hwords h.head_gap

/-- The two words with a hyphen between them are a spelling of the breaking key. -/
theorem isBreaking_of_key_eq {f : Footer} (hfirst : IsSpelling "breaking".toList first)
    (hsecond : IsSpelling "change".toList second) (hkey : IsToken f.key.toList)
    (heq : f.key.toList = first ++ '-' :: second) :
  f.isBreaking = true
  := by
  have hupper : (trim f.key.toList).map capital = "BREAKING-CHANGE".toList := by
    rw [hkey.trim_eq, heq, List.map_append, List.map_cons,
      hfirst.map_eq (g := Char.toUpper) (by decide), hsecond.map_eq (g := Char.toUpper) (by decide)]
    decide
  have hnormal : f.normalizedKey = breakingKey := by
    simp only [normalizedKey, normalizeKey, hupper]
    rfl
  rw [isBreaking, hnormal]
  decide

end Declares

/-- A footer whose line declares a breaking change declares one. -/
theorem WellFormed.isBreaking {f : Footer} (hf : f.WellFormed) (h : DeclaresBreaking f.toLine) :
  f.isBreaking = true
  := by
  obtain ⟨first, joint, second, gap, rest, h⟩ := h
  cases hf with
  | colon hkey hvalue =>
      rcases hkey with rfl | hkey
      · change (normalizeKey breakingKey == breakingKey) = true
        decide
      · rw [toLine_colon] at h
        apply isBreaking_of_key_eq h.first_spells h.second_spells hkey
        apply h.key_eq hkey (by decide) (by decide)
  | numberSign hkey hvalue =>
      rw [toLine_numberSign] at h
      apply isBreaking_of_key_eq h.first_spells h.second_spells hkey
      apply h.key_eq hkey (by decide) (by decide)

/-- Lines that attempt a footer and fail are malformed, wherever they stand. -/
theorem mem_malformedLines {line : List Char} {lines : List (List Char)} (h : line ∈ lines)
    (hline : isBotched line = true) :
  line ∈ malformedLines lines
  := by
  induction lines using malformedLines.induct with
  | case1 => cases h
  | case2 last hlast =>
      rw [malformedLines, if_pos hlast]
      apply h
  | case3 last hlast =>
      obtain rfl := List.mem_singleton.mp h
      simp [hline] at hlast
  | case4 next rest hrest hnext ih =>
      rw [malformedLines, if_pos hnext]
      · rcases List.mem_cons.mp h with rfl | h
        · apply List.mem_cons_self
        · apply List.mem_cons_of_mem _ (ih h)
      · apply hrest
  | case5 next rest hrest hnext ih =>
      rw [malformedLines, if_neg hnext]
      · rcases List.mem_cons.mp h with rfl | h
        · contradiction
        · apply ih h
      · apply hrest

end Footer

namespace Commit

/-- The line stands where footers are looked for: it is the line of a footer, or it belongs to the
last paragraph of the body. -/
def IsWatched (c : Commit) (line : List Char) : Prop :=
  (∃ f ∈ c.footers, line = f.format.toList) ∨ line ∈ lastParagraph c.bodyLines

section ReadFrom

variable {c : Commit} {raw : String} {first : List Char} {gap : Char} {above : List (List Char)}
  (hr : c.ReadFrom raw first gap above)
include hr

theorem ReadFrom.breaking_eq :
  c.breaking = (c.breakingMarker || c.footers.any Footer.isBreaking)
  := congrArg Commit.breaking hr.eq_assemble

theorem ReadFrom.malformedFooters_eq :
  c.malformedFooters = (Footer.malformedLines (lastParagraph c.bodyLines)).map String.ofList
  := congrArg Commit.malformedFooters hr.eq_assemble

end ReadFrom

/-- A declaration of a breaking change that stands where footers are looked for is known as one or
is malformed. -/
theorem breaking_or_malformed {raw : String} {c : Commit} (h : parse raw = .ok c)
    {line : List Char} (hwatched : c.IsWatched line) (hline : Footer.DeclaresBreaking line) :
  c.breaking = true ∨ String.ofList line ∈ c.malformedFooters
  := by
  obtain ⟨first, gap, above, hr⟩ := exists_readFrom h
  rcases hwatched with ⟨f, hf, rfl⟩ | hparagraph
  · apply Or.inl
    have hbreaking := (hr.footers f hf).isBreaking hline
    have hany : c.footers.any Footer.isBreaking = true := List.any_eq_true.mpr ⟨f, hf, hbreaking⟩
    rw [hr.breaking_eq, hany, Bool.or_true]
  · apply Or.inr
    obtain ⟨first, joint, second, gap, rest, hdeclares⟩ := hline
    rw [hr.malformedFooters_eq]
    apply List.mem_map_of_mem (Footer.mem_malformedLines hparagraph hdeclares.isBotched)

end Commit

end CommitPolicy
