import CommitPolicy.Proofs.Message.Breaking
import CommitPolicy.Proofs.Text.Case

/-!
# Attempts at a footer

A line attempts a footer and fails if it opens with a token and a separator that no value follows in
the way of a footer, or if it opens with the breaking key.  `Footer.Botched` lists these shapes and
`Footer.Bare` the one that counts only in the last line of a paragraph.

There is one equivalence for each part of the reader, and from these it follows which lines of a
paragraph are malformed.
-/

namespace CommitPolicy

open Text

/-! ### Words in any case -/

/-- The text is the word with its letters in any case. -/
def IsAnyCase (word s : List Char) : Prop := List.Forall₂ (fun w c => c ∈ caseForms w) word s

namespace Footer

theorem dropWord?_eq_some_iff {word : List Char} (hword : word ⊆ smallLetters)
    {line rest : List Char} :
  dropWord? word line = some rest ↔ ∃ s, IsAnyCase word s ∧ line = s ++ rest
  := by
  induction word generalizing line with
  | nil =>
      constructor
      · intro h
        use [], List.Forall₂.nil
        apply Option.some.inj h
      · rintro ⟨s, ⟨⟩, rfl⟩
        rfl
  | cons w word ih =>
      obtain ⟨hw, hword⟩ := List.cons_subset.mp hword
      cases line with
      | nil =>
          simp only [dropWord?, reduceCtorEq, false_iff, not_exists]
          rintro s ⟨h, hnil⟩
          cases h
          cases hnil
      | cons c line =>
          rw [dropWord?]
          constructor
          · intro h
            obtain ⟨hsame, hrest⟩ := Option.ite_none_right_eq_some.mp h
            obtain ⟨s, hs, rfl⟩ := (ih hword).mp hrest
            use c :: s, List.Forall₂.cons ((sameLetter_iff hw).mp hsame) hs
            rfl
          · rintro ⟨s, hs, hline⟩
            cases hs with
            | @cons _ d _ s hd hs =>
                obtain ⟨rfl, rfl⟩ := List.cons.inj hline
                rw [if_pos ((sameLetter_iff hw).mpr hd)]
                apply (ih hword).mpr ⟨s, hs, rfl⟩

/-! ### Attempts at a footer -/

/-- A token that starts with a letter. -/
structure IsLettered (token : List Char) : Prop where
  isToken : IsToken token
  head : ∀ c ∈ token.head?, isAsciiLetter c = true

/-- Nothing, or one character that may join the two words of the breaking key. -/
def IsJoint (joint : List Char) : Prop := joint ∈ [[], [' '], ['_'], ['-']]

/-- One space and a character that is not blank come first. -/
def StartsValue (rest : List Char) : Prop :=
  ∃ c tail, rest = ' ' :: c :: tail ∧ isBlank c = false

/-- The line opens with the breaking key: with its two words in capitals, where the second one ends,
or with the words in any case, where a colon follows after white space. -/
inductive NamesBreaking : List Char → Prop where
  | capitals {joint rest : List Char} (hjoint : IsJoint joint)
      (hrest : ∀ c ∈ rest.head?, isWordChar c = false) :
      NamesBreaking ("BREAKING".toList ++ (joint ++ ("CHANGE".toList ++ rest)))
  | colon {first joint second gap rest : List Char} (hfirst : IsAnyCase "breaking".toList first)
      (hjoint : IsJoint joint) (hsecond : IsAnyCase "change".toList second)
      (hgap : ∀ c ∈ gap, isBlank c = true) :
      NamesBreaking (first ++ (joint ++ (second ++ (gap ++ ':' :: rest))))

/-- The line attempts a footer and fails, wherever it stands in its paragraph. -/
inductive Botched : List Char → Prop where
  | colon {token rest : List Char} (htoken : IsLettered token) (hvalue : IsValue rest)
      (hlink : ¬"//".toList <+: rest) (hspace : ¬StartsValue rest) : Botched (token ++ ':' :: rest)
  | numberSign {token rest : List Char} (htoken : IsLettered token) (hnumber : ¬IsNumber rest) :
      Botched (token ++ ' ' :: '#' :: rest)
  | breaking {line : List Char} (hline : NamesBreaking line) : Botched line

/-- The line is a token, a colon and white space. -/
def Bare (line : List Char) : Prop :=
  ∃ token gap, IsLettered token ∧ (∀ c ∈ gap, isBlank c = true) ∧ line = token ++ ':' :: gap

/-! ### Reading what follows a token -/

theorem afterToken?_eq_some_iff {line rest : List Char} :
  afterToken? line = some rest
    ↔ ∃ token, IsLettered token ∧ (∀ c ∈ rest.head?, isKeyChar c = false) ∧ line = token ++ rest
  := by
  constructor
  · intro h
    cases line with
    | nil => cases h
    | cons c line =>
        obtain ⟨hletter, hrest⟩ := Option.ite_none_right_eq_some.mp h
        obtain rfl := Option.some.inj hrest
        use c :: line.takeWhile isKeyChar
        refine ⟨⟨⟨List.cons_ne_nil _ _, ?_⟩, ?_⟩, ?_, ?_⟩
        · have hfirst : isKeyChar c = true := by simp [isKeyChar, hletter]
          refine List.forall_mem_cons.mpr ⟨hfirst, ?_⟩
          intro d hd
          apply List.mem_takeWhile_imp hd
        · rintro d ⟨⟩
          apply hletter
        · intro d hd
          have := List.head?_dropWhile_not isKeyChar line
          rw [Option.mem_def.mp hd] at this
          simpa using this
        · rw [List.cons_append, List.takeWhile_append_dropWhile]
  · rintro ⟨token, htoken, hrest, rfl⟩
    obtain ⟨c, more, rfl⟩ := List.exists_cons_of_ne_nil htoken.isToken.1
    rw [List.cons_append, afterToken?, if_pos (htoken.head c rfl),
      dropWhile_run (List.forall_mem_cons.mp htoken.isToken.2).2 hrest]

theorem isBotchedColon_iff {rest : List Char} :
  isBotchedColon rest = true
    ↔ ∃ value, rest = ':' :: value ∧ IsValue value ∧ ¬"//".toList <+: value ∧ ¬StartsValue value
  := by
  unfold isBotchedColon
  split
  · next value =>
    have hvalue : (!isBlankLine value) = true ↔ IsValue value := by
      rw [Bool.not_eq_true', isBlankLine_eq_false_iff, IsValue]
    have hlink : (!"//".toList.isPrefixOf value) = true ↔ ¬"//".toList <+: value := by
      rw [Bool.not_eq_true', ← Bool.not_eq_true, List.isPrefixOf_iff_prefix]
    rw [Bool.and_eq_true, Bool.and_eq_true, hvalue, hlink, and_assoc]
    constructor
    · rintro ⟨hv, hl, hblank⟩
      use value, rfl, hv, hl
      rintro ⟨c, tail, rfl, hc⟩
      exact Bool.false_ne_true (hc.symm.trans hblank)
    · rintro ⟨_, ⟨⟩, hv, hl, hspace⟩
      use hv, hl
      split
      · next c tail =>
        by_contra hc
        exact hspace ⟨c, tail, rfl, by simpa using hc⟩
      · rfl
  · next hshape =>
    simp only [Bool.false_eq_true, false_iff, not_exists]
    rintro value ⟨rfl, -⟩
    exact hshape _ rfl

theorem isBotchedNumberSign_iff {rest : List Char} :
  isBotchedNumberSign rest = true ↔ ∃ value, rest = ' ' :: '#' :: value ∧ ¬IsNumber value
  := by
  unfold isBotchedNumberSign
  split
  · next value =>
    have hnumber : (value.isEmpty || !value.all isDigit) = true ↔ ¬IsNumber value := by
      simp [IsNumber, Classical.or_iff_not_imp_left]
    rw [hnumber]
    constructor
    · intro h
      use value
    · rintro ⟨_, ⟨⟩, h⟩
      apply h
  · next hshape =>
    simp only [Bool.false_eq_true, false_iff, not_exists]
    rintro value ⟨rfl, -⟩
    exact hshape _ rfl

theorem isBareColon_iff {rest : List Char} :
  isBareColon rest = true ↔ ∃ gap, (∀ c ∈ gap, isBlank c = true) ∧ rest = ':' :: gap
  := by
  unfold isBareColon
  split
  · next gap => simp [isBlankLine]
  · next hshape =>
    simp only [Bool.false_eq_true, false_iff, not_exists]
    rintro gap ⟨-, rfl⟩
    exact hshape _ rfl

/-! ### Reading the breaking key -/

theorem exists_joint (s : List Char) :
  ∃ joint, IsJoint joint ∧ s = joint ++ dropJoint s
  := by
  cases s with
  | nil =>
      use []
      simp [IsJoint, dropJoint]
  | cons c s =>
      rw [dropJoint]
      split
      · next hc =>
        use [c]
        simpa [IsJoint, or_assoc] using hc
      · use []
        simp [IsJoint]

/-- The joint that was written is dropped if no other one follows. -/
theorem dropJoint_append {joint : List Char} (hjoint : IsJoint joint) {c : Char} {s : List Char}
    (hc : c ∉ [' ', '_', '-']) :
  dropJoint (joint ++ c :: s) = c :: s
  := by
  have hstop : dropJoint (c :: s) = c :: s := by
    rw [dropJoint, if_neg]
    simpa [not_or, and_assoc] using hc
  simp only [IsJoint, List.mem_cons, List.not_mem_nil, or_false] at hjoint
  obtain rfl | rfl | rfl | rfl := hjoint
  · apply hstop
  · rfl
  · rfl
  · rfl

theorem opensBreaking_iff {line : List Char} :
  opensBreaking line = true
    ↔ ∃ joint rest, IsJoint joint ∧ (∀ c ∈ rest.head?, isWordChar c = false)
      ∧ line = "BREAKING".toList ++ (joint ++ ("CHANGE".toList ++ rest))
  := by
  constructor
  · intro h
    rw [opensBreaking] at h
    split at h
    · next hfirst =>
      obtain ⟨tail, rfl⟩ := List.isPrefixOf_iff_prefix.mp hfirst
      obtain ⟨hsecond, hend⟩ := (Bool.and_eq_true _ _).mp h
      obtain ⟨joint, hjoint, htail⟩ := exists_joint tail
      obtain ⟨rest, hrest⟩ := List.isPrefixOf_iff_prefix.mp hsecond
      have hdrop : ("BREAKING".toList ++ tail).drop 8 = tail := rfl
      rw [hdrop] at hrest hend
      use joint, rest, hjoint
      constructor
      · rw [← hrest] at hend
        rintro c hc
        obtain ⟨more, rfl⟩ := List.head?_eq_some_iff.mp hc
        simpa using hend
      · rw [hrest, ← htail]
    · cases h
  · rintro ⟨joint, rest, hjoint, hrest, rfl⟩
    have hdrop : dropJoint (joint ++ ("CHANGE".toList ++ rest)) = "CHANGE".toList ++ rest :=
      dropJoint_append hjoint (by decide)
    have hprefix : "CHANGE".toList.isPrefixOf ("CHANGE".toList ++ rest) = true :=
      List.isPrefixOf_iff_prefix.mpr (List.prefix_append _ _)
    rw [opensBreaking, if_pos (List.isPrefixOf_iff_prefix.mpr (List.prefix_append _ _))]
    have hfirst : ("BREAKING".toList ++ (joint ++ ("CHANGE".toList ++ rest))).drop 8
        = joint ++ ("CHANGE".toList ++ rest) := rfl
    simp only [hfirst, hdrop, hprefix, Bool.true_and]
    cases rest with
    | nil => rfl
    | cons c rest => simpa using hrest c rfl

theorem head?_trimLeft_iff {c : Char} (hc : isBlank c = false) {s : List Char} :
  (trimLeft s).head? = some c ↔ ∃ gap rest, (∀ c ∈ gap, isBlank c = true) ∧ s = gap ++ c :: rest
  := by
  constructor
  · intro h
    obtain ⟨rest, hrest⟩ := List.head?_eq_some_iff.mp h
    use s.takeWhile isBlank, rest
    constructor
    · intro d hd
      apply List.mem_takeWhile_imp hd
    · rw [← hrest, trimLeft, List.takeWhile_append_dropWhile]
  · rintro ⟨gap, rest, hgap, rfl⟩
    rw [trimLeft, dropWhile_run hgap (by simpa using hc)]
    rfl

theorem opensBreakingColon_iff {line : List Char} :
  opensBreakingColon line = true
    ↔ ∃ first joint second gap rest, IsAnyCase "breaking".toList first ∧ IsJoint joint
      ∧ IsAnyCase "change".toList second ∧ (∀ c ∈ gap, isBlank c = true)
      ∧ line = first ++ (joint ++ (second ++ (gap ++ ':' :: rest)))
  := by
  have hfirst : "breaking".toList ⊆ smallLetters := by decide
  have hsecond : "change".toList ⊆ smallLetters := by decide
  rw [opensBreakingColon]
  constructor
  · intro h
    split at h
    · cases h
    · next rest hrest =>
      obtain ⟨first, hbreaking, rfl⟩ := (dropWord?_eq_some_iff hfirst).mp hrest
      obtain ⟨joint, hjoint, htail⟩ := exists_joint rest
      split at h
      · cases h
      · next tail hchange =>
        obtain ⟨second, hspells, hdrop⟩ := (dropWord?_eq_some_iff hsecond).mp hchange
        obtain ⟨gap, last, hgap, rfl⟩ := (head?_trimLeft_iff (by decide)).mp (beq_iff_eq.mp h)
        use first, joint, second, gap, last, hbreaking, hjoint, hspells, hgap
        rw [htail, hdrop]
  · rintro ⟨first, joint, second, gap, rest, hbreaking, hjoint, hspells, hgap, rfl⟩
    -- The second word starts with a letter, so the joint is dropped and nothing more.
    have hdrop : dropJoint (joint ++ (second ++ (gap ++ ':' :: rest)))
        = second ++ (gap ++ ':' :: rest) := by
      have hletter : ∀ c ∈ caseForms 'c', (!List.contains [' ', '_', '-'] c) = true :=
        List.all_eq_true.mp rfl
      cases hspells with
      | cons hc _ => apply dropJoint_append hjoint (by simpa using hletter _ hc)
    simp only [(dropWord?_eq_some_iff hfirst).mpr ⟨first, hbreaking, rfl⟩, hdrop,
      (dropWord?_eq_some_iff hsecond).mpr ⟨second, hspells, rfl⟩]
    rw [beq_iff_eq]
    apply (head?_trimLeft_iff (by decide)).mpr ⟨gap, rest, hgap, rfl⟩

/-! ### Reading a line -/

/-- A line is found to attempt a footer and to fail exactly if it does. -/
theorem isBotched_iff {line : List Char} :
  isBotched line = true ↔ Botched line
  := by
  rw [isBotched, Bool.or_eq_true, Bool.or_eq_true, or_assoc]
  constructor
  · rintro (h | h | h)
    · split at h
      · next rest hafter =>
        obtain ⟨token, htoken, -, rfl⟩ := afterToken?_eq_some_iff.mp hafter
        rcases (Bool.or_eq_true _ _).mp h with h | h
        · obtain ⟨value, rfl, hvalue, hlink, hspace⟩ := isBotchedColon_iff.mp h
          apply Botched.colon htoken hvalue hlink hspace
        · obtain ⟨value, rfl, hnumber⟩ := isBotchedNumberSign_iff.mp h
          apply Botched.numberSign htoken hnumber
      · cases h
    · obtain ⟨joint, rest, hjoint, hrest, rfl⟩ := opensBreaking_iff.mp h
      apply Botched.breaking (.capitals hjoint hrest)
    · obtain ⟨first, joint, second, gap, rest, hfirst, hjoint, hsecond, hgap, rfl⟩ :=
        opensBreakingColon_iff.mp h
      apply Botched.breaking (.colon hfirst hjoint hsecond hgap)
  · intro h
    cases h with
    | @colon token value htoken hvalue hlink hspace =>
        have hafter : afterToken? (token ++ ':' :: value) = some (':' :: value) := by
          apply afterToken?_eq_some_iff.mpr ⟨token, htoken, by simp [isKeyChar, isAsciiLetter], rfl⟩
        have hbotched := isBotchedColon_iff.mpr ⟨value, rfl, hvalue, hlink, hspace⟩
        simp only [hafter, hbotched, Bool.true_or, true_or]
    | @numberSign token value htoken hnumber =>
        have hafter : afterToken? (token ++ ' ' :: '#' :: value) = some (' ' :: '#' :: value) := by
          apply afterToken?_eq_some_iff.mpr ⟨token, htoken, by simp [isKeyChar, isAsciiLetter], rfl⟩
        have hbotched := isBotchedNumberSign_iff.mpr ⟨value, rfl, hnumber⟩
        simp only [hafter, hbotched, Bool.or_true, true_or]
    | breaking hline =>
        apply Or.inr
        cases hline with
        | capitals hjoint hrest =>
            apply Or.inl (opensBreaking_iff.mpr ⟨_, _, hjoint, hrest, rfl⟩)
        | colon hfirst hjoint hsecond hgap =>
            apply Or.inr (opensBreakingColon_iff.mpr
              ⟨_, _, _, _, _, hfirst, hjoint, hsecond, hgap, rfl⟩)

theorem isBareToken_iff {line : List Char} :
  isBareToken line = true ↔ Bare line
  := by
  rw [isBareToken]
  constructor
  · intro h
    split at h
    · next rest hafter =>
      obtain ⟨token, htoken, -, rfl⟩ := afterToken?_eq_some_iff.mp hafter
      obtain ⟨gap, hgap, rfl⟩ := isBareColon_iff.mp h
      use token, gap, htoken, hgap
    · cases h
  · rintro ⟨token, gap, htoken, hgap, rfl⟩
    have hafter : afterToken? (token ++ ':' :: gap) = some (':' :: gap) := by
      apply afterToken?_eq_some_iff.mpr ⟨token, htoken, by simp [isKeyChar, isAsciiLetter], rfl⟩
    simp only [hafter]
    apply isBareColon_iff.mpr ⟨gap, hgap, rfl⟩

instance (line : List Char) : Decidable (Botched line) := decidable_of_iff _ isBotched_iff

instance (line : List Char) : Decidable (Bare line) := decidable_of_iff _ isBareToken_iff

/-- The malformed lines of a paragraph: those that attempt a footer and fail, and the last line also
if it is bare. -/
theorem malformedLines_eq (lines : List (List Char)) :
  malformedLines lines
    = lines.dropLast.filter (fun line => Botched line)
      ++ lines.getLast?.toList.filter fun line => Bare line ∨ Botched line
  := by
  induction lines using malformedLines.induct with
  | case1 => rfl
  | case2 line hline =>
      rw [Bool.or_eq_true, isBareToken_iff, isBotched_iff] at hline
      simp [malformedLines, isBareToken_iff, isBotched_iff, hline]
  | case3 line hline =>
      rw [Bool.or_eq_true, isBareToken_iff, isBotched_iff] at hline
      simp [malformedLines, isBareToken_iff, isBotched_iff, hline]
  | case4 line rest hrest hline ih =>
      rw [malformedLines, if_pos hline, ih, List.dropLast_cons_of_ne_nil hrest,
        List.getLast?_cons_of_ne_nil hrest, List.filter_cons_of_pos, List.cons_append]
      · simpa using isBotched_iff.mp hline
      · apply hrest
  | case5 line rest hrest hline ih =>
      rw [malformedLines, if_neg hline, ih, List.dropLast_cons_of_ne_nil hrest,
        List.getLast?_cons_of_ne_nil hrest, List.filter_cons_of_neg]
      · simpa using mt isBotched_iff.mpr hline
      · apply hrest

theorem mem_malformedLines_iff {line : List Char} {lines : List (List Char)} :
  line ∈ malformedLines lines
    ↔ (line ∈ lines ∧ Botched line) ∨ (line ∈ lines.getLast? ∧ Bare line)
  := by
  rw [malformedLines_eq]
  rcases List.eq_nil_or_concat lines with rfl | ⟨above, last, rfl⟩
  · simp
  · simp only [List.concat_eq_append, List.dropLast_concat, List.getLast?_concat, List.mem_append,
      List.mem_filter, Option.toList_some, List.mem_singleton, decide_eq_true_eq,
      Option.mem_some_iff]
    grind

end Footer

end CommitPolicy
