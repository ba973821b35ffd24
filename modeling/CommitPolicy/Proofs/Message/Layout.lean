import CommitPolicy.Proofs.Message.Grammar

/-!
# The layout of a commit

`Commit.layout` is the canonical layout of a commit as lines: the header line, then the body under a
blank line, then the footer lines under a blank line.  The format of a commit is its layout with the
lines joined, and the lines below the header of a layout are divided into the body and the footers
that were laid out.
-/

namespace CommitPolicy

open Text

namespace Commit

/-! ### Laying out -/

/-- Lines under a blank line, if there are any. -/
def block (lines : List (List Char)) : List (List Char) :=
  if lines = [] then [] else [] :: lines

@[simp]
theorem block_nil :
  block [] = []
  := rfl

theorem block_of_ne_nil {lines : List (List Char)} (h : lines ≠ []) :
  block lines = [] :: lines
  := if_neg h

theorem mem_block {line : List Char} {lines : List (List Char)} (h : line ∈ block lines) :
  line = [] ∨ line ∈ lines
  := by
  by_cases hl : lines = []
  · simp [hl] at h
  · rw [block_of_ne_nil hl] at h
    apply List.mem_cons.mp h

theorem getLast?_block (lines : List (List Char)) :
  (block lines).getLast? = lines.getLast?
  := by
  by_cases hl : lines = []
  · simp [hl]
  · rw [block_of_ne_nil hl, List.getLast?_cons_of_ne_nil hl]

theorem flatMap_words_block (lines : List (List Char)) :
  (block lines).flatMap words = lines.flatMap words
  := by
  by_cases h : lines = []
  · simp [h]
  · simp [block_of_ne_nil h]

theorem flatten_block (lines : List (List Char)) :
  (block lines).flatten = lines.flatten
  := by
  by_cases h : lines = []
  · simp [h]
  · simp [block_of_ne_nil h]

/-- An empty line comes first in a block. -/
theorem block_append_block (above below : List (List Char)) :
  block above ++ block below = [] ∨ ∃ rest, rest ≠ [] ∧ block above ++ block below = [] :: rest
  := by
  by_cases ha : above = []
  · subst ha
    rw [block_nil, List.nil_append]
    by_cases hb : below = []
    · apply Or.inl
      simp [hb]
    · apply Or.inr
      use below, hb
      apply block_of_ne_nil hb
  · apply Or.inr
    use above ++ block below, List.append_ne_nil_of_left_ne_nil ha _
    rw [block_of_ne_nil ha, List.cons_append]

/-- A header line, a body and footers as lines. -/
def layout (head : List Char) (body : List (List Char)) (footers : List Footer) :
    List (List Char) :=
  head :: (block body ++ block (footers.map Footer.toLine))

/-- The lines of the body of a commit. -/
def bodyLines (c : Commit) : List (List Char) :=
  match c.body with
  | none => []
  | some body => splitLines body.toList

theorem toList_header (c : Commit) :
  c.header.toList = c.headerParts.toLine ' '
  := by
  have hmarker : (if c.breakingMarker then "!" else "").toList
      = Header.markerText c.breakingMarker := by
    cases c.breakingMarker with
    | false => rfl
    | true => rfl
  rw [header, headerParts, Header.toLine]
  simp only [String.toList_append, hmarker, List.append_assoc]
  cases c.scope with
  | none => rfl
  | some scope => simp [Header.scopeText]

theorem toList_joinWith (texts : List String) :
  (joinWith "\n" texts).toList = joinLines (texts.map String.toList)
  := by
  induction texts using joinWith.induct with
  | case1 => rfl
  | case2 text => simp [joinWith, joinLines]
  | case3 text rest hrest ih =>
      rw [joinWith, String.toList_append, String.toList_append, ih, List.map_cons,
        joinLines_cons (by simpa using hrest)]
      · simp
      · apply hrest

/-- `texts` is one text with these lines, or none if there are no lines. -/
def IsBlock (texts : List String) (lines : List (List Char)) : Prop :=
  (texts = [] ∧ lines = []) ∨ ∃ text, texts = [text] ∧ lines ≠ [] ∧ text.toList = joinLines lines

theorem isBlock_bodyBlock {c : Commit} (hbody : c.body ≠ some "") :
  IsBlock c.bodyBlock c.bodyLines
  := by
  rw [bodyBlock, bodyLines]
  cases h : c.body with
  | none => apply Or.inl ⟨rfl, rfl⟩
  | some body =>
      have hne : body ≠ "" := by
        rintro rfl
        exact hbody h
      apply Or.inr
      use body
      simp [hne, splitLines_ne_nil, joinLines_splitLines]

theorem isBlock_footerBlock (c : Commit) :
  IsBlock c.footerBlock (c.footers.map Footer.toLine)
  := by
  rw [footerBlock]
  by_cases h : c.footers = []
  · apply Or.inl
    simp [h]
  · apply Or.inr
    use joinWith "\n" (c.footers.map Footer.format)
    refine ⟨?_, ?_, ?_⟩
    · simp [h]
    · simpa using h
    · rw [toList_joinWith, List.map_map]
      rfl

theorem joinLines_append_block {above lines : List (List Char)} (ha : above ≠ [])
    (hl : lines ≠ []) :
  joinLines (above ++ block lines) = joinLines above ++ '\n' :: '\n' :: joinLines lines
  := by
  rw [block_of_ne_nil hl, joinLines_append ha (List.cons_ne_nil _ _), joinLines_cons hl]
  rfl

/-- The format of a commit is its layout, with the lines joined. -/
theorem toList_format {c : Commit} (hbody : c.body ≠ some "") :
  c.format.toList = joinLines (layout (c.headerParts.toLine ' ') c.bodyLines c.footers)
  := by
  rw [format, layout, ← toList_header]
  rcases isBlock_bodyBlock hbody with ⟨hb, hbl⟩ | ⟨body, hb, hbl, hbody⟩
  · rcases isBlock_footerBlock c with ⟨hf, hfl⟩ | ⟨footers, hf, hfl, hfooters⟩
    · simp [hb, hbl, hf, hfl, joinWith, joinLines]
    · have := joinLines_append_block (List.cons_ne_nil c.header.toList []) hfl
      simpa [hb, hbl, hf, hfooters, joinWith, joinLines] using this.symm
  · have habove := joinLines_append_block (List.cons_ne_nil c.header.toList []) hbl
    rcases isBlock_footerBlock c with ⟨hf, hfl⟩ | ⟨footers, hf, hfl, hfooters⟩
    · simpa [hb, hbody, hf, hfl, joinWith, joinLines] using habove.symm
    · have := joinLines_append_block (List.append_ne_nil_of_left_ne_nil
        (List.cons_ne_nil c.header.toList []) (block c.bodyLines)) hfl
      rw [habove] at this
      simpa [hb, hbody, hf, hfooters, joinWith, joinLines] using this.symm

/-! ### The lines of a layout -/

section Layout

variable {head : List Char} {body : List (List Char)} {footers : List Footer}

/-- What holds of the empty line and of all that is laid out holds of every line of the layout. -/
theorem forall_mem_layout {p : List Char → Prop} (hnil : p []) (hhead : p head)
    (hbody : ∀ line ∈ body, p line) (hfooters : ∀ f ∈ footers, p f.toLine) :
  ∀ line ∈ layout head body footers, p line
  := by
  have hblock : ∀ lines : List (List Char), (∀ line ∈ lines, p line) →
      ∀ line ∈ block lines, p line := by
    intro lines hlines line hline
    rcases mem_block hline with rfl | hline
    · apply hnil
    · apply hlines line hline
  rw [layout, List.forall_mem_cons, List.forall_mem_append]
  use hhead, hblock body hbody
  apply hblock
  simpa using hfooters

theorem trimmed_layout (hhead : isBlankLine head = false) (hbody : Trimmed body)
    (hfooters : ∀ f ∈ footers, f.WellFormed) :
  Trimmed (layout head body footers)
  := by
  constructor
  · rintro _ ⟨⟩
    apply hhead
  · intro line hline
    rw [layout, ← List.singleton_append, List.getLast?_append, List.getLast?_append,
      getLast?_block, getLast?_block] at hline
    rcases Option.or_eq_some_iff.mp hline with hline | ⟨-, hline⟩
    · rcases Option.or_eq_some_iff.mp hline with hline | ⟨-, hline⟩
      · obtain ⟨f, hf, rfl⟩ := List.mem_map.mp (List.mem_of_getLast? hline)
        apply (hfooters f hf).isBlankLine_toLine
      · apply hbody.last line hline
    · obtain rfl := Option.some.inj hline
      apply hhead

end Layout

/-! ### Dividing what was laid out -/

theorem splitBody_under_empty {rest above : List (List Char)} {footers : List Footer}
    (h : Footer.splitTrailing rest = (above, footers)) :
  splitBody ([] :: rest) = .ok (trimBlankLines above, footers)
  := by
  rw [splitBody, if_pos (by rfl), h]

/-- The lines below the header of a layout are divided into its body and its footers, if the body
needs no trimming and does not end in a footer line where no footers follow. -/
theorem splitBody_layout {body : List (List Char)} {footers : List Footer} (hbody : Trimmed body)
    (hfooters : ∀ f ∈ footers, f.WellFormed) (hlast : footers = [] → Footer.EndsAbove body) :
  splitBody (block body ++ block (footers.map Footer.toLine)) = .ok (body, footers)
  := by
  have htrim := hbody.trimsTo
  by_cases hf : footers = []
  · subst hf
    by_cases hb : body = []
    · subst hb
      rfl
    · have hsplit := Footer.splitTrailing_append hfooters (hlast rfl)
      rw [List.map_nil, List.append_nil] at hsplit
      rw [block_of_ne_nil hb, List.map_nil, block_nil, List.append_nil,
        splitBody_under_empty hsplit, htrim.trimBlankLines_eq]
  · rw [block_of_ne_nil (mt List.map_eq_nil_iff.mp hf)]
    by_cases hb : body = []
    · subst hb
      apply splitBody_under_empty (Footer.splitTrailing_map_toLine hfooters)
    · -- The empty line above the footers is blank, and so keeps them apart from the body.
      have habove : Footer.EndsAbove (body ++ [[]]) := by
        simpa [Footer.EndsAbove] using @Footer.not_isLine_of_isBlankLine [] rfl
      have hsplit := Footer.splitTrailing_append hfooters habove
      rw [List.append_assoc, List.singleton_append] at hsplit
      rw [block_of_ne_nil hb, List.cons_append, splitBody_under_empty hsplit,
        (htrim.concat rfl).trimBlankLines_eq]

end Commit

end CommitPolicy
