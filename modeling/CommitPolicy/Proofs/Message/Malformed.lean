import CommitPolicy.Proofs.Message.Attempt

/-!
# Malformed footer lines

It is shown that

* the malformed footers of a commit that is read are the lines of the last paragraph of its body
  that attempt a footer and fail, in order and as often as they occur, where a bare line counts if it
  is the last one;
* a last line that opens with a token and a separator is the last footer or the last malformed one;
* a footer line of that paragraph is reported exactly if its value starts with white space or it
  opens with the breaking key.
-/

namespace CommitPolicy

open Text

namespace Footer

/-! ### Footer lines that count as malformed -/

/-- The footer is written with a token that starts with a letter, a colon and a value that starts
with white space. -/
structure IsPadded (f : Footer) : Prop where
  separator_eq : f.separator = ": "
  key : IsLettered f.key.toList
  value : ∃ c ∈ f.value.toList.head?, isBlank c = true

/-- Two tokens with the same text behind them, which no token goes on into, are the same. -/
theorem IsToken.append_inj {token token' rest rest' : List Char} (htoken : IsToken token)
    (htoken' : IsToken token') (hrest : ∀ c ∈ rest.head?, isKeyChar c = false)
    (hrest' : ∀ c ∈ rest'.head?, isKeyChar c = false) (h : token ++ rest = token' ++ rest') :
  token = token' ∧ rest = rest'
  := by
  constructor
  · rw [← takeWhile_run htoken.2 hrest, h, takeWhile_run htoken'.2 hrest']
  · rw [← dropWhile_run htoken.2 hrest, h, dropWhile_run htoken'.2 hrest']

/-- If a footer line is a token and more text, which the token does not go on into, then the token
is the key, or else the first word of the breaking key. -/
theorem WellFormed.toLine_cases {f : Footer} (hf : f.WellFormed) {token rest : List Char} {x : Char}
    (htoken : IsToken token) (hx : isKeyChar x = false) (h : f.toLine = token ++ x :: rest) :
  (x = ':' ∧ f.key.toList = token ∧ f.separator = ": " ∧ IsValue f.value.toList
      ∧ rest = ' ' :: f.value.toList)
    ∨ (x = ' ' ∧ IsNumber f.value.toList ∧ rest = '#' :: f.value.toList)
    ∨ (x = ' ' ∧ rest.head? = some 'C')
  := by
  have hstop : ∀ c ∈ (x :: rest).head?, isKeyChar c = false := by simpa using hx
  cases hf with
  | colon hkey hvalue =>
      rw [toLine_colon] at h
      rcases hkey with rfl | hkey
      · rw [toList_breakingKey, List.append_assoc] at h
        have hword : IsToken "BREAKING".toList := ⟨by decide, List.all_eq_true.mp rfl⟩
        obtain ⟨-, hrest⟩ := hword.append_inj htoken (by simp [isKeyChar, isAsciiLetter]) hstop h
        obtain ⟨rfl, rfl⟩ := List.cons.inj hrest
        apply Or.inr (Or.inr ⟨rfl, rfl⟩)
      · obtain ⟨htokens, hrest⟩ :=
          hkey.append_inj htoken (by simp [isKeyChar, isAsciiLetter]) hstop h
        obtain ⟨rfl, rfl⟩ := List.cons.inj hrest
        apply Or.inl ⟨rfl, htokens, rfl, hvalue, rfl⟩
  | numberSign hkey hvalue =>
      rw [toLine_numberSign] at h
      obtain ⟨-, hrest⟩ := hkey.append_inj htoken (by simp [isKeyChar, isAsciiLetter]) hstop h
      obtain ⟨rfl, rfl⟩ := List.cons.inj hrest
      apply Or.inr (Or.inl ⟨rfl, hvalue, rfl⟩)

theorem WellFormed.not_bare {f : Footer} (hf : f.WellFormed) :
  ¬Bare f.toLine
  := by
  rintro ⟨token, gap, htoken, hgap, hline⟩
  obtain ⟨-, -, -, ⟨c, hc, hsolid⟩, rfl⟩ | ⟨hx, -⟩ | ⟨hx, -⟩ :=
    hf.toLine_cases htoken.isToken (by decide) hline
  · rw [hgap c (List.mem_cons_of_mem _ hc)] at hsolid
    cases hsolid
  · cases hx
  · cases hx

/-- A value in front of which a space is put is that of a footer unless it starts with white space. -/
theorem startsValue_iff {value : List Char} (hvalue : IsValue value) :
  StartsValue (' ' :: value) ↔ ¬∃ c ∈ value.head?, isBlank c = true
  := by
  obtain ⟨d, hd, -⟩ := hvalue
  obtain ⟨c, tail, rfl⟩ := List.exists_cons_of_ne_nil (List.ne_nil_of_mem hd)
  simp [StartsValue]

/-- A footer line attempts a footer and fails exactly if its value starts with white space or it
opens with the breaking key. -/
theorem WellFormed.botched_iff {f : Footer} (hf : f.WellFormed) :
  Botched f.toLine ↔ f.IsPadded ∨ NamesBreaking f.toLine
  := by
  constructor
  · intro h
    generalize hline : f.toLine = line at h
    cases h with
    | colon htoken _ hlink hspace =>
        apply Or.inl
        obtain ⟨-, rfl, hseparator, hvalue, rfl⟩ | ⟨hx, -⟩ | ⟨hx, -⟩ :=
          hf.toLine_cases htoken.isToken (by decide) hline
        · rw [startsValue_iff hvalue, not_not] at hspace
          use hseparator
        · cases hx
        · cases hx
    | numberSign htoken hnumber =>
        obtain ⟨hx, -⟩ | ⟨-, hdigits, hrest⟩ | ⟨-, hhead⟩ :=
          hf.toLine_cases htoken.isToken (by decide) hline
        · cases hx
        · exfalso
          obtain ⟨-, rfl⟩ := List.cons.inj hrest
          exact hnumber hdigits
        · cases hhead
    | breaking h => apply Or.inr h
  · rintro (⟨hseparator, hkey, hpadded⟩ | h)
    · cases hf with
      | colon _ hvalue =>
          rw [toLine_colon]
          apply Botched.colon hkey
          · obtain ⟨c, hc, hsolid⟩ := hvalue
            use c, List.mem_cons_of_mem _ hc
          · simp
          · rw [startsValue_iff hvalue, not_not]
            apply hpadded
      | numberSign =>
          have hne : (" #" : String) ≠ ": " := by decide
          contradiction
    · apply Botched.breaking h

end Footer

namespace Commit

/-- The line opens with a token and a separator, and the double slash of a link does not follow. -/
inductive OpensFooter : List Char → Prop where
  | colon {token rest : List Char} (htoken : Footer.IsLettered token)
      (hlink : ¬"//".toList <+: rest) : OpensFooter (token ++ ':' :: rest)
  | numberSign {token rest : List Char} (htoken : Footer.IsLettered token) :
      OpensFooter (token ++ ' ' :: '#' :: rest)

/-- Such a line is a footer line, or it is malformed where it is the last one. -/
theorem OpensFooter.isLine_or {line : List Char} (h : OpensFooter line) :
  Footer.IsLine line ∨ Footer.Bare line ∨ Footer.Botched line
  := by
  cases h with
  | @colon token rest htoken hlink =>
      by_cases hvalue : Footer.IsValue rest
      · by_cases hspace : Footer.StartsValue rest
        · obtain ⟨c, tail, rfl, hc⟩ := hspace
          apply Or.inl
          use ⟨String.ofList token, String.ofList (c :: tail), ": "⟩
          constructor
          · apply Footer.WellFormed.colon
            · simpa using Or.inr htoken.isToken
            · use c
              simpa using hc
          · simp
        · apply Or.inr (Or.inr (.colon htoken hvalue hlink hspace))
      · apply Or.inr (Or.inl _)
        use token, rest, htoken
        simpa [Footer.IsValue] using hvalue
  | @numberSign token rest htoken =>
      by_cases hnumber : Footer.IsNumber rest
      · apply Or.inl
        use ⟨String.ofList token, String.ofList rest, " #"⟩
        constructor
        · apply Footer.WellFormed.numberSign
          · simpa using htoken.isToken
          · simpa using hnumber
        · simp
      · apply Or.inr (Or.inr (.numberSign htoken hnumber))

/-! ### The last line -/

/-- The last line of lines without blank lines at the ends is the last one that is not blank. -/
theorem getLast?_solidLines {lines : List (List Char)} (h : Trimmed lines) :
  (solidLines lines).getLast? = lines.getLast?
  := by
  rcases List.eq_nil_or_concat lines with rfl | ⟨above, last, rfl⟩
  · rfl
  · rw [List.concat_eq_append] at h ⊢
    have hlast : isBlankLine last = false := h.last last (by simp)
    have hsolid : solidLines [last] = [last] := by simp [solidLines, hlast]
    rw [solidLines_append, hsolid, List.getLast?_concat, List.getLast?_concat]

theorem getLast?_lastParagraph {lines : List (List Char)} (h : Trimmed lines) :
  (lastParagraph lines).getLast? = lines.getLast?
  := by
  obtain ⟨above, hlines, hblank, -⟩ := lastParagraph_spec lines
  by_cases hnil : lastParagraph lines = []
  · -- Otherwise the lines would end in a blank one.
    rw [hnil, List.append_nil] at hlines
    cases hlast : lines.getLast? with
    | none => rw [hnil, List.getLast?_nil]
    | some last =>
        have hsolid := h.last last hlast
        rw [hblank last (hlines ▸ hlast)] at hsolid
        cases hsolid
  · conv_rhs => rw [hlines, List.getLast?_append_of_ne_nil above hnil]

section ReadFrom

variable {c : Commit} {raw : String} {first : List Char} {gap : Char} {above : List (List Char)}
  (hr : c.ReadFrom raw first gap above)
include hr

theorem ReadFrom.solidLines_raw :
  solidLines (splitLines (unixNewlines raw.toList))
    = first :: (solidLines c.bodyLines ++ c.footers.map Footer.toLine)
  := by
  have hfirst : isBlankLine first = false := Header.IsLine.isBlankLine ⟨_, _, hr.spells⟩
  have hcons : solidLines (first :: (above ++ c.footers.map Footer.toLine))
      = first :: solidLines (above ++ c.footers.map Footer.toLine) :=
    List.filter_cons_of_pos (by simp [hfirst])
  rw [(trimsTo_trimBlankLines _).solidLines_eq, ← messageLines, hr.lines, hcons,
    hr.solidLines_below]

/-- A last line that opens with a token and a separator is the line of the last footer, or else the
last malformed one. -/
theorem ReadFrom.last_opensFooter {last : List Char}
    (hlast : last ∈ (solidLines (splitLines (unixNewlines raw.toList))).getLast?)
    (hmore : 1 < (solidLines (splitLines (unixNewlines raw.toList))).length)
    (hopens : OpensFooter last) :
  (∃ f ∈ c.footers.getLast?, f.format.toList = last)
    ∨ (c.footers = [] ∧ c.malformedFooters.getLast? = some (String.ofList last))
  := by
  rw [hr.solidLines_raw] at hlast hmore
  rcases List.eq_nil_or_concat c.footers with hnil | ⟨footers, f, hfooters⟩
  · apply Or.inr
    rw [hnil, List.map_nil, List.append_nil] at hlast hmore
    have hne : solidLines c.bodyLines ≠ [] := by
      rintro hbody
      simp [hbody] at hmore
    rw [List.getLast?_cons_of_ne_nil hne, getLast?_solidLines hr.canonical.body] at hlast
    have hnot : ¬Footer.IsLine last := hr.canonical.last hnil last hlast
    have hmalformed : Footer.Bare last ∨ Footer.Botched last :=
      hopens.isLine_or.resolve_left hnot
    rw [← getLast?_lastParagraph hr.canonical.body] at hlast
    use hnil
    rw [hr.malformedFooters_eq, List.getLast?_map, Footer.malformedLines_eq,
      Option.mem_def.mp hlast]
    simp [hmalformed]
  · apply Or.inl
    rw [hfooters, List.concat_eq_append, List.map_append, List.map_singleton, ← List.append_assoc,
      ← List.cons_append, List.getLast?_concat] at hlast
    use f, by simp [hfooters]
    apply Option.some.inj hlast

end ReadFrom

/-- The malformed footers of a commit that was read are the lines of the last paragraph of its body
that attempt a footer and fail, and the last of them also if it is bare. -/
theorem malformedFooters_exact {raw : String} {c : Commit} (h : parse raw = .ok c) :
  Trimmed c.bodyLines
    ∧ ∃ paragraph, IsLongestSuffix (fun line => isBlankLine line = false) paragraph c.bodyLines
      ∧ c.malformedFooters.map String.toList
        = paragraph.dropLast.filter (fun line => Footer.Botched line)
          ++ paragraph.getLast?.toList.filter (fun line => Footer.Bare line ∨ Footer.Botched line)
      ∧ ∀ last ∈ (solidLines (splitLines (unixNewlines raw.toList))).getLast?,
        1 < (solidLines (splitLines (unixNewlines raw.toList))).length → OpensFooter last →
          (∃ f ∈ c.footers.getLast?, f.format.toList = last)
            ∨ (c.footers = [] ∧ c.malformedFooters.getLast? = some (String.ofList last))
  := by
  obtain ⟨first, gap, above, hr⟩ := exists_readFrom h
  use hr.canonical.body, lastParagraph c.bodyLines, isLongestSuffix_lastParagraph _
  constructor
  · rw [hr.malformedFooters_eq, Footer.malformedLines_eq, List.map_map]
    simp [Function.comp_def]
  · intro last hlast hmore hopens
    apply hr.last_opensFooter hlast hmore hopens

/-- A message whose body ends in a paragraph with malformed lines of every kind, and some that are
not. -/
def mixed : String :=
  "fix: x\n\nb:1\n \nNote:\nbreak\u0131ng-change : y\nSee: z\nRefs:#1\nhttps://a\nOn #1x\nTo:  u\nBy:\n"

/-- The commit that is read from it. -/
def mixedCommit : Commit where
  type := "fix"
  scope := none
  breaking := false
  breakingMarker := false
  subject := "x"
  body := some
    "b:1\n \nNote:\nbreak\u0131ng-change : y\nSee: z\nRefs:#1\nhttps://a\nOn #1x\nTo:  u\nBy:"
  footers := []
  malformedFooters := ["break\u0131ng-change : y", "Refs:#1", "On #1x", "To:  u", "By:"]
  ticketRefs := [⟨.github, "1", "#1"⟩]

theorem malformedFooters_exact_mixed :
  parse mixed = .ok mixedCommit
    ∧ (solidLines (splitLines (unixNewlines mixed.toList))).getLast? = some "By:".toList
    ∧ 1 < (solidLines (splitLines (unixNewlines mixed.toList))).length
    ∧ OpensFooter "By:".toList
    ∧ (∃ paragraph : List (List Char),
      IsLongestSuffix (fun line => isBlankLine line = false) paragraph mixedCommit.bodyLines
      ∧ mixedCommit.malformedFooters.map String.toList
        = paragraph.dropLast.filter (fun line => Footer.Botched line)
          ++ paragraph.getLast?.toList.filter fun line => Footer.Bare line ∨ Footer.Botched line)
    ∧ mixedCommit.malformedFooters.getLast? = some "By:"
  := by
  have hparse : parse mixed = .ok mixedCommit := by decide
  have hlast : (solidLines (splitLines (unixNewlines mixed.toList))).getLast?
      = some "By:".toList := by decide
  have hmore : 1 < (solidLines (splitLines (unixNewlines mixed.toList))).length := by decide
  have htoken : Footer.IsLettered "By".toList := by
    constructor
    · use by decide, List.all_eq_true.mp rfl
    · rintro c ⟨⟩
      decide
  have hopens : OpensFooter "By:".toList := .colon htoken (by decide)
  obtain ⟨-, paragraph, hlongest, hlines, hends⟩ := malformedFooters_exact hparse
  refine ⟨hparse, hlast, hmore, hopens, ⟨paragraph, hlongest, hlines⟩, ?_⟩
  rcases hends _ hlast hmore hopens with ⟨f, ⟨⟩, -⟩ | ⟨-, h⟩
  apply h

/-! ### Footer lines among the malformed ones -/

/-- A footer line is reported as malformed exactly if it stands in the last paragraph of the body
and its value starts with white space or it opens with the breaking key. -/
theorem malformed_footer_lines {raw : String} {c : Commit} (h : parse raw = .ok c) :
  ∃ paragraph, IsLongestSuffix (fun line => isBlankLine line = false) paragraph c.bodyLines
    ∧ ∀ line f, Footer.ofLine? line = some f →
      (String.ofList line ∈ c.malformedFooters
        ↔ line ∈ paragraph ∧ (f.IsPadded ∨ Footer.NamesBreaking line))
  := by
  obtain ⟨first, gap, above, hr⟩ := exists_readFrom h
  use lastParagraph c.bodyLines, isLongestSuffix_lastParagraph _
  intro line f hread
  obtain ⟨hf, rfl⟩ := Footer.ofLine?_eq_some_iff.mp hread
  have hmem : String.ofList f.toLine ∈ c.malformedFooters
      ↔ f.toLine ∈ Footer.malformedLines (lastParagraph c.bodyLines) := by
    rw [hr.malformedFooters_eq, List.mem_map]
    constructor
    · rintro ⟨line, hline, heq⟩
      rw [← String.ofList_injective heq]
      apply hline
    · intro hline
      use f.toLine
  rw [hmem, Footer.mem_malformedLines_iff, hf.botched_iff]
  constructor
  · rintro (h | ⟨-, hbare⟩)
    · apply h
    · exact absurd hbare hf.not_bare
  · apply Or.inl

/-- A message with a footer line of either kind in the last paragraph of its body. -/
def astray : String := "feat: x\n\nSee: y\nRefs:  1\nBREAKING CHANGE: a\n\nRefs #1"

/-- The commit that is read from it. -/
def astrayCommit : Commit where
  type := "feat"
  scope := none
  breaking := false
  breakingMarker := false
  subject := "x"
  body := some "See: y\nRefs:  1\nBREAKING CHANGE: a"
  footers := [⟨"Refs", "1", " #"⟩]
  malformedFooters := ["Refs:  1", "BREAKING CHANGE: a"]
  ticketRefs := [⟨.github, "1", "#1"⟩]

theorem malformed_footer_lines_astray :
  parse astray = .ok astrayCommit
    ∧ Footer.ofLine? "Refs:  1".toList = some ⟨"Refs", " 1", ": "⟩
    ∧ "Refs:  1" ∈ astrayCommit.malformedFooters
    ∧ Footer.ofLine? "BREAKING CHANGE: a".toList = some ⟨"BREAKING CHANGE", "a", ": "⟩
    ∧ "BREAKING CHANGE: a" ∈ astrayCommit.malformedFooters
    ∧ Footer.NamesBreaking "BREAKING CHANGE: a".toList
  := by
  have hparse : parse astray = .ok astrayCommit := by decide
  have hread : Footer.ofLine? "BREAKING CHANGE: a".toList
      = some ⟨"BREAKING CHANGE", "a", ": "⟩ := by decide
  obtain ⟨paragraph, -, hlines⟩ := malformed_footer_lines hparse
  have hmem : "BREAKING CHANGE: a" ∈ astrayCommit.malformedFooters := by decide
  refine ⟨hparse, by decide, by decide, hread, hmem, ?_⟩
  obtain ⟨-, hpadded | hnames⟩ := (hlines _ _ hread).mp hmem
  · exfalso
    obtain ⟨c, hc, hblank⟩ := hpadded.value
    obtain rfl := Option.some.inj hc
    revert hblank
    decide
  · apply hnames

end Commit

end CommitPolicy
