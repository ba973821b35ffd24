import CommitPolicy.Proofs.Console.Markup
import CommitPolicy.Proofs.Text.Newlines
import Mathlib.Data.List.Infix

/-!
# Text that is shown as it is

What the console shows of an escaped text is the text itself unless

* a backslash stands before a bracket that opens no tag;
* an emoji code of the text is known;
* the text ends in two backslashes.

In each of these cases fewer colons and backslashes are shown than the text has, and nowhere are
more of them shown.  So a text is shown as it is exactly if each of its parts is.
-/

namespace CommitPolicy.Console

open Text

/-! ### What is shown of a text -/

/-- The control characters. -/
def isControlCode (c : Char) : Bool := c.toNat < 32 || (127 ≤ c.toNat && c.toNat < 160)

/-- Whether something else can be shown for a character. -/
def isMark (c : Char) : Bool := c == ':' || c == '\\'

/-- Whether a character is neither a mark nor a control character. -/
def isInert (c : Char) : Bool := !isMark c && !isControlCode c

/-- How many marks a text has. -/
def marks (s : List Char) : Nat := s.countP isMark

theorem marks_append (s t : List Char) :
  marks (s ++ t) = marks s + marks t
  := List.countP_append

theorem marks_of_isInert {s : List Char} (h : ∀ c ∈ s, isInert c = true) :
  marks s = 0
  := by
  apply List.countP_eq_zero.mpr
  intro c hc
  have := h c hc
  simp [isInert] at this
  simp [this]

/-- What is shown of the text `s` is the text itself or has fewer marks, and what is not in the text
is inert. -/
structure Shows (s shown : List Char) : Prop where
  eq_or_lt : shown = s ∨ marks shown < marks s
  mem_or_inert : ∀ c ∈ shown, c ∈ s ∨ isInert c = true

namespace Shows

variable {s t u s' t' : List Char}

theorem refl (s : List Char) :
  Shows s s
  := by
  constructor
  · apply Or.inl rfl
  · intro c hc
    apply Or.inl hc

theorem marks_le (h : Shows s t) :
  marks t ≤ marks s
  := by
  rcases h.eq_or_lt with rfl | hlt
  · apply Nat.le_refl
  · apply Nat.le_of_lt hlt

theorem append (h : Shows s t) (h' : Shows s' t') :
  Shows (s ++ s') (t ++ t')
  := by
  have hle := h.marks_le
  have hle' := h'.marks_le
  constructor
  · rw [marks_append, marks_append]
    rcases h.eq_or_lt with rfl | hlt
    · rcases h'.eq_or_lt with rfl | hlt'
      · apply Or.inl rfl
      · apply Or.inr (by omega)
    · apply Or.inr (by omega)
  · intro c hc
    rw [List.mem_append]
    rcases List.mem_append.mp hc with hc | hc
    · have := h.mem_or_inert c hc
      tauto
    · have := h'.mem_or_inert c hc
      tauto

/-- What is shown of two parts is the text exactly if each part is shown as it is. -/
theorem append_eq_iff (h : Shows s t) (h' : Shows s' t') :
  t ++ t' = s ++ s' ↔ t = s ∧ t' = s'
  := by
  constructor
  · intro heq
    have hmarks := congrArg marks heq
    rw [marks_append, marks_append] at hmarks
    have hle := h.marks_le
    have hle' := h'.marks_le
    constructor
    · apply h.eq_or_lt.resolve_right (by omega)
    · apply h'.eq_or_lt.resolve_right (by omega)
  · rintro ⟨rfl, rfl⟩
    rfl

theorem trans (h : Shows s t) (h' : Shows t u) :
  Shows s u
  := by
  constructor
  · have hle := h.marks_le
    rcases h'.eq_or_lt with rfl | hlt
    · apply h.eq_or_lt
    · apply Or.inr (by omega)
  · intro c hc
    rcases h'.mem_or_inert c hc with hc | hinert
    · apply h.mem_or_inert c hc
    · apply Or.inr hinert

/-- What is shown in two steps is the text exactly if each step changes nothing. -/
theorem trans_eq_iff (h : Shows s t) (h' : Shows t u) :
  u = s ↔ t = s ∧ u = t
  := by
  constructor
  · rintro rfl
    have hle := h.marks_le
    have heq := h'.eq_or_lt.resolve_right (by omega)
    exact ⟨heq.symm, heq⟩
  · rintro ⟨rfl, rfl⟩
    rfl

theorem flatMap {α : Type} {l : List α} {f g : α → List Char} (h : ∀ x ∈ l, Shows (f x) (g x)) :
  Shows (l.flatMap f) (l.flatMap g)
  := by
  induction l with
  | nil => apply refl
  | cons x l ih =>
      obtain ⟨hx, hl⟩ := List.forall_mem_cons.mp h
      apply hx.append (ih hl)

theorem flatMap_eq_iff {α : Type} {l : List α} {f g : α → List Char}
    (h : ∀ x ∈ l, Shows (f x) (g x)) :
  l.flatMap g = l.flatMap f ↔ ∀ x ∈ l, g x = f x
  := by
  induction l with
  | nil => simp
  | cons x l ih =>
      obtain ⟨hx, hl⟩ := List.forall_mem_cons.mp h
      rw [List.flatMap_cons, List.flatMap_cons, hx.append_eq_iff (flatMap hl), ih hl,
        List.forall_mem_cons]

end Shows

/-! ### Backslashes before brackets -/

theorem shows_unescapeBrackets (s : List Char) :
  Shows s (unescapeBrackets s)
  := by
  fun_induction unescapeBrackets s with
  | case1 => apply Shows.refl
  | case2 rest ih =>
      have hpair : Shows ['\\', '['] ['['] := by
        constructor
        · apply Or.inr (by decide)
        · simp
      apply hpair.append ih
  | case3 c rest _ ih => apply (Shows.refl [c]).append ih

theorem unescapeBrackets_eq_self_iff (s : List Char) :
  unescapeBrackets s = s ↔ ¬['\\', '['] <:+: s
  := by
  fun_induction unescapeBrackets s with
  | case1 => simp
  | case2 rest ih =>
      have hin : ['\\', '['] <:+: '\\' :: '[' :: rest := (List.prefix_append _ _).isInfix
      simp [hin]
  | case3 c rest hc ih =>
      have hstart : ¬['\\', '['] <+: c :: rest := by
        rintro ⟨tail, htail⟩
        obtain ⟨rfl, hrest⟩ := List.cons.inj htail
        exact hc tail rfl hrest.symm
      rw [List.infix_cons_iff, List.cons_eq_cons, ih]
      simp [hstart]

/-! ### Emoji -/

theorem isInert_of_mem_emojiNames {name : String} {points : List Nat}
    (h : (name, points) ∈ emojiNames) :
  ∀ n ∈ points, isInert (Char.ofNat n) = true
  := by
  have hall : (emojiNames.all fun entry => entry.2.all fun n => isInert (Char.ofNat n)) = true := by
    decide +kernel
  apply List.all_eq_true.mp (List.all_eq_true.mp hall _ h)

theorem isInert_of_splitPresentation (code : List Char) :
  ∀ n ∈ (splitPresentation code).2, isInert (Char.ofNat n) = true
  := by
  have hall : (presentations.all fun entry => isInert (Char.ofNat entry.2)) = true := by decide
  unfold splitPresentation
  split
  · next ending mark hfind =>
    rintro n hn
    obtain rfl := List.mem_singleton.mp hn
    apply List.all_eq_true.mp hall _ (List.mem_of_find?_eq_some hfind)
  · apply List.forall_mem_nil

theorem isInert_of_emoji? {code emoji : List Char} (h : emoji? code = some emoji) :
  ∀ c ∈ emoji, isInert c = true
  := by
  obtain ⟨points, hlookup, rfl⟩ := Option.map_eq_some_iff.mp h
  obtain ⟨above, below, hnames, -⟩ := List.lookup_eq_some_iff.mp hlookup
  have hpoints : ∀ n ∈ points, isInert (Char.ofNat n) = true := by
    apply isInert_of_mem_emojiNames
    rw [hnames]
    apply List.mem_append_right above List.mem_cons_self
  intro c hc
  obtain ⟨n, hn, rfl⟩ := List.mem_map.mp hc
  rcases List.mem_append.mp hn with hn | hn
  · apply hpoints n hn
  · apply isInert_of_splitPresentation code n hn

/-- The emoji codes of a text; `code` holds, in reverse, what was read after a colon. -/
def codesFrom (code : Option (List Char)) : List Char → List (List Char)
  | [] => []
  | c :: rest =>
    match code with
    | none => if c = ':' then codesFrom (some []) rest else codesFrom none rest
    | some read =>
      if c = ':' then read.reverse :: codesFrom none rest
      else if isBlank c then codesFrom none rest
      else codesFrom (some (c :: read)) rest

/-- The emoji codes of a text: what stands between a colon and the next one, if it holds no blank
character.  A colon belongs to one code at most. -/
def codes (s : List Char) : List (List Char) := codesFrom none s

/-- What was read of a code so far, with its colon. -/
def opened (code : Option (List Char)) : List Char := code.elim [] fun read => ':' :: read.reverse

/-- A code with its colons. -/
def spelled (code : List Char) : List Char := ':' :: code ++ [':']

theorem shows_spelled (code : List Char) :
  Shows (spelled code) ((emoji? code).getD (spelled code))
  := by
  cases hemoji : emoji? code with
  | none => apply Shows.refl
  | some emoji =>
      have hinert := isInert_of_emoji? hemoji
      constructor
      · apply Or.inr
        rw [Option.getD_some, marks_of_isInert hinert]
        simp [marks, spelled, isMark]
      · intro c hc
        apply Or.inr (hinert c hc)

theorem getD_spelled_eq_iff (code : List Char) :
  (emoji? code).getD (spelled code) = spelled code ↔ emoji? code = none
  := by
  cases hemoji : emoji? code with
  | none => simp
  | some emoji =>
      have hne : emoji ≠ spelled code := by
        rintro rfl
        cases isInert_of_emoji? hemoji ':' List.mem_cons_self
      simpa using hne

theorem shows_replaceEmojiFrom (code : Option (List Char)) (s : List Char) :
  Shows (opened code ++ s) (replaceEmojiFrom code s)
  := by
  fun_induction codesFrom code s with
  | case1 code =>
      rw [replaceEmojiFrom, List.append_nil]
      apply Shows.refl
  | case2 rest ih => simpa [replaceEmojiFrom, opened] using ih
  | case3 c rest hc ih =>
      rw [replaceEmojiFrom]
      simp only [if_neg hc]
      apply (Shows.refl [c]).append ih
  | case4 rest read ih =>
      have happend := (shows_spelled read.reverse).append ih
      simpa [replaceEmojiFrom, opened, spelled] using happend
  | case5 c rest read hc hblank ih =>
      have happend := (Shows.refl (':' :: read.reverse ++ [c])).append ih
      simpa [replaceEmojiFrom, hc, hblank, opened] using happend
  | case6 c rest read hc hblank ih =>
      simpa [replaceEmojiFrom, hc, hblank, opened] using ih

/-- A text stays as it is exactly if none of its codes is known. -/
theorem replaceEmojiFrom_eq_iff (code : Option (List Char)) (s : List Char) :
  replaceEmojiFrom code s = opened code ++ s ↔ ∀ k ∈ codesFrom code s, emoji? k = none
  := by
  fun_induction codesFrom code s with
  | case1 code => simp [replaceEmojiFrom, opened]
  | case2 rest ih => simpa [replaceEmojiFrom, opened] using ih
  | case3 c rest hc ih => simpa [replaceEmojiFrom, hc, opened] using ih
  | case4 rest read ih =>
      have happend :=
        (shows_spelled read.reverse).append_eq_iff (shows_replaceEmojiFrom none rest)
      rw [getD_spelled_eq_iff, ih] at happend
      rw [List.forall_mem_cons, ← happend]
      simp [replaceEmojiFrom, opened, spelled]
  | case5 c rest read hc hblank ih => simpa [replaceEmojiFrom, hc, hblank, opened] using ih
  | case6 c rest read hc hblank ih => simpa [replaceEmojiFrom, hc, hblank, opened] using ih

/-! ### Stretches -/

/-- The text holds no backslash before a bracket, and none of its emoji codes is known. -/
structure IsPlainText (s : List Char) : Prop where
  noEscape : ¬['\\', '['] <:+: s
  noEmoji : ∀ code ∈ codes s, emoji? code = none

instance (s : List Char) : Decidable (IsPlainText s) :=
  decidable_of_iff (¬['\\', '['] <:+: s ∧ ∀ code ∈ codes s, emoji? code = none) <| by
    constructor
    · rintro ⟨noEscape, noEmoji⟩
      use noEscape
    · rintro ⟨noEscape, noEmoji⟩
      use noEscape

/-- The characters of a stretch that is no tag in force. -/
def Stretch.chars : Stretch → List Char
  | text s => s
  | tag _ => []

theorem Stretch.shows (x : Stretch) :
  Shows x.chars x.shown
  := by
  cases x with
  | text s => apply (shows_unescapeBrackets s).trans (shows_replaceEmojiFrom none _)
  | tag body => apply Shows.refl

theorem Stretch.shown_eq_iff (s : List Char) :
  (text s).shown = s ↔ IsPlainText s
  := by
  have htrans :=
    (shows_unescapeBrackets s).trans_eq_iff (shows_replaceEmojiFrom none (unescapeBrackets s))
  have hemoji := replaceEmojiFrom_eq_iff none (unescapeBrackets s)
  rw [opened, Option.elim_none, List.nil_append] at hemoji
  change replaceEmojiFrom none (unescapeBrackets s) = s ↔ _
  rw [htrans]
  constructor
  · rintro ⟨heq, hsame⟩
    constructor
    · apply (unescapeBrackets_eq_self_iff s).mp heq
    · rw [codes, ← heq]
      apply hemoji.mp hsame
  · rintro ⟨hescape, hnone⟩
    have heq := (unescapeBrackets_eq_self_iff s).mpr hescape
    use heq
    apply hemoji.mpr
    rw [heq]
    apply hnone

/-- The characters of a piece. -/
def Piece.chars : Piece → List Char
  | char c => [c]
  | tag n body => backslashes n ++ '[' :: (body ++ [']'])

theorem flatMap_chars_map_char (s : List Char) :
  (s.map Piece.char).flatMap Piece.chars = s
  := by
  induction s with
  | nil => rfl
  | cons c s ih => rw [List.map_cons, List.flatMap_cons, ih]; rfl

theorem flatMap_chars_piecesAfter (n : Nat) (s : List Char) :
  (piecesAfter n s).flatMap Piece.chars = backslashes n ++ s
  := by
  induction n, s using pieces_induction with
  | nil n => rw [piecesAfter, flatMap_chars_map_char, List.append_nil]
  | backslash n s ih =>
      rw [piecesAfter_backslash, ih, backslashes, List.replicate_succ', List.append_assoc]
      rfl
  | tag n body s hbody ih =>
      rw [piecesAfter_tag hbody, List.flatMap_cons, ih]
      simp [Piece.chars, backslashes]
  | bracket n s hnone ih =>
      rw [piecesAfter_bracket hnone, List.flatMap_append, List.flatMap_cons, ih,
        flatMap_chars_map_char]
      rfl
  | char n c s hslash hopen ih =>
      rw [piecesAfter_char hslash hopen, List.flatMap_append, List.flatMap_cons, ih,
        flatMap_chars_map_char]
      rfl

theorem flatMap_chars_pending (pending : List Char) :
  (Stretch.pending pending).flatMap Stretch.chars = pending.reverse
  := by
  cases pending with
  | nil => rfl
  | cons c pending => simp [Stretch.pending, Stretch.chars]

theorem flatMap_chars_stretches (pending : List Char) (ps : List Piece) :
  (stretches pending (ps.map Piece.plain)).flatMap Stretch.chars
    = pending.reverse ++ ps.flatMap Piece.chars
  := by
  induction ps generalizing pending with
  | nil => rw [List.map_nil, stretches, flatMap_chars_pending]; simp
  | cons p ps ih =>
      cases p with
      | char c =>
          rw [List.map_cons, Piece.plain, stretches, ih]
          simp [Piece.chars]
      | tag n body =>
          have htag : (Stretch.ofTag (2 * n + 1) body).flatMap Stretch.chars
              = Piece.chars (.tag n body) := by
            have hhalf : (2 * n + 1) / 2 = n := by omega
            have hodd : (2 * n + 1) % 2 = 1 := by omega
            rw [Stretch.ofTag, hhalf, if_pos hodd]
            cases n with
            | zero => simp [Stretch.chars, Piece.chars, backslashes]
            | succ n => simp [Stretch.chars, Piece.chars]
          rw [List.map_cons, Piece.plain, stretches, List.flatMap_append, List.flatMap_append,
            flatMap_chars_pending, htag, ih, List.flatMap_cons]
          simp

/-- The stretches of a text whose tags are plain: its tags, the backslashes before a tag, and what
is between tags. -/
def plainStretches (s : List Char) : List Stretch := stretches [] ((pieces s).map Piece.plain)

/-- What is shown of a text whose tags are plain. -/
def shownText (s : List Char) : List Char := (plainStretches s).flatMap Stretch.shown

theorem flatMap_chars_plainStretches (s : List Char) :
  (plainStretches s).flatMap Stretch.chars = s
  := by
  rw [plainStretches, flatMap_chars_stretches, pieces, flatMap_chars_piecesAfter]
  rfl

theorem shows_shownText (s : List Char) :
  Shows s (shownText s)
  := by
  have h := Shows.flatMap fun x (_ : x ∈ plainStretches s) => x.shows
  rwa [flatMap_chars_plainStretches] at h

/-- A text whose tags are plain is shown as it is exactly if each of its stretches is. -/
theorem shownText_eq_self_iff (s : List Char) :
  shownText s = s ↔ ∀ x, .text x ∈ plainStretches s → IsPlainText x
  := by
  have h := Shows.flatMap_eq_iff fun x (_ : x ∈ plainStretches s) => x.shows
  rw [flatMap_chars_plainStretches] at h
  rw [shownText, h]
  constructor
  · intro hall x hx
    apply (Stretch.shown_eq_iff x).mp (hall _ hx)
  · intro hall x hx
    cases x with
    | text x => apply (Stretch.shown_eq_iff x).mpr (hall x hx)
    | tag body => rfl

/-! ### Backslashes at the end -/

theorem codesFrom_eq_nil {s : List Char} (h : ':' ∉ s) (code : Option (List Char)) :
  codesFrom code s = []
  := by
  fun_induction codesFrom code s with
  | case1 => rfl
  | case2 rest => simp at h
  | case3 c rest hc ih => apply ih (List.not_mem_of_not_mem_cons h)
  | case4 rest read => simp at h
  | case5 c rest read hc hblank ih => apply ih (List.not_mem_of_not_mem_cons h)
  | case6 c rest read hc hblank ih => apply ih (List.not_mem_of_not_mem_cons h)

theorem replaceEmojiFrom_append {tail : List Char} (h : ':' ∉ tail) (code : Option (List Char))
    (s : List Char) :
  replaceEmojiFrom code (s ++ tail) = replaceEmojiFrom code s ++ tail
  := by
  fun_induction codesFrom code s with
  | case1 code =>
      have htail := (replaceEmojiFrom_eq_iff code tail).mpr (by simp [codesFrom_eq_nil h])
      simpa [replaceEmojiFrom, opened] using htail
  | case2 rest ih => simpa [replaceEmojiFrom] using ih
  | case3 c rest hc ih => simpa [replaceEmojiFrom, hc] using ih
  | case4 rest read ih => simp [replaceEmojiFrom, ih]
  | case5 c rest read hc hblank ih => simpa [replaceEmojiFrom, hc, hblank] using ih
  | case6 c rest read hc hblank ih => simpa [replaceEmojiFrom, hc, hblank] using ih

theorem unescapeBrackets_append {tail : List Char} (h : '[' ∉ tail) (s : List Char) :
  unescapeBrackets (s ++ tail) = unescapeBrackets s ++ tail
  := by
  fun_induction unescapeBrackets s with
  | case1 =>
      apply (unescapeBrackets_eq_self_iff tail).mpr
      intro hin
      apply h (hin.subset (by simp))
  | case2 rest ih =>
      rw [List.cons_append, List.cons_append, unescapeBrackets, ih]
      rfl
  | case3 c rest hc ih =>
      rw [List.cons_append, unescapeBrackets, ih]
      · rfl
      · -- The text after the character may be empty, but what follows it opens no bracket.
        rintro more rfl hmore
        cases rest with
        | nil =>
            apply h
            rw [List.nil_append] at hmore
            simp [hmore]
        | cons d rest =>
            obtain ⟨rfl, -⟩ := List.cons.inj hmore
            exact hc rest rfl rfl

theorem not_mem_backslashes {c : Char} (hc : c ≠ '\\') (m : Nat) :
  c ∉ backslashes m
  := fun h => hc (List.eq_of_mem_replicate h)

theorem flatMap_shown_pending (pending : List Char) :
  (Stretch.pending pending).flatMap Stretch.shown
    = replaceEmoji (unescapeBrackets pending.reverse)
  := by
  cases pending with
  | nil => rfl
  | cons c pending => simp [Stretch.pending, Stretch.shown]

theorem stretches_map_char (pending s : List Char) :
  stretches pending (s.map .char) = Stretch.pending (s.reverse ++ pending)
  := by
  induction s generalizing pending with
  | nil => rfl
  | cons c s ih =>
      rw [List.map_cons, stretches, ih, List.reverse_cons, List.append_assoc]
      rfl

/-- Backslashes at the end of markup are shown as they are. -/
theorem flatMap_shown_stretches_append (pending : List Char) (ps : List Piece) (m : Nat) :
  (stretches pending (ps ++ (backslashes m).map .char)).flatMap Stretch.shown
    = (stretches pending ps).flatMap Stretch.shown ++ backslashes m
  := by
  induction ps generalizing pending with
  | nil =>
      rw [List.nil_append, stretches_map_char, flatMap_shown_pending, stretches,
        flatMap_shown_pending, List.reverse_append, List.reverse_reverse,
        unescapeBrackets_append (not_mem_backslashes (by decide) m), replaceEmoji,
        replaceEmojiFrom_append (not_mem_backslashes (by decide) m), replaceEmoji]
  | cons p ps ih =>
      cases p with
      | char c => apply ih
      | tag n body =>
          simp only [List.cons_append, stretches, List.flatMap_append, ih, List.append_assoc]

theorem shownText_append_backslashes (s : List Char) (m : Nat) :
  shownText (s ++ backslashes m) = shownText s ++ backslashes m
  := by
  rw [shownText, plainStretches, pieces, piecesAfter_append_backslashes, List.map_append,
    map_plain_map_char, flatMap_shown_stretches_append]
  rfl

/-- What is shown of the tag that closes a style, behind `k` backslashes. -/
def closing (k : Nat) (style : List Char) : List Char :=
  (Stretch.ofTag k ('/' :: style)).flatMap Stretch.shown

theorem shown_eq_self {s : List Char} (hescape : ¬['\\', '['] <:+: s) (hcolon : ':' ∉ s) :
  (Stretch.text s).shown = s
  := by
  apply (Stretch.shown_eq_iff s).mpr
  use hescape
  rw [codes, codesFrom_eq_nil hcolon]
  apply List.forall_mem_nil

theorem closing_eq {style : List Char} (hstyle : IsStyle style) (k : Nat) :
  closing k style
    = backslashes (k / 2) ++ if k % 2 = 1 then '[' :: '/' :: (style ++ [']']) else []
  := by
  have hslashes : ∀ n, (Stretch.text (backslashes n)).shown = backslashes n := by
    intro n
    apply shown_eq_self _ (not_mem_backslashes (by decide) n)
    intro hin
    apply not_mem_backslashes (c := '[') (by decide) n (hin.subset (by simp))
  have htag : (Stretch.text ('[' :: '/' :: (style ++ [']']))).shown
      = '[' :: '/' :: (style ++ [']']) := by
    apply shown_eq_self
    · intro hin
      have hmem : '\\' ∈ '[' :: '/' :: (style ++ [']']) := hin.subset (by simp)
      have := hstyle.not_mem (c := '\\') (by decide)
      simp_all
    · have := hstyle.not_mem (c := ':') (by decide)
      simp [this]
  rw [closing, Stretch.ofTag, List.flatMap_append]
  congr 1
  · split
    · next hzero => rw [hzero]; rfl
    · rw [List.flatMap_singleton, hslashes]
  · split
    · rw [List.flatMap_singleton]
      apply htag
    · rfl

theorem marks_backslashes (m : Nat) :
  marks (backslashes m) = m
  := by
  rw [marks, backslashes, List.countP_replicate]
  rfl

theorem isInert_of_letter {c : Char} (h : 'a' ≤ c ∧ c ≤ 'z') :
  isInert c = true
  := by
  have hlow : 97 ≤ c.toNat := h.1
  have hhigh : c.toNat ≤ 122 := h.2
  have hcolon : c ≠ ':' := by
    rintro rfl
    exact absurd hlow (by decide)
  have hslash : c ≠ '\\' := by
    rintro rfl
    exact absurd hlow (by decide)
  simp [isInert, isMark, isControlCode, hcolon, hslash]
  omega

theorem isInert_of_mem_closing {style : List Char} (hstyle : IsStyle style) :
  ∀ c ∈ '[' :: '/' :: (style ++ [']']), isInert c = true
  := by
  intro c hc
  rcases List.mem_cons.mp hc with rfl | hc
  · decide
  · rcases List.mem_cons.mp hc with rfl | hc
    · decide
    · rcases List.mem_append.mp hc with hc | hc
      · apply isInert_of_letter (hstyle.isLetter_of_mem hc)
      · obtain rfl := List.mem_singleton.mp hc
        decide

section Closing

variable {style : List Char} (hstyle : IsStyle style) (m : Nat)
include hstyle

theorem closing_trailing_of_le_one (hm : m ≤ 1) :
  closing (trailing m) style = backslashes m
  := by
  obtain rfl | rfl : m = 0 ∨ m = 1 := by omega
  · rw [closing_eq hstyle]
    rfl
  · rw [closing_eq hstyle]
    rfl

/-- Two or more backslashes at the end of a text are read together with the tag that comes next. -/
theorem marks_closing_lt (hm : 1 < m) :
  marks (closing (trailing m) style) < m
  := by
  have htail : marks (if m % 2 = 1 then '[' :: '/' :: (style ++ [']']) else []) = 0 := by
    split
    · apply marks_of_isInert (isInert_of_mem_closing hstyle)
    · rfl
  rw [closing_eq hstyle, trailing, if_neg (by omega), marks_append, marks_backslashes, htail]
  omega

theorem shows_closing :
  Shows (backslashes m) (closing (trailing m) style)
  := by
  by_cases hm : m ≤ 1
  · rw [closing_trailing_of_le_one hstyle m hm]
    apply Shows.refl
  · constructor
    · apply Or.inr
      rw [marks_backslashes]
      apply marks_closing_lt hstyle m (by omega)
    · intro c hc
      rw [closing_eq hstyle] at hc
      rcases List.mem_append.mp hc with hc | hc
      · apply Or.inl
        obtain rfl := List.eq_of_mem_replicate hc
        apply List.mem_replicate.mpr ⟨by omega, rfl⟩
      · split at hc
        · apply Or.inr (isInert_of_mem_closing hstyle c hc)
        · cases hc

theorem closing_trailing_eq_iff :
  closing (trailing m) style = backslashes m ↔ m ≤ 1
  := by
  constructor
  · intro heq
    by_contra hm
    have hlt := marks_closing_lt hstyle m (by omega)
    rw [heq, marks_backslashes] at hlt
    omega
  · apply closing_trailing_of_le_one hstyle m

end Closing

/-! ### Lines without control characters -/

/-- Whether a text has no control characters but line feeds. -/
def hasNoControls (s : List Char) : Bool := s.all fun c => c == '\n' || !isControlCode c

theorem hasNoControls_iff {s : List Char} :
  hasNoControls s = true ↔ ∀ c ∈ s, c ≠ '\n' → isControlCode c = false
  := by
  rw [hasNoControls, List.all_eq_true]
  refine forall₂_congr fun c _ => ?_
  rw [Bool.or_eq_true, beq_iff_eq, Bool.not_eq_true', or_iff_not_imp_left]

section Lines

variable {s : List Char} (h : hasNoControls s = true)
include h

theorem dropControls_eq_self :
  dropControls s = s
  := by
  apply List.filter_eq_self.mpr
  intro c hc
  by_cases hlf : c = '\n'
  · rw [hlf]
    decide
  · have := hasNoControls_iff.mp h c hc hlf
    simp [isControlCode] at this
    simp
    omega

theorem plainLines_eq_splitLines :
  plainLines s = splitLines s
  := by
  have hlines : ∀ line ∈ splitLines s, expandTabs line = line := by
    intro line hline
    have htab : '\t' ∉ line := by
      intro hmem
      cases hasNoControls_iff.mp h '\t' (mem_of_mem_splitLines hline hmem) (by decide)
    rw [expandTabs, splitAt_eq_splitOn, List.splitOn_eq_singleton htab]
    rfl
  rw [plainLines, List.map_congr_left hlines, List.map_id']

end Lines

theorem flatMap_splitLines (s : List Char) :
  (splitLines s).flatMap (· ++ ['\n']) = s ++ ['\n']
  := by
  conv_rhs => rw [← joinLines_splitLines s]
  have hjoin : ∀ {lines : List (List Char)}, lines ≠ [] →
      lines.flatMap (· ++ ['\n']) = joinLines lines ++ ['\n'] := by
    intro lines hne
    induction lines using joinLines.induct with
    | case1 => contradiction
    | case2 line => simp [joinLines]
    | case3 line rest hrest ih => simp [joinLines_cons hrest, ih hrest]
  apply hjoin (splitLines_ne_nil s)

/-! ### Printing -/

/-- The text is printed as it is, escaped: it does not end in two backslashes, and its stretches are
plain text. -/
structure IsLiteral (s : List Char) : Prop where
  ends : ¬['\\', '\\'] <:+ s
  stretches : ∀ x, .text x ∈ plainStretches s → IsPlainText x

instance (s : List Char) : Decidable (IsLiteral s) :=
  decidable_of_iff (¬['\\', '\\'] <:+ s ∧ ∀ x ∈ plainStretches s, IsPlainText x.chars) <| by
    constructor
    · rintro ⟨ends, hall⟩
      use ends
      intro x hx
      apply hall (.text x) hx
    · rintro ⟨ends, hall⟩
      use ends
      intro x hx
      cases x with
      | text x => apply hall x hx
      | tag body =>
          have hnil : IsPlainText [] := by decide
          apply hnil

theorem isLiteral_append_backslashes_iff {s : List Char} (hs : s.getLast? ≠ some '\\') (m : Nat) :
  IsLiteral (s ++ backslashes m) ↔ shownText s = s ∧ m ≤ 1
  := by
  have hends : backslashes 2 <:+ s ++ backslashes m ↔ 2 ≤ m := backslashes_isSuffix_iff hs
  have hshown := shownText_eq_self_iff (s ++ backslashes m)
  rw [shownText_append_backslashes, List.append_left_inj] at hshown
  constructor
  · rintro ⟨hnot, hstretches⟩
    use hshown.mpr hstretches
    have := mt hends.mpr hnot
    omega
  · rintro ⟨heq, hm⟩
    constructor
    · intro hsuffix
      have := hends.mp hsuffix
      omega
    · apply hshown.mp heq

/-- A text without control characters is printed, escaped and between the tags of a style, and what
is printed is the text and a line feed exactly if it is literal. -/
theorem exists_printed_literal_iff {style : List Char} (hstyle : IsStyle style) {s : String}
    (hs : hasNoControls s.toList = true) :
  ∃ text, printed (String.ofList ('[' :: (style ++ [']'])) ++ escapeText s
      ++ String.ofList ('[' :: '/' :: (style ++ [']']))) = .ok text
    ∧ (text = s ++ "\n" ↔ IsLiteral s.toList)
  := by
  obtain ⟨front, m, hfront, hlast⟩ := exists_eq_append_backslashes s.toList
  have hplain : (([] : List Char).all fun c => c != '\\' && c != '[') = true := rfl
  have hrender := render_escape hstyle hplain hlast m
  rw [← hfront, List.map_nil, List.nil_append, List.flatMap_append, ← plainStretches, ← shownText,
    ← closing] at hrender
  have hshows := (shows_shownText front).append (shows_closing hstyle m)
  have hsame := (shows_shownText front).append_eq_iff (shows_closing hstyle m)
  rw [← hfront] at hshows hsame
  have hcontrol : hasNoControls (shownText front ++ closing (trailing m) style) = true := by
    apply hasNoControls_iff.mpr
    intro c hc hlf
    rcases hshows.mem_or_inert c hc with hc | hinert
    · apply hasNoControls_iff.mp hs c hc hlf
    · simp [isInert] at hinert
      apply hinert.2
  use String.ofList (shownText front ++ closing (trailing m) style ++ ['\n'])
  constructor
  · rw [printed, shown, String.toList_append, String.toList_append, String.toList_ofList,
      escapeText, String.toList_ofList, String.toList_ofList, hrender]
    change Except.ok (endLines (plainLines (dropControls _))) = _
    rw [dropControls_eq_self hcontrol, plainLines_eq_splitLines hcontrol, endLines,
      flatMap_splitLines]
  · rw [hfront, isLiteral_append_backslashes_iff hlast, ← closing_trailing_eq_iff hstyle, ← hsame,
      ← String.toList_inj, String.toList_ofList, String.toList_append]
    apply List.append_left_inj

end CommitPolicy.Console
