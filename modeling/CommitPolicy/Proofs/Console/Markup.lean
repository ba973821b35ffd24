import CommitPolicy.Console.Print
import CommitPolicy.Proofs.Console.Escape

/-!
# Escaped text in markup

Markup that puts an escaped text between the tags of a style can be printed, whatever the text is.
What it shows is shown stretch by stretch: the stretches of the text, its tags made plain, and then
the closing tag, which is in force or plain by the number of backslashes at the end of the text.
-/

namespace CommitPolicy.Console

/-! ### Styles -/

/-- The name of a style, in small letters. -/
structure IsStyle (style : List Char) : Prop where
  ne_nil : style ≠ []
  letters : (style.all fun c => 'a' ≤ c && c ≤ 'z') = true

section Style

variable {style : List Char} (h : IsStyle style)
include h

theorem IsStyle.isLetter_of_mem {c : Char} (hc : c ∈ style) :
  'a' ≤ c ∧ c ≤ 'z'
  := by simpa using List.all_eq_true.mp h.letters c hc

theorem IsStyle.not_mem {c : Char} (hc : ¬('a' ≤ c ∧ c ≤ 'z')) :
  c ∉ style
  := fun hmem => hc (h.isLetter_of_mem hmem)

theorem IsStyle.isTag :
  IsTag style ∧ IsTag ('/' :: style)
  := by
  have hopen : '[' ∉ style := h.not_mem (by decide)
  have hclose : ']' ∉ style := h.not_mem (by decide)
  constructor
  · refine ⟨?_, hopen, hclose⟩
    obtain ⟨c, rest, rfl⟩ := List.exists_cons_of_ne_nil h.ne_nil
    obtain ⟨hlow, hhigh⟩ := h.isLetter_of_mem List.mem_cons_self
    use c, rest, rfl
    simp [opensTag, hlow, hhigh]
  · refine ⟨⟨'/', style, rfl, rfl⟩, ?_, ?_⟩
    · simp [hopen]
    · simp [hclose]

theorem IsStyle.takeWhile_eq :
  style.takeWhile (· != '=') = style
  := by
  rw [List.takeWhile_eq_self_iff]
  intro c hc
  have hne : c ≠ '=' := by
    rintro rfl
    exact h.not_mem (by decide) hc
  simpa using hne

theorem IsStyle.applyTag_open (styles : List String) :
  applyTag styles style = .ok (styleName style :: styles)
  := by
  rw [applyTag.eq_def, h.takeWhile_eq]
  split
  · next name heq =>
    exfalso
    apply h.not_mem (c := '/') (by decide)
    exact List.mem_cons_self
  · rfl

/-- A closing tag closes the style that was opened last, if it is the same one. -/
theorem IsStyle.applyTag_close (styles : List String) :
  applyTag (styleName style :: styles) ('/' :: style) = .ok styles
  := by
  have hname : ('/' :: style).takeWhile (· != '=') = '/' :: style := by
    rw [List.takeWhile_cons_of_pos (by decide), h.takeWhile_eq]
  rw [applyTag.eq_def, hname]
  split
  · next name heq =>
    obtain ⟨-, rfl⟩ := List.cons.inj heq
    split
    · rfl
    · rw [closeStyle, if_pos rfl]
  · next hother => cases hother style rfl

end Style

/-! ### Stretches -/

/-- A stretch that is no tag in force. -/
def Stretch.IsText : Stretch → Prop
  | text _ => True
  | tag _ => False

/-- What is shown of a stretch. -/
def Stretch.shown : Stretch → List Char
  | text s => replaceEmoji (unescapeBrackets s)
  | tag _ => []

theorem isText_pending (pending : List Char) :
  ∀ x ∈ Stretch.pending pending, x.IsText
  := by
  rw [Stretch.pending]
  split
  · apply List.forall_mem_nil
  · rintro x hx
    obtain rfl := List.mem_singleton.mp hx
    trivial

theorem isText_ofTag {n : Nat} (hn : n % 2 = 1) (body : List Char) :
  ∀ x ∈ Stretch.ofTag n body, x.IsText
  := by
  rw [Stretch.ofTag, if_pos hn]
  intro x hx
  rcases List.mem_append.mp hx with hx | hx
  · split at hx
    · cases hx
    · obtain rfl := List.mem_singleton.mp hx
      trivial
  · obtain rfl := List.mem_singleton.mp hx
    trivial

theorem isText_stretches {ps : List Piece} (hps : ∀ p ∈ ps, p.IsPlain) (pending : List Char) :
  ∀ x ∈ stretches pending ps, x.IsText
  := by
  induction ps generalizing pending with
  | nil => apply isText_pending
  | cons p ps ih =>
      obtain ⟨hp, hrest⟩ := List.forall_mem_cons.mp hps
      cases p with
      | char c => apply ih hrest
      | tag n body =>
          rw [stretches]
          apply List.forall_mem_append.mpr ⟨_, ih hrest []⟩
          apply List.forall_mem_append.mpr ⟨isText_pending pending, isText_ofTag hp body⟩

/-- A tag ends the stretches before it. -/
theorem stretches_append_tag (pending : List Char) (ps : List Piece) (n : Nat) (body : List Char)
    (rest : List Piece) :
  stretches pending (ps ++ .tag n body :: rest)
    = stretches pending ps ++ (Stretch.ofTag n body ++ stretches [] rest)
  := by
  induction ps generalizing pending with
  | nil => rw [List.nil_append, stretches, stretches, List.append_assoc]
  | cons p ps ih =>
      cases p with
      | char c => apply ih
      | tag k tagged =>
          rw [List.cons_append, stretches, ih, stretches, List.append_assoc _ (stretches [] ps)]

/-! ### Rendering -/

theorem renderStretches_append {texts : List Stretch} (htexts : ∀ x ∈ texts, x.IsText)
    {styles : List String} {ss : List Stretch} {shown : List Char}
    (h : renderStretches styles ss = .ok shown) :
  renderStretches styles (texts ++ ss) = .ok (texts.flatMap Stretch.shown ++ shown)
  := by
  induction texts with
  | nil => apply h
  | cons x texts ih =>
      obtain ⟨hx, hrest⟩ := List.forall_mem_cons.mp htexts
      cases x with
      | tag body => cases hx
      | text s =>
          rw [List.cons_append, renderStretches, ih hrest, List.flatMap_cons, List.append_assoc]
          rfl

/-- Where a style is open, plain pieces are shown, and then a tag that closes it, be it in force or
plain. -/
theorem renderStretches_closed {style : List Char} (hstyle : IsStyle style) {ps : List Piece}
    (hps : ∀ p ∈ ps, p.IsPlain) (k : Nat) :
  renderStretches [styleName style] (stretches [] (ps ++ [.tag k ('/' :: style)]))
    = .ok ((stretches [] ps ++ Stretch.ofTag k ('/' :: style)).flatMap Stretch.shown)
  := by
  have hnil : stretches [] [] = [] := rfl
  have hend : ∀ styles, renderStretches styles [] = .ok [] := fun _ => rfl
  have htexts := isText_stretches hps []
  rw [stretches_append_tag, hnil, List.append_nil]
  by_cases hk : k % 2 = 1
  · have hrender := renderStretches_append
      (List.forall_mem_append.mpr ⟨htexts, isText_ofTag hk ('/' :: style)⟩)
      (hend [styleName style])
    rwa [List.append_nil, List.append_nil] at hrender
  · have hhalf : ∀ x ∈ (if k / 2 = 0 then [] else [Stretch.text (backslashes (k / 2))]),
        x.IsText := by
      intro x hx
      split at hx
      · cases hx
      · obtain rfl := List.mem_singleton.mp hx
        trivial
    have hclosed : renderStretches [styleName style] [.tag ('/' :: style)] = .ok [] := by
      rw [renderStretches, hstyle.applyTag_close]
      rfl
    have hrender := renderStretches_append (List.forall_mem_append.mpr ⟨htexts, hhalf⟩) hclosed
    rw [Stretch.ofTag, if_neg hk, ← List.append_assoc, hrender]
    simp [Stretch.shown]

/-- What is shown of a text that ends in `m` backslashes, escaped and behind some plain characters,
between the tags of a style. -/
theorem render_escape {style before : List Char} (hstyle : IsStyle style)
    (hbefore : (before.all fun c => c != '\\' && c != '[') = true) {s : List Char}
    (hs : s.getLast? ≠ some '\\') (m : Nat) :
  render ('[' :: (style ++ ']' :: before) ++ escape (s ++ backslashes m)
      ++ '[' :: '/' :: (style ++ [']']))
    = .ok ((stretches [] (before.map .char ++ (pieces s).map .plain)
      ++ Stretch.ofTag (trailing m) ('/' :: style)).flatMap Stretch.shown)
  := by
  obtain ⟨hopenTag, hcloseTag⟩ := hstyle.isTag
  have hplain : ∀ p ∈ before.map Piece.char ++ (pieces s).map Piece.plain, p.IsPlain := by
    intro p hp
    rcases List.mem_append.mp hp with hp | hp
    · obtain ⟨c, -, rfl⟩ := List.mem_map.mp hp
      trivial
    · obtain ⟨p, -, rfl⟩ := List.mem_map.mp hp
      apply p.isPlain_plain
  have hescaped : escape (s ++ backslashes m) ++ '[' :: '/' :: (style ++ [']'])
      = escapedAfter 0 s ++ tagAfter (trailing m) ('/' :: style) := by
    rw [escape_append_backslashes hs, List.append_assoc]
    rfl
  have hpieces : pieces ('[' :: (style ++ ']' :: before) ++ escape (s ++ backslashes m)
      ++ '[' :: '/' :: (style ++ [']']))
        = .tag 0 style :: (before.map .char ++ (pieces s).map .plain
          ++ [.tag (trailing m) ('/' :: style)]) := by
    rw [List.append_assoc, hescaped, pieces, List.cons_append, List.append_assoc, List.cons_append,
      piecesAfter_tag hopenTag, piecesAfter_append hbefore,
      piecesAfter_escapedAfter hcloseTag _ 0 s hs, List.append_assoc, pieces]
  rw [render, hpieces, stretches]
  change (applyTag [] style >>= fun styles => renderStretches styles _) = _
  rw [hstyle.applyTag_open]
  apply renderStretches_closed hstyle hplain

/-- Any text can be printed, escaped and behind some plain characters, between the tags of a
style. -/
theorem exists_printed_escapeText {style before : List Char} (hstyle : IsStyle style)
    (hbefore : (before.all fun c => c != '\\' && c != '[') = true) (s : String) :
  ∃ text, printed (String.ofList ('[' :: (style ++ ']' :: before)) ++ escapeText s
      ++ String.ofList ('[' :: '/' :: (style ++ [']']))) = .ok text
  := by
  obtain ⟨front, m, hfront, hlast⟩ := exists_eq_append_backslashes s.toList
  have hrender := render_escape hstyle hbefore hlast m
  rw [← hfront] at hrender
  rw [printed, shown, String.toList_append, String.toList_append, String.toList_ofList, escapeText,
    String.toList_ofList, String.toList_ofList, hrender]
  exact ⟨_, rfl⟩

end CommitPolicy.Console
