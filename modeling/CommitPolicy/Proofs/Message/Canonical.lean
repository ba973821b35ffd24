import CommitPolicy.Proofs.Message.Layout

/-!
# Canonical commits

A commit is canonical if its parts can be written on lines of their own: the parts of the header and
the footers are well formed and hold no line feed, the body neither starts nor ends in a blank line,
and where no footers follow it does not end in a footer line.

Reading the format of a canonical commit gives its type, scope, marker, subject, body and footers
back, unless the format holds a carriage return before a line feed.
-/

namespace CommitPolicy

open Text

/-! ### Lines without line feeds -/

theorem Header.not_mem_toLine {h : Header} (hw : h.WellFormed)
    (hscope : ∀ scope ∈ h.scope, '\n' ∉ scope) (hsubject : '\n' ∉ h.subject) :
  '\n' ∉ h.toLine ' '
  := by
  have htype : '\n' ∉ h.type := by
    intro hmem
    have := hw.type_chars '\n' hmem
    revert this
    decide
  have hscope' : '\n' ∉ scopeText h.scope := by
    cases hs : h.scope with
    | none => simp [scopeText]
    | some scope => simpa [scopeText] using hscope scope hs
  have hmarker : '\n' ∉ markerText h.marker := by
    cases h.marker with
    | false => decide
    | true => decide
  simp [toLine, htype, hscope', hmarker, hsubject]

theorem Footer.IsToken.not_mem {key : List Char} (hkey : IsToken key) :
  '\n' ∉ key
  := by
  intro hmem
  have := hkey.2 '\n' hmem
  revert this
  decide

theorem Footer.WellFormed.not_mem_toLine {f : Footer} (hf : f.WellFormed)
    (hvalue : '\n' ∉ f.value.toList) :
  '\n' ∉ f.toLine
  := by
  cases hf with
  | colon hkey =>
      rcases hkey with rfl | hkey
      · simpa [breakingKey] using hvalue
      · simpa [hkey.not_mem] using hvalue
  | numberSign hkey => simpa [hkey.not_mem] using hvalue

namespace Commit

theorem messageLines_eq {raw : String} {lines : List (List Char)} (hne : lines ≠ [])
    (hlf : ∀ line ∈ lines, '\n' ∉ line) (htrim : Trimmed lines)
    (hraw : unixNewlines raw.toList = joinLines lines) :
  messageLines raw = lines
  := by
  rw [messageLines, hraw, splitLines_joinLines hne hlf, htrim.trimsTo.trimBlankLines_eq]

/-! ### Canonical commits -/

/-- A commit whose parts can be written on lines of their own. -/
structure Canonical (c : Commit) : Prop where
  header : c.headerParts.WellFormed
  scope : ∀ scope ∈ c.headerParts.scope, '\n' ∉ scope
  subject : '\n' ∉ c.headerParts.subject
  body : Trimmed c.bodyLines
  footers : ∀ f ∈ c.footers, f.WellFormed
  values : ∀ f ∈ c.footers, '\n' ∉ f.value.toList
  last : c.footers = [] → Footer.EndsAbove c.bodyLines

instance (c : Commit) : Decidable c.Canonical :=
  decidable_of_iff (c.headerParts.WellFormed
      ∧ (∀ scope ∈ c.headerParts.scope, '\n' ∉ scope) ∧ '\n' ∉ c.headerParts.subject
      ∧ Trimmed c.bodyLines ∧ (∀ f ∈ c.footers, f.WellFormed)
      ∧ (∀ f ∈ c.footers, '\n' ∉ f.value.toList)
      ∧ (c.footers = [] → Footer.EndsAbove c.bodyLines)) <| by
    constructor
    · rintro ⟨header, scope, subject, body, footers, values, last⟩
      use header
    · rintro ⟨header, scope, subject, body, footers, values, last⟩
      use header

theorem not_mem_of_mem_bodyLines {c : Commit} {line : List Char} (h : line ∈ c.bodyLines) :
  '\n' ∉ line
  := by
  unfold bodyLines at h
  split at h
  · cases h
  · apply not_mem_of_mem_splitLines h

section Canonical

variable {c : Commit} (hc : c.Canonical)
include hc

theorem Canonical.body_ne_empty :
  c.body ≠ some ""
  := by
  intro hbody
  have := hc.body.head [] (by simp [bodyLines, hbody, splitLines, splitAt])
  cases this

/-- The lines of the format of a canonical commit. -/
theorem Canonical.toList_format :
  c.format.toList = joinLines (layout (c.headerParts.toLine ' ') c.bodyLines c.footers)
  := Commit.toList_format hc.body_ne_empty

theorem Canonical.not_mem_of_mem_layout :
  ∀ line ∈ layout (c.headerParts.toLine ' ') c.bodyLines c.footers, '\n' ∉ line
  := by
  apply forall_mem_layout
  · apply List.not_mem_nil
  · apply Header.not_mem_toLine hc.header hc.scope hc.subject
  · intro line hline
    apply not_mem_of_mem_bodyLines hline
  · intro f hf
    apply (hc.footers f hf).not_mem_toLine (hc.values f hf)

theorem Canonical.spells :
  c.headerParts.Spells ' ' (c.headerParts.toLine ' ')
  := ⟨hc.header, by decide, rfl⟩

/-- Reading the format of a canonical commit gives its parts. -/
theorem Canonical.parse_format (hpair : ¬HasReturnPair c.format.toList) :
  parse c.format
    = .ok (assemble c.headerParts c.bodyLines c.footers (TicketRef.extract c.format))
  := by
  have hraw : unixNewlines c.format.toList
      = joinLines (layout (c.headerParts.toLine ' ') c.bodyLines c.footers) := by
    rw [unixNewlines_eq_self hpair, hc.toList_format]
  have htrim : Trimmed (layout (c.headerParts.toLine ' ') c.bodyLines c.footers) :=
    trimmed_layout (Header.isBlankLine_toLine _ _) hc.body hc.footers
  apply parse_of_spells (messageLines_eq (List.cons_ne_nil _ _) hc.not_mem_of_mem_layout htrim hraw)
    hc.spells
  apply splitBody_layout hc.body hc.footers hc.last

end Canonical

theorem assemble_parts (c : Commit) (refs : List TicketRef) :
  assemble c.headerParts c.bodyLines c.footers refs
    = { c with
        breaking := c.breakingMarker || c.footers.any Footer.isBreaking
        malformedFooters :=
          (Footer.malformedLines (lastParagraph c.bodyLines)).map String.ofList
        ticketRefs := refs }
  := by
  have hscope : c.headerParts.scope.map String.ofList = c.scope := by
    rw [headerParts]
    cases c.scope with
    | none => rfl
    | some scope => simp
  have hbody : (if c.bodyLines.isEmpty then none else some (String.ofList (joinLines c.bodyLines)))
      = c.body := by
    rw [bodyLines]
    cases c.body with
    | none => rfl
    | some body => simp [joinLines_splitLines, splitLines_ne_nil]
  rw [assemble, hscope, hbody]
  simp [headerParts]

/-- Reading the format of a canonical commit gives the commit back, up to what is derived from the
text: whether it is breaking, the malformed footers of the body, and the references. -/
theorem parse_format_of_canonical {c : Commit} (hc : c.Canonical)
    (hpair : ¬HasReturnPair c.format.toList) :
  parse c.format
    = .ok { c with
        breaking := c.breakingMarker
          || c.footers.any fun f => f.normalizedKey == Footer.breakingKey
        malformedFooters :=
          (Footer.malformedLines (lastParagraph c.bodyLines)).map String.ofList
        ticketRefs := TicketRef.extract c.format }
  := by
  rw [hc.parse_format hpair, assemble_parts]
  rfl

/-- A commit whose scope is an open parenthesis, whose subject starts with a colon and whose body is
a footer line. -/
def colons : Commit where
  type := "a"
  scope := some "("
  breaking := false
  breakingMarker := false
  subject := ": #"
  body := some "R: b"
  footers := [⟨"BREAKING CHANGE", ": c", ": "⟩, ⟨"R", "1", " #"⟩]
  malformedFooters := []
  ticketRefs := []

theorem parse_format_colons :
  colons.Canonical ∧ ¬HasReturnPair colons.format.toList
    ∧ ∃ d, parse colons.format = .ok d ∧ d.scope = some "(" ∧ d.subject = ": #"
      ∧ d.body = some "R: b" ∧ d.footers = colons.footers ∧ d.breaking = true
  := by
  have hcanonical : colons.Canonical := by decide
  have hpair : ¬HasReturnPair colons.format.toList := by decide
  use hcanonical, hpair
  apply Exists.intro _ ⟨parse_format_of_canonical hcanonical hpair, rfl, rfl, rfl, rfl, rfl⟩

end Commit

end CommitPolicy
