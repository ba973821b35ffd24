import CommitPolicy.Proofs.Message.Attempt
import CommitPolicy.Proofs.Message.Breaking
import CommitPolicy.Proofs.Message.Reference
import CommitPolicy.Proofs.Text.OneLine

/-!
# Parts of a message that are quoted

The parts of a message that a rule or an error quotes come from single lines of the message, or are
ticket references.  So they hold no line feed, whatever the message is.
-/

namespace CommitPolicy

open Text

namespace TicketRef

/-- The identifier and the project of a key hold no line feed. -/
theorem oneLine_of_mem_extract {s : String} {r : TicketRef} (hr : r ∈ extract s)
    (hkind : r.kind ≠ .github) :
  OneLine r.id ∧ ∀ project ∈ r.project, OneLine project
  := by
  obtain ⟨numbers, bracketed, bare, hholds⟩ := exists_holds s
  obtain ⟨key, ds, hkey, hds, hproject, hid⟩ := hholds.project_eq hr hkind
  have hticket : '\n' ∉ ticketId key ds := by
    intro h
    rcases cases_of_mem_ticketId hkey hds h with h | h | h
    · revert h
      decide
    · cases h
    · revert h
      decide
  rw [hid, hproject, oneLine_ofList]
  use hticket
  rintro _ ⟨⟩
  rw [oneLine_ofList]
  intro h
  apply hticket (List.mem_append_left _ h)

end TicketRef

namespace Commit

/-- No part of the commit that a rule quotes holds a line feed. -/
structure IsOneLine (c : Commit) : Prop where
  type : OneLine c.type
  scope : ∀ scope ∈ c.scope, OneLine scope
  subject : OneLine c.subject
  malformedFooters : ∀ line ∈ c.malformedFooters, OneLine line
  tickets : ∀ r ∈ c.ticketRefs, r.kind ≠ .github →
    OneLine r.id ∧ ∀ project ∈ r.project, OneLine project

section Parse

variable {raw : String} {c : Commit}

theorem ReadFrom.oneLine_malformedFooters {first : List Char} {gap : Char}
    {above : List (List Char)} (hr : c.ReadFrom raw first gap above) :
  ∀ line ∈ c.malformedFooters, OneLine line
  := by
  rw [hr.malformedFooters_eq, List.forall_mem_map]
  intro line hline
  rw [oneLine_ofList]
  have hparagraph : line ∈ lastParagraph c.bodyLines := by
    rcases Footer.mem_malformedLines_iff.mp hline with ⟨h, -⟩ | ⟨h, -⟩
    · apply h
    · apply List.mem_of_getLast? h
  have hbody := (isLongestSuffix_lastParagraph c.bodyLines).isSuffix.subset hparagraph
  apply @not_mem_of_mem_messageLines raw
  simp [hr.lines, hr.body.subset hbody]

theorem isOneLine_of_parse (h : parse raw = .ok c) :
  c.IsOneLine
  := by
  obtain ⟨first, gap, above, hr⟩ := exists_readFrom h
  have hcanonical := hr.canonical
  constructor
  · intro hmem
    have htype := hcanonical.header.type_chars '\n' hmem
    revert htype
    decide
  · intro scope hscope
    apply hcanonical.scope scope.toList
    rw [headerParts, Option.mem_def.mp hscope]
    rfl
  · apply hcanonical.subject
  · apply hr.oneLine_malformedFooters
  · have hrefs : c.ticketRefs = TicketRef.extract raw := by
      rw [hr.eq_assemble]
      rfl
    rw [hrefs]
    intro r hmem
    apply TicketRef.oneLine_of_mem_extract hmem

end Parse

end Commit

namespace ParseError

variable {e : ParseError}

/-- A parse error quotes the header, and nothing else of the message. -/
theorem oneLine_description (h : ∀ header, e = .malformedHeader header → OneLine header) :
  OneLine e.description
  := by
  unfold description
  split
  · apply OneLine.literal (by decide)
  · next header =>
    apply OneLine.append _ (.literal (by decide))
    apply OneLine.append _ (h header rfl)
    exact (OneLine.literal (by decide)).append (.literal (by decide))
  · apply OneLine.literal (by decide)

theorem oneLine_message (h : OneLine e.description) :
  OneLine e.message
  := by
  unfold message
  split
  · apply OneLine.append _ (.literal (by decide))
    apply OneLine.append _ (oneLine_natText _)
    apply h.append (.literal (by decide))
  · apply h

end ParseError

theorem Commit.oneLine_message_of_parse {raw : String} {e : ParseError} (h : parse raw = .error e) :
  OneLine e.message
  := by
  apply ParseError.oneLine_message
  apply ParseError.oneLine_description
  rintro header rfl
  obtain ⟨first, below, hlines, hfirst⟩ := (parse_eq_malformedHeader_iff raw).mp ⟨header, h⟩
  rw [parse_of_not_isLine hlines hfirst] at h
  obtain rfl := ParseError.malformedHeader.inj (Except.error.inj h)
  rw [oneLine_ofList]
  apply @not_mem_of_mem_messageLines raw
  simp [hlines]

end CommitPolicy
