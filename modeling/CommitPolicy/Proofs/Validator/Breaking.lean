import CommitPolicy.Proofs.Message.Breaking
import CommitPolicy.Proofs.Validator.Session

/-!
# Breaking changes that are not allowed

A validator whose configuration does not allow breaking changes accepts no message that declares one
where footers are looked for.  The memo of the validator may hold what any callers stored in it, and
a deadline may be set: a verdict that is valid is the one that is given without both.
-/

namespace CommitPolicy

open Text

/-! ### What the configuration decides -/

/-- A configuration that decides that a message is valid, and not by an ignore pattern, finds
nothing broken in it. -/
theorem Config.Decides.brokenRules_eq_nil {cfg : Config} {message : String} {verdict : Verdict}
    (h : cfg.Decides message verdict) (hvalid : verdict.valid = true)
    (hignored : verdict.ignored = false) :
  ∃ c, Commit.parse message = .ok c ∧ cfg.brokenRules c message = []
  := by
  cases h with
  | ignored => cases hignored
  | unreadable => cases hvalid
  | @read c violations _ hparse hnames =>
      obtain rfl : violations = [] := by simpa [Verdict.valid, Verdict.failed] using hvalid
      use c, hparse, hnames.symm

/-- Where breaking changes are not allowed, a commit that breaks no rule declares none, and its
footers are not malformed. -/
theorem breaking_eq_false_of_brokenRules_eq_nil {cfg : Config} {c : Commit} {message : String}
    (hforbidden : cfg.allowBreakingChanges = false) (h : cfg.brokenRules c message = []) :
  c.breaking = false ∧ c.malformedFooters = []
  := by
  have hadmits := Config.brokenRules_eq_nil_iff.mp h
  use hadmits.breaking hforbidden, hadmits.footers

namespace Validator

open SharedMemo

variable {O : Type}

/-- The policy of the validator was made of the configuration, and its memo, if it has one, is as
callers left it who validated messages with that policy, at the same time or not. -/
structure IsInUse [ReadingLimits] (v : Validator O) (cfg : Config) : Prop where
  rules : RuleSet.ofConfig cfg = .ok v.rules
  memo : ∀ memo ∈ v.memo, ∃ maxSize m s, Memo.make? maxSize = .ok m
    ∧ Reachable (Validates v.rules) m s ∧ s.memo = memo

section IsInUse

variable [ReadingLimits] {v : Validator O} {cfg : Config} (hv : v.IsInUse cfg)
include hv

/-- Every verdict in the memo is the one that is given without a memo. -/
theorem IsInUse.holds : ∀ memo ∈ v.memo,
  memo.Holds fun message verdict => verdict = v.rules.verdict message
  := by
  intro memo hmemo e he
  obtain ⟨maxSize, m, s, hm, hs, rfl⟩ := hv.memo memo hmemo
  have hrecorded := (hs.sound hm).1.recorded
  apply (eq_verdict_of_wasStored hv.rules hrecorded (hrecorded.entries e he)).1

/-- A validation gives the verdict without a memo and without a deadline, or says that time ran
out. -/
theorem IsInUse.eq_or_late {timing : Timing} (hfits : v.Fits timing) {message : String}
    {deadline : Option Deadline} {verdict : Verdict} {told : List (Notice O)} {w : Validator O}
    (hvalidate : v.validate message deadline timing = (.ok verdict, told, w)) :
  verdict = v.rules.verdict message ∨ verdict.timedOut = true ∧ verdict.valid = false
  := by
  obtain ⟨_, _, hread⟩ := RuleSet.exists_readFrom hv.rules
  obtain ⟨seconds, memo', -, hanswer, -, -⟩ := exists_answer_of_validate hvalidate
  have hfresh : v.rules.attempt message seconds timing.start (timing.course seconds) = .ok verdict →
      verdict = v.rules.verdict message ∨ verdict.timedOut = true ∧ verdict.valid = false := by
    intro hattempt
    obtain ⟨-, rfl⟩ := RuleSet.attempt_eq_ok_iff.mp hattempt
    rcases RuleSet.validate_eq_or_cutShort hread.inOrder (hfits seconds) message timing.start with
      heq | ⟨c, -, -, hcut⟩
    · apply Or.inl heq
    · exact .inr ⟨hcut.timedOut, hcut.invalid⟩
  cases hmemo : v.memo with
  | none =>
      rw [hmemo, answer] at hanswer
      apply hfresh (Prod.mk.inj hanswer).1
  | some memo =>
      rw [hmemo] at hanswer
      obtain ⟨stored, hget, henter⟩ | ⟨-, -, henter⟩ | ⟨-, -, henter⟩ :=
        Memo.enter_cases memo message
      · rw [answer, henter] at hanswer
        cases hanswer
        apply Or.inl ((hv.holds memo hmemo).of_get? hget)
      · simp only [answer, henter] at hanswer
        split at hanswer
        · cases hanswer
        · cases hanswer
          exact .inr ⟨rfl, rfl⟩
      · simp only [answer, henter] at hanswer
        apply hfresh (Prod.mk.inj hanswer).1

/-- A valid verdict is the one that the configuration decides. -/
theorem IsInUse.decides_of_valid {timing : Timing} (hfits : v.Fits timing) {message : String}
    {deadline : Option Deadline} {verdict : Verdict} {told : List (Notice O)} {w : Validator O}
    (hvalidate : v.validate message deadline timing = (.ok verdict, told, w))
    (hvalid : verdict.valid = true) :
  cfg.Decides message verdict
  := by
  rcases hv.eq_or_late hfits hvalidate with rfl | ⟨-, hinvalid⟩
  · apply RuleSet.decides_validate hv.rules (Course.finishes_inTurn _ _)
  · rw [hinvalid] at hvalid
    cases hvalid

end IsInUse

/-- A declaration of a breaking change that stands where footers are looked for makes the commit a
breaking one or is malformed.  So if breaking changes are not allowed, then in a message that is
valid, and not because it is ignored, there is no mark before the colon of the header, no footer
declares a breaking change, and neither does a line of the last paragraph of the body. -/
theorem no_breaking_change_accepted [ReadingLimits] {v : Validator O} {cfg : Config}
    (hv : v.IsInUse cfg)
    (hforbidden : cfg.allowBreakingChanges = false) {timing : Timing} (hfits : v.Fits timing)
    {message : String} {deadline : Option Deadline} {verdict : Verdict} {told : List (Notice O)}
    {w : Validator O} (hvalidate : v.validate message deadline timing = (.ok verdict, told, w))
    (hvalid : verdict.valid = true) (hignored : verdict.ignored = false) :
  (∀ (raw : String) (c : Commit) (line : List Char), Commit.parse raw = .ok c →
      c.IsWatched line → Footer.DeclaresBreaking line →
        c.breaking = true ∨ String.ofList line ∈ c.malformedFooters)
    ∧ ∃ c first above, Commit.parse message = .ok c
      ∧ Commit.messageLines message = first :: (above ++ c.footers.map fun f => f.format.toList)
      ∧ Header.IsLine first ∧ (∀ h gap, Header.Spells h gap first → h.marker = false)
      ∧ IsLongestSuffix Footer.IsLine (c.footers.map fun f => f.format.toList)
        (above ++ c.footers.map fun f => f.format.toList)
      ∧ TrimsTo above c.bodyLines
      ∧ IsLongestSuffix (fun line => isBlankLine line = false) (lastParagraph c.bodyLines)
        c.bodyLines
      ∧ ∀ line, c.IsWatched line → ¬Footer.DeclaresBreaking line
  := by
  refine ⟨fun _ _ _ hparse => Commit.breaking_or_malformed hparse, ?_⟩
  obtain ⟨c, hparse, hbroken⟩ :=
    (hv.decides_of_valid hfits hvalidate hvalid).brokenRules_eq_nil hvalid hignored
  obtain ⟨hbreaking, hformat⟩ := breaking_eq_false_of_brokenRules_eq_nil hforbidden hbroken
  obtain ⟨first, gap, above, hr⟩ := Commit.exists_readFrom hparse
  use c, first, above, hparse, hr.lines, ⟨_, _, hr.spells⟩
  refine ⟨?_, hr.isLongestSuffix, hr.body, isLongestSuffix_lastParagraph _, ?_⟩
  · intro h gap' hspells
    obtain ⟨rfl, -⟩ := hspells.unique hr.spells
    rw [hr.breaking_eq, Bool.or_eq_false_iff] at hbreaking
    apply hbreaking.1
  · intro line hwatched hdeclares
    rcases Commit.breaking_or_malformed hparse hwatched hdeclares with h | h
    · rw [hbreaking] at h
      cases h
    · rw [hformat] at h
      cases h

/-- A configuration that does not allow breaking changes. -/
def cautiousConfig : Config := { Config.default with allowBreakingChanges := false }

/-- A validator with the policy of that configuration and an empty memo. -/
def cautiousValidator : Validator Unit where
  rules := {
    types := Config.defaultTypes
    scopes := []
    scopeRequired := false
    maxSubjectLength := 72
    allowBreakingChanges := false
    requireJiraTicket := false
    requireTicketRef := false
    jiraTicketPattern := none
    jiraProjects := []
    ignorePatterns := []
    rules := [.type Config.defaultTypes, .subjectLength 72, .breakingNotAllowed, .footerFormat]
  }
  workers := 1
  memo := some (.empty none)
  deadline := none
  observers := []

/-- Rules that are taken in turn while no time passes. -/
def unhurriedly : Timing := ⟨0, 0, 0, fun _ => .inTurn fun _ => 0⟩

/-- The verdict of a validator without a deadline that has not been given a message. -/
theorem exists_validate_unhurriedly {v : Validator O} (hdeadline : v.deadline = none)
    (hmemo : ∀ memo ∈ v.memo, memo = .empty memo.maxSize) (message : String) :
  ∃ w, v.validate message none unhurriedly
    = (.ok (v.rules.verdict message), v.notices message (v.rules.verdict message), w)
  := by
  have hseconds := allowance_none_of_deadline_eq_none hdeadline
  have hattempt : v.rules.attempt message none unhurriedly.start (unhurriedly.course none)
      = .ok (v.rules.verdict message) := RuleSet.attempt_none _ _ _ _
  obtain ⟨memo, hanswer⟩ : ∃ memo, answer v.rules message none unhurriedly v.memo
      = (.ok (v.rules.verdict message), memo) := by
    cases hm : v.memo with
    | none => exact ⟨none, by rw [answer, hattempt]⟩
    | some memo =>
        rw [hmemo memo hm, answer, Memo.enter_of_get?_eq_none rfl List.not_mem_nil, hattempt]
        exact ⟨some _, rfl⟩
  exact ⟨_, validate_of_answer hseconds hanswer⟩

/-- A message in which only the last paragraph of the body and the footer line are looked at. -/
def veiled : String := "fix: x\n\nBREAKING-CHANGE: y\n\nbreaking changes: z\n\nRefs #1"

/-- The commit that is read from it. -/
def veiledCommit : Commit where
  type := "fix"
  scope := none
  breaking := false
  breakingMarker := false
  subject := "x"
  body := some "BREAKING-CHANGE: y\n\nbreaking changes: z"
  footers := [⟨"Refs", "1", " #"⟩]
  malformedFooters := []
  ticketRefs := [⟨.github, "1", "#1"⟩]

theorem no_breaking_change_accepted_veiled :
  cautiousValidator.IsInUse cautiousConfig ∧ cautiousConfig.allowBreakingChanges = false
    ∧ cautiousValidator.Fits unhurriedly
    ∧ (∃ verdict told w, cautiousValidator.validate veiled none unhurriedly
        = (.ok verdict, told, w) ∧ verdict.valid = true ∧ verdict.ignored = false)
    ∧ Commit.parse veiled = .ok veiledCommit
    ∧ veiledCommit.IsWatched "breaking changes: z".toList
    ∧ ¬Footer.DeclaresBreaking "breaking changes: z".toList
  := by
  have hv : cautiousValidator.IsInUse cautiousConfig := by
    constructor
    · rfl
    · rintro _ ⟨⟩
      use none, .empty none, start (.empty none), rfl, .refl
      rfl
  have hfits : cautiousValidator.Fits unhurriedly := fun _ => Int.le_refl 1
  have hparse : Commit.parse veiled = .ok veiledCommit := by decide
  have hverdict : cautiousValidator.rules.verdict veiled = .passed := by
    obtain ⟨_, _, hread⟩ := RuleSet.exists_readFrom hv.rules
    apply RuleSet.verdict_of_parse hread.inOrder rfl hparse
  have hempty : ∀ memo ∈ cautiousValidator.memo, memo = .empty memo.maxSize := by
    rintro _ ⟨⟩
    rfl
  obtain ⟨w, hvalidate⟩ := exists_validate_unhurriedly rfl hempty veiled
  rw [hverdict] at hvalidate
  have hwatched : veiledCommit.IsWatched "breaking changes: z".toList := .inr (by decide)
  obtain ⟨-, c, first, above, hread, -, -, -, -, -, -, hnone⟩ :=
    no_breaking_change_accepted hv rfl hfits hvalidate rfl rfl
  obtain rfl := Except.ok.inj (hparse.symm.trans hread)
  exact ⟨hv, rfl, hfits, ⟨_, _, _, hvalidate, rfl, rfl⟩, hparse, hwatched, hnone _ hwatched⟩

end Validator

end CommitPolicy
