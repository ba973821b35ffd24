import CommitPolicy.Proofs.CommandLine.Showing
import CommitPolicy.Proofs.Validator.BatchRuns

/-!
# Reports count each commit once

A report has one check for each record, in order, with an answer to its message.  The four counts
add up to the number of checks, because the flags of an answer exclude each other: a message that is
skipped is valid and did not run out of time, and one that ran out of time is not valid.
-/

namespace CommitPolicy

open Validator

/-! ### The flags of a verdict -/

/-- The flags of a verdict exclude each other. -/
structure Verdict.Coherent (x : Verdict) : Prop where
  skipped : x.ignored = true → x.valid = true ∧ x.timedOut = false
  inconclusive : x.timedOut = true → x.valid = false

/-- Then it counts in one way. -/
theorem Verdict.Coherent.counted_once {x : Verdict} (h : x.Coherent) :
  (if x.valid && !x.ignored then 1 else 0) + (if x.ignored then 1 else 0)
    + (if !x.valid && !x.timedOut then 1 else 0) + (if x.timedOut then 1 else 0) = 1
  := by
  have hskipped := h.skipped
  have hinconclusive := h.inconclusive
  revert hskipped hinconclusive
  generalize x.valid = valid
  cases valid <;> cases x.ignored <;> cases x.timedOut <;> decide

theorem RuleSet.coherent_judge (rs : RuleSet) (c : Commit) (message : String)
    (seconds : Option Float) (done : List Nat) :
  (rs.judge c message seconds done).Coherent
  := by
  unfold judge
  dsimp only
  split
  · constructor
    · rintro ⟨⟩
    · intro _
      simp [Verdict.valid, Verdict.inconclusive]
  · split
    · constructor
      · rintro ⟨⟩
      · rintro ⟨⟩
    · constructor
      · rintro ⟨⟩
      · rintro ⟨⟩

/-- Whatever a message is, and however the rules are run. -/
theorem RuleSet.coherent_validate (rs : RuleSet) (message : String) (seconds : Option Float)
    (start : Float) (course : Course) :
  (rs.validate message seconds start course).Coherent
  := by
  unfold validate
  split
  · constructor
    · intro _
      exact ⟨rfl, rfl⟩
    · rintro ⟨⟩
  · split
    · constructor
      · rintro ⟨⟩
      · rintro ⟨⟩
    · apply coherent_judge

theorem Validator.Answers.coherent {rs : RuleSet} {seconds : Option Float} {message : String}
    {verdict : Verdict} (h : Answers rs seconds message verdict) :
  verdict.Coherent
  := by
  cases h with
  | judged _ hattempt =>
      rw [← (RuleSet.attempt_eq_ok_iff.mp hattempt).2]
      apply RuleSet.coherent_validate
  | stored => apply RuleSet.coherent_validate
  | gaveUp =>
      constructor
      · rintro ⟨⟩
      · intro _
        rfl

/-! ### Counts -/

namespace RangeReport

variable {r : RangeReport}

section Coherent

variable (h : ∀ c ∈ r.checks, c.verdict.Coherent)
include h

theorem total_eq :
  r.total = r.passed + r.skipped + r.failed + r.inconclusive
  := by
  obtain ⟨range, checks⟩ := r
  induction checks with
  | nil => rfl
  | cons c rest ih =>
      have honce := (h c List.mem_cons_self).counted_once
      have hrest := ih fun c' hc' => h c' (List.mem_cons_of_mem c hc')
      simp only [total, passed, skipped, failed, inconclusive, List.countP_cons,
        List.length_cons] at hrest ⊢
      omega

theorem failures_eq :
  r.failures = r.checks.filter fun c =>
    (!c.verdict.valid && !c.verdict.timedOut) || c.verdict.timedOut
  := by
  apply List.filter_congr
  intro c hc
  have hinconclusive := (h c hc).inconclusive
  cases htime : c.verdict.timedOut with
  | true => simp [hinconclusive htime]
  | false => simp

theorem ok_iff :
  r.ok = true ↔ ∀ c ∈ r.checks, c.verdict.valid = true
  := by
  simp only [ok, failed, inconclusive, Bool.and_eq_true, beq_iff_eq, List.countP_eq_zero]
  constructor
  · rintro ⟨hfailed, htime⟩ c hc
    have hnotFailed := hfailed c hc
    have hnotLate := htime c hc
    simpa [hnotLate] using hnotFailed
  · intro hvalid
    constructor
    · intro c hc
      simp [hvalid c hc]
    · intro c hc htime
      have hinvalid := (h c hc).inconclusive htime
      rw [hvalid c hc] at hinvalid
      cases hinvalid

end Coherent

/-- The report with these verdicts on the messages of the records. -/
def ofVerdicts (range : String) (records : List CommitRecord) (verdicts : List Verdict) :
    RangeReport :=
  ⟨range, (records.zip verdicts).map fun (record, verdict) => ⟨record, verdict⟩⟩

theorem verdicts_ofVerdicts (range : String) {records : List CommitRecord} {verdicts : List Verdict}
    (h : verdicts.length ≤ records.length) :
  (ofVerdicts range records verdicts).checks.map (·.verdict) = verdicts
  := by
  rw [ofVerdicts, List.map_map]
  apply List.map_snd_zip h

/-- There is one check for each record, in order, with an answer to its message; each check is
counted once; the failures are the checks that are counted as failed or inconclusive, in order; and
the report is all right exactly if every verdict is valid. -/
structure Covers (r : RangeReport) (rs : RuleSet) (seconds : Option Float)
    (records : List CommitRecord) : Prop where
  records : r.checks.map (·.record) = records
  answers : ∀ c ∈ r.checks, Answers rs seconds c.record.message c.verdict
  total : r.total = r.passed + r.skipped + r.failed + r.inconclusive
  failures : r.failures = r.checks.filter fun c =>
    (!c.verdict.valid && !c.verdict.timedOut) || c.verdict.timedOut
  ok : r.ok = true ↔ ∀ c ∈ r.checks, c.verdict.valid = true

/-- So it is if the verdicts are answers. -/
theorem covers_ofVerdicts {rs : RuleSet} {seconds : Option Float} {records : List CommitRecord}
    {verdicts : List Verdict} (range : String)
    (h : List.Forall₂ (Answers rs seconds) (records.map (·.message)) verdicts) :
  (ofVerdicts range records verdicts).Covers rs seconds records
  := by
  have hanswers : ∀ c ∈ (ofVerdicts range records verdicts).checks,
      Answers rs seconds c.record.message c.verdict := by
    intro c hc
    obtain ⟨⟨record, verdict⟩, hmem, rfl⟩ := List.mem_map.mp hc
    apply List.forall₂_zip (List.forall₂_map_left_iff.mp h) hmem
  have hcoherent : ∀ c ∈ (ofVerdicts range records verdicts).checks, c.verdict.Coherent :=
    fun c hc => (hanswers c hc).coherent
  constructor
  · have hlength : records.length ≤ verdicts.length := by
      simpa using h.length_eq.le
    rw [ofVerdicts, List.map_map]
    apply List.map_fst_zip hlength
  · apply hanswers
  · apply total_eq hcoherent
  · apply failures_eq hcoherent
  · apply ok_iff hcoherent

end RangeReport

/-! ### Reports of a validator -/

namespace Validator

variable {O : Type} {v : Validator O} {cfg : Config}

/-- The report is made of the verdicts on the messages one after the other. -/
theorem checkRange_of_validateAll {timing : Timing} {records : List CommitRecord}
    {verdicts : List Verdict} {told : List (Notice O)} {w : Validator O}
    (h : v.validateAll timing (records.map (·.message)) = (.ok verdicts, told, w))
    (range : String) :
  v.checkRange timing range records = (.ok (.ofVerdicts range records verdicts), told, w)
  := by
  rw [checkRange, h]
  rfl

/-- A report that is made of messages one after the other, unless one of them would have to wait for
too long. -/
theorem checkRange_comesTo [ReadingLimits] (hv : v.Used cfg) {seconds : Option Float}
    (hseconds : v.allowance none = .ok seconds) {timing : Timing} (hfits : v.Fits timing)
    (range : String) (records : List CommitRecord) (concurrency : Int) :
  (∃ verdicts told w, v.checkRange timing range records
      = (.ok (.ofVerdicts range records verdicts), told, w)
    ∧ v.ComesTo (records.map (·.message)) seconds concurrency verdicts w.memo)
    ∨ ∃ record ∈ records, MayRefuse v.rules record.message seconds timing
      ∧ ∃ told w, v.checkRange timing range records = (.error .overflow, told, w)
  := by
  rcases validateAll_comesTo hv hseconds hfits (records.map (·.message)) concurrency with
    ⟨verdicts, told, w, hall, hcomes⟩ | ⟨message, hmessage, hrefused, told, w, hall⟩
  · exact .inl ⟨verdicts, told, w, checkRange_of_validateAll hall range, hcomes⟩
  · obtain ⟨record, hrecord, rfl⟩ := List.mem_map.mp hmessage
    refine .inr ⟨record, hrecord, hrefused, told, w, ?_⟩
    rw [checkRange, hall]
    rfl

/-- A validator with a deadline that is no number of seconds makes no report, unless there is
nothing to validate. -/
theorem checkRange_of_allowance_error {e : Failure} (h : v.allowance none = .error e)
    (timing : Timing) (range : String) {records : List CommitRecord} (hrecords : records ≠ []) :
  v.checkRange timing range records = (.error e, [], v)
  := by
  obtain ⟨record, rest, rfl⟩ := List.exists_cons_of_ne_nil hrecords
  have hvalidate : v.validate record.message none timing = (.error e, [], v) := by
    rw [validate, h]
  rw [checkRange, List.map_cons, validateAll, hvalidate]
  rfl

/-- The observers are told of verdicts that are returned, and nobody else is told anything. -/
theorem mem_told_of_validateAll {timing : Timing} {messages : List String}
    {verdicts : List Verdict} {told : List (Notice O)} {w : Validator O}
    (h : v.validateAll timing messages = (.ok verdicts, told, w)) {notice : Notice O}
    (hnotice : notice ∈ told) :
  notice.1 ∈ v.observers
    ∧ ∃ message, ∃ verdict ∈ verdicts, notice.2 ∈ v.rules.events message verdict
  := by
  induction messages generalizing v verdicts told with
  | nil =>
      cases h
      cases hnotice
  | cons message rest ih =>
      rcases hfirst : v.validate message none timing with ⟨_ | verdict, toldFirst, next⟩
      · simp only [validateAll, hfirst] at h
        cases h
      · obtain ⟨_, memo, -, -, rfl, rfl⟩ := exists_answer_of_validate hfirst
        rcases hrest : Validator.validateAll { v with memo } timing rest with
          ⟨_ | verdictsRest, toldRest, last⟩
        · simp only [validateAll, hfirst, hrest] at h
          cases h
        · simp only [validateAll, hfirst, hrest] at h
          cases h
          rcases List.mem_append.mp hnotice with hnow | hlater
          · obtain ⟨o, ho, hmem⟩ := List.mem_flatMap.mp hnow
            obtain ⟨event, hevent, rfl⟩ := List.mem_map.mp hmem
            exact ⟨ho, message, verdict, List.mem_cons_self, hevent⟩
          · obtain ⟨ho, message', verdict', hverdict', hevent⟩ := ih hrest hlater
            exact ⟨ho, message', verdict', List.mem_cons_of_mem verdict hverdict', hevent⟩

end Validator

/-- A verdict for which time did not run out is not told as one that was late. -/
theorem RuleSet.ne_timedOut_of_mem_events {rs : RuleSet} {message : String} {verdict : Verdict}
    (h : verdict.timedOut = false) {e : Event} (he : e ∈ rs.events message verdict)
    (message' : String) (verdict' : Verdict) :
  e ≠ .timedOut message' verdict'
  := by
  rintro rfl
  simp [events, h] at he

open CommandLine

section MakesReport

variable [ReadingLimits] {s : Setup} {i : Invocation} {query : RangeQuery} {directory : Path}
  {files : FileTree} {c : Config} {report : RangeReport} {told : List (Notice Observer)}
  {e : Effects}
  (h : MakesReport s i query directory files c report told e)
include h

/-- A check makes a report of the records of the repository, with the verdicts on their messages,
and finds what these verdicts tell the observers. -/
theorem exists_of_makesReport :
  ∃ v records verdicts w, IsBuilt s i.verbose c v ∧ s.repository.collect query = .ok records
    ∧ v.validateAll (v.rules.standstill v.workers) (records.map (·.message))
      = (.ok verdicts, told, w)
    ∧ report = .ofVerdicts query.range records verdicts
    ∧ List.Forall₂ (Answers v.rules none) (records.map (·.message)) verdicts
  := by
  obtain ⟨source, -, hmake⟩ := h
  obtain ⟨v, records, w, hbuilt, hcollect, hcheck⟩ := exists_of_makeReport hmake
  have hused : v.Used c := by
    use hbuilt.rules
    rw [hbuilt.memo]
    rintro m ⟨⟩
  have hfits : v.Fits (v.rules.standstill v.workers) := by
    intro seconds
    rw [hbuilt.workers]
    apply Int.le_refl 1
  obtain ⟨verdicts, told', w', hall, hcomes⟩ :=
    validateAll_comesTo_of_deadline_eq_none hused hbuilt.deadline hfits (records.map (·.message)) 1
  rw [checkRange_of_validateAll hall] at hcheck
  cases hcheck
  exact ⟨v, records, verdicts, w, hbuilt, hcollect, hall, rfl, hcomes.answers hused⟩

/-- In short, and if no log is kept, a report in which every verdict is valid is shown. -/
theorem succeeds_showReport_of_makesReport (hverbose : i.verbose = false)
    (hlog : c.logPath s.clock.fileName = none)
    (hvalid : ∀ x ∈ report.checks, x.verdict.valid = true) :
  (showReport s i.verbose c report told).Succeeds
  := by
  obtain ⟨v, records, verdicts, w, hbuilt, -, hall, rfl, hanswers⟩ := exists_of_makesReport h
  have hcovers := RangeReport.covers_ofVerdicts query.range hanswers
  have hlength : verdicts.length ≤ records.length := by
    simpa using hanswers.length_eq.ge
  rw [hverbose]
  apply succeeds_showReport hvalid
  intro notice hnotice
  obtain ⟨hobserver, message, verdict, hverdict, hevent⟩ := mem_told_of_validateAll hall hnotice
  rw [← RangeReport.verdicts_ofVerdicts query.range hlength] at hverdict
  obtain ⟨x, hx, rfl⟩ := List.mem_map.mp hverdict
  have htime : x.verdict.timedOut = false := by
    rw [Bool.eq_false_iff]
    intro hlate
    have hinvalid := (hcovers.answers x hx).coherent.inconclusive hlate
    rw [hvalid x hx] at hinvalid
    cases hinvalid
  constructor
  · simpa [hbuilt.observers, hlog, hverbose] using hobserver
  · apply RuleSet.ne_timedOut_of_mem_events htime hevent

end MakesReport

/-- Whatever the default deadline of a validator is, in whatever order the messages of the records
of a range are validated, and however many at a time, the report has one check for each record, with
an answer to its message.  The counts add up, the failures are the checks that are counted as
failed or inconclusive, and the report is all right exactly if every verdict is valid.  There is
such a report unless a message would have to be waited for longer than is possible, or the deadline
is too large; without a deadline there is one.

A check of a range on the command line ends with exit code zero exactly if it makes such a report,
in which every verdict is valid, and showing the report does not fail.  In short and without a log
showing it does not fail. -/
theorem report_covers_range [ReadingLimits] {O : Type} {v : Validator O} {cfg : Config}
    (hv : v.Used cfg) (range : String) (records : List CommitRecord) (concurrency : Int) :
  (∀ seconds, v.allowance none = .ok seconds →
    (∀ verdicts memo, v.ComesTo (records.map (·.message)) seconds concurrency verdicts memo →
      (RangeReport.ofVerdicts range records verdicts).Covers v.rules seconds records)
    ∧ ∀ timing, v.Fits timing →
      (∃ verdicts told w, v.checkRange timing range records
          = (.ok (.ofVerdicts range records verdicts), told, w)
        ∧ v.ComesTo (records.map (·.message)) seconds concurrency verdicts w.memo)
      ∨ ∃ record ∈ records, MayRefuse v.rules record.message seconds timing
        ∧ ∃ told w, v.checkRange timing range records = (.error .overflow, told, w))
  ∧ (∀ e timing, v.allowance none = .error e → records ≠ [] →
    v.checkRange timing range records = (.error e, [], v))
  ∧ (v.deadline = none →
    (∀ m ∈ v.memo, (v.batch (records.map (·.message)) none concurrency).Ends m)
    ∧ ∀ timing, v.Fits timing → ∃ report told w,
      v.checkRange timing range records = (.ok report, told, w)
        ∧ report.Covers v.rules none records)
  ∧ ∀ (s : Setup) (i : Invocation) (query : RangeQuery) (directory : Path) (files : FileTree),
    (((checkRange s i query directory).outcome files).exitCode = 0
      ↔ ∃ c report told e, MakesReport s i query directory files c report told e
        ∧ (∀ x ∈ report.checks, x.verdict.valid = true)
        ∧ ∃ e', (showReport s i.verbose c report told).result e = (.ok (), e'))
    ∧ ∀ c report told e, MakesReport s i query directory files c report told e →
      (∃ rs records, RuleSet.ofConfig c = .ok rs ∧ s.repository.collect query = .ok records
        ∧ report.Covers rs none records)
      ∧ (i.verbose = false → c.logPath s.clock.fileName = none →
        (∀ x ∈ report.checks, x.verdict.valid = true) →
          (showReport s i.verbose c report told).Succeeds)
  := by
  have hcovers : ∀ seconds verdicts memo,
      v.ComesTo (records.map (·.message)) seconds concurrency verdicts memo →
        (RangeReport.ofVerdicts range records verdicts).Covers v.rules seconds records := by
    intro seconds verdicts memo h
    apply RangeReport.covers_ofVerdicts range (h.answers hv)
  have hmade : ∀ {s : Setup} {i : Invocation} {query : RangeQuery} {directory : Path}
      {files : FileTree} {c report told e}, MakesReport s i query directory files c report told e →
        ∃ rs records, RuleSet.ofConfig c = .ok rs ∧ s.repository.collect query = .ok records
          ∧ report.Covers rs none records := by
    intro s i query directory files c report told e h
    obtain ⟨v, records, verdicts, w, hbuilt, hcollect, -, rfl, hanswers⟩ := exists_of_makesReport h
    exact ⟨v.rules, records, hbuilt.rules, hcollect,
      RangeReport.covers_ofVerdicts query.range hanswers⟩
  refine ⟨?_, ?_, ?_, ?_⟩
  · intro seconds hseconds
    use hcovers seconds
    intro timing hfits
    apply checkRange_comesTo hv hseconds hfits
  · intro e timing hallowance hrecords
    apply checkRange_of_allowance_error hallowance timing range hrecords
  · intro hdeadline
    constructor
    · intro m hm
      apply Batch.Ends.of_atRest hv.rules (hv.atRest hm) (v.batch_limit_pos _ _ _)
    · intro timing hfits
      obtain ⟨verdicts, told, w, hall, hcomes⟩ :=
        validateAll_comesTo_of_deadline_eq_none hv hdeadline hfits (records.map (·.message))
          concurrency
      exact ⟨_, told, w, checkRange_of_validateAll hall range,
        hcovers none verdicts w.memo hcomes⟩
  · intro s i query directory files
    constructor
    · rw [exitCode_checkRange]
      constructor
      · rintro ⟨c, report, told, e, h, hok, hshow⟩
        obtain ⟨_, _, -, -, hreport⟩ := hmade h
        exact ⟨c, report, told, e, h, hreport.ok.mp hok, hshow⟩
      · rintro ⟨c, report, told, e, h, hvalid, hshow⟩
        obtain ⟨_, _, -, -, hreport⟩ := hmade h
        exact ⟨c, report, told, e, h, hreport.ok.mpr hvalid, hshow⟩
    · intro c report told e h
      use hmade h
      apply succeeds_showReport_of_makesReport h

/-- The strict validator without its memo, and with a deadline that has come at the start. -/
def hasty : Validator Unit := { memoless with deadline := some (.seconds 0) }

/-- Two commits: the message of the first one breaks rules, and that of the second one cannot be
read. -/
def twoRecords : List CommitRecord :=
  [⟨"f00d", "b(t): xxxx", .text "b(t): xxxx"⟩, ⟨"beef", "xxxx", .text "xxxx"⟩]

/-- What two of the six rules say within the deadline. -/
def hastyVerdicts : List Verdict :=
  twoRecords.map fun record =>
    hasty.rules.validate record.message (some 0) twoDone.start (twoDone.course (some 0))

/-- The report on them. -/
def hastyReport : RangeReport := .ofVerdicts "HEAD" twoRecords hastyVerdicts

theorem report_covers_range_hasty :
  hasty.Used strictConfig
    ∧ hasty.ComesTo (twoRecords.map (·.message)) (some 0) 1 hastyVerdicts none
    ∧ hastyReport.inconclusive = 1
    ∧ hastyReport.passed + hastyReport.skipped + hastyReport.failed = 1
    ∧ hastyReport.ok = false
  := by
  have hused : hasty.Used strictConfig := by
    constructor
    · rfl
    · rintro _ ⟨⟩
  have hfits : hasty.Fits twoDone := fits_twoDone
  have hanswer : ∀ message, (answer hasty.rules message (some 0) twoDone hasty.memo).1
      = .ok (hasty.rules.validate message (some 0) twoDone.start (twoDone.course (some 0))) := by
    intro message
    have hrefuses : hasty.rules.refuses message (some 0) twoDone.start (twoDone.course (some 0))
        = false := by
      rw [Bool.eq_false_iff, Ne, RuleSet.refuses_iff]
      rintro ⟨-, -, now, done, s, ⟨⟩, ⟨⟩, hwait⟩
      revert hwait
      decide
    exact RuleSet.attempt_eq_ok_iff.mpr ⟨hrefuses, rfl⟩
  have hcomes : hasty.ComesTo (twoRecords.map (·.message)) (some 0) 1 hastyVerdicts none :=
    .apart rfl (.cons ⟨twoDone, hfits, hanswer _⟩ (.cons ⟨twoDone, hfits, hanswer _⟩ .nil))
  obtain ⟨hwithin, -⟩ := report_covers_range hused "HEAD" twoRecords 1
  have hreport : hastyReport.Covers hasty.rules (some 0) twoRecords :=
    (hwithin (some 0) rfl).1 _ _ hcomes
  have hlate : hastyReport.inconclusive = 1 := by decide
  have htotal : hastyReport.total = 2 := rfl
  have hcounts := hreport.total
  refine ⟨hused, hcomes, hlate, by omega, ?_⟩
  rw [Bool.eq_false_iff, Ne, hreport.ok]
  intro hvalid
  have hunread := hvalid hastyReport.checks[1] (by decide)
  cases hunread

end CommitPolicy
