import CommitPolicy.Log.Observer
import CommitPolicy.Proofs.Log.Time
import CommitPolicy.Proofs.Policy.OneLine
import CommitPolicy.Proofs.Validator.Breaking
import CommitPolicy.Proofs.Validator.Observers

/-!
# Records of a log

A log file gets a record for each thing that there is to say of a validation, and each record is
written at a time of its own.  It is shown that every record is one line, which starts with its
time, whatever the message is, as long as no text of the configuration holds a line feed.  So the
number of lines is known from the verdict, and no message can make a line that looks like another
record.
-/

namespace CommitPolicy

open Text

/-! ### Records of one line -/

/-- The summary of a message is part of one of its lines. -/
theorem oneLine_summarize (message : String) (width : Int) :
  OneLine (summarize message width)
  := by
  have hline : ∀ s : List Char, '\n' ∉ s → OneLine
      (if width < s.length then String.ofList (takeSigned (width - 3) s ++ ['.', '.', '.'])
        else String.ofList s) := by
    intro s hs
    split
    · rw [oneLine_ofList, List.mem_append, takeSigned]
      rintro (h | h)
      · split at h
        · exact hs (List.mem_of_mem_take h)
        · exact hs (List.mem_of_mem_take h)
      · revert h
        decide
    · apply oneLine_ofList.mpr hs
  apply hline
  split
  · decide
  · intro h
    have hne := List.mem_takeWhile_imp h
    revert hne
    decide

namespace Event

/-- No text that the event quotes besides the message holds a line feed. -/
def IsOneLine : Event → Prop
  | ignored _ pattern => OneLine pattern
  | timedOut _ _ => True
  | validated _ v => v.IsOneLine

theorem oneLine_of_mem_records {e : Event} (he : e.IsOneLine) :
  ∀ record ∈ e.records, OneLine record
  := by
  cases e with
  | ignored message pattern =>
      rw [records, List.forall_mem_singleton]
      apply OneLine.append _ (.literal (by decide))
      apply OneLine.append _ he
      apply (oneLine_summarize _ _).between (by decide) (by decide)
  | timedOut message v =>
      rw [records, List.forall_mem_singleton]
      apply (OneLine.literal (by decide)).append (oneLine_summarize _ _)
  | validated message v =>
      rw [records]
      split
      · nofun
      · rw [List.forall_mem_cons, List.forall_mem_map]
        constructor
        · apply OneLine.append _ (oneLine_summarize _ _)
          split
          · apply OneLine.literal (by decide)
          · apply OneLine.literal (by decide)
        · intro x hx
          apply (OneLine.literal (by decide)).append (he x hx)

end Event

/-! ### Appending records -/

/-- The text that is appended to a log file for some records, each of them at a time of its own. -/
inductive Appends : List String → String → Prop where
  | nil : Appends [] ""
  | cons (time : LocalTime) {record : String} {records : List String} {text : String}
      (h : Appends records text) :
      Appends (record :: records) (Event.logLine time.line record ++ text)

theorem Appends.append {records records' : List String} {text text' : String}
    (h : Appends records text) (h' : Appends records' text') :
  Appends (records ++ records') (text ++ text')
  := by
  induction h with
  | nil =>
      rw [String.empty_append]
      apply h'
  | cons time _ ih =>
      rw [String.append_assoc]
      apply Appends.cons time ih

/-- What is written for an event at one time. -/
theorem appends_logText (time : LocalTime) (e : Event) :
  Appends e.records (e.logText time.line)
  := by
  rw [Event.logText]
  induction e.records with
  | nil => apply Appends.nil
  | cons record records ih =>
      rw [List.map_cons, String.join_cons]
      apply Appends.cons time ih

/-- What a log file writes of events, each of them at one time. -/
theorem exists_mapM_write (time : LocalTime) (events : List Event) :
  ∃ texts, events.mapM (fun e => Observer.logFile.write time.line e) = .ok texts
    ∧ Appends (events.flatMap Event.records) (String.join texts)
  := by
  induction events with
  | nil => exact ⟨[], rfl, .nil⟩
  | cons e events ih =>
      obtain ⟨texts, htexts, happends⟩ := ih
      use e.logText time.line :: texts
      constructor
      · rw [List.mapM_cons, htexts]
        rfl
      · rw [List.flatMap_cons, String.join_cons]
        apply (appends_logText time e).append happends

/-- The line is the record, after a time. -/
def IsRecordLine (record : String) (line : List Char) : Prop :=
  ∃ time : LocalTime, line = (time.line ++ " - " ++ record).toList

theorem IsRecordLine.not_mem {record : String} {line : List Char} (h : IsRecordLine record line)
    (hrecord : OneLine record) :
  '\n' ∉ line
  := by
  obtain ⟨time, rfl⟩ := h
  have htime : OneLine time.line := LocalTime.not_mem_append rfl (by decide)
  exact (htime.append (.literal (by decide))).append hrecord

/-- The text consists of one line for each record, each line ended by a line feed. -/
theorem Appends.exists_lines {records : List String} {text : String} (h : Appends records text) :
  ∃ lines : List (List Char), text.toList = lines.flatMap (· ++ ['\n'])
    ∧ List.Forall₂ IsRecordLine records lines
  := by
  induction h with
  | nil => exact ⟨[], rfl, .nil⟩
  | @cons time record records text _ ih =>
      obtain ⟨lines, htext, hlines⟩ := ih
      refine ⟨(time.line ++ " - " ++ record).toList :: lines, ?_, .cons ⟨time, rfl⟩ hlines⟩
      rw [String.toList_append, htext, Event.logLine, String.toList_append, List.flatMap_cons]
      rfl

theorem not_mem_of_forall₂ {records : List String} {lines : List (List Char)}
    (h : List.Forall₂ IsRecordLine records lines) (hrecords : ∀ record ∈ records, OneLine record) :
  ∀ line ∈ lines, '\n' ∉ line
  := by
  intro line hline
  obtain ⟨record, hrecord, hrecordLine⟩ := exists_of_mem_of_forall₂ h hline
  apply hrecordLine.not_mem (hrecords record hrecord)

/-! ### The records of a validation -/

/-- The number of records that tell of a verdict. -/
def Verdict.recordCount (v : Verdict) : Nat :=
  if v.ignored then 1 else 1 + v.violations.length + if v.timedOut then 1 else 0

namespace RuleSet

variable {rs : RuleSet} {message : String} {verdict : Verdict} {events : List Event}

theorem Tells.length_records (h : rs.Tells message verdict events) :
  (events.flatMap Event.records).length = verdict.recordCount
  := by
  cases h with
  | ignored hpatterns hearlier hmatches hignored htime =>
      simp [Event.records, Verdict.recordCount, hignored]
  | late hignored htime =>
      simp [Event.records, Verdict.recordCount, hignored, htime]
      omega
  | judged hignored htime =>
      simp [Event.records, Verdict.recordCount, hignored, htime]
      omega

theorem Tells.oneLine_of_mem_records (h : rs.Tells message verdict events) (hrs : rs.IsOneLine)
    (hverdict : verdict.IsOneLine) :
  ∀ record ∈ events.flatMap Event.records, OneLine record
  := by
  have hevents : ∀ e ∈ events, e.IsOneLine := by
    cases h with
    | @ignored earlier later p hpatterns hearlier hmatches hignored htime =>
        have hp : p ∈ rs.ignorePatterns := by simp [hpatterns]
        simp [Event.IsOneLine, hrs.ignorePatterns p hp, hverdict]
    | late hignored htime => simp [Event.IsOneLine, hverdict]
    | judged hignored htime => simp [Event.IsOneLine, hverdict]
  intro record hrecord
  obtain ⟨e, he, hrecord⟩ := List.mem_flatMap.mp hrecord
  apply Event.oneLine_of_mem_records (hevents e he) record hrecord

end RuleSet

namespace Validator

variable {O : Type}

theorem isOneLine_gaveUp (rs : RuleSet) (seconds : Option Float) :
  (gaveUp rs seconds).IsOneLine
  := by
  intro x hx
  rw [List.mem_singleton.mp hx]
  apply oneLine_timeoutViolation

/-- A validator that is in use gives verdicts of one line, and of an ignored message it knows the
pattern. -/
theorem IsInUse.oneLine_answer [ReadingLimits] {v : Validator O} {cfg : Config} (hv : v.IsInUse cfg)
    (hcfg : cfg.IsOneLine) {message : String} {seconds : Option Float} {timing : Timing}
    {verdict : Verdict} (hanswer : (answer v.rules message seconds timing v.memo).1 = .ok verdict) :
  v.rules.Explains message verdict ∧ verdict.IsOneLine
  := by
  have hvalidate := (RuleSet.isOneLine_of_ofConfig hcfg hv.rules).validate
  constructor
  · apply (holds_answer v.rules.explains_validate (explains_gaveUp v.rules) _ message seconds
      timing).1 verdict hanswer
    intro memo hmemo
    apply FilledBy.explains (hv.memo memo hmemo)
  · have hgaveUp : ∀ (_ : String) seconds, (gaveUp v.rules seconds).IsOneLine :=
      fun _ => isOneLine_gaveUp v.rules
    apply (holds_answer hvalidate hgaveUp _ message seconds timing).1 verdict hanswer
    intro memo hmemo
    apply FilledBy.holds hvalidate (hv.memo memo hmemo)

/-- A validation tells every observer the events of its verdict.  What a log file gets of them is
one line for each record, which is the record after a time, and each line is ended by a line feed.
There are no other line feeds, so their number is known from the verdict: one if the message is
ignored, and otherwise one, one for each violation, and one if time ran out.  A validation that
fails because it would have to wait for too long tells nobody. -/
theorem log_not_forged [ReadingLimits] {v : Validator O} {cfg : Config} (hv : v.IsInUse cfg)
    (hcfg : cfg.IsOneLine) {deadline : Option Deadline} {seconds : Option Float}
    (hseconds : v.allowance deadline = .ok seconds) (message : String) (timing : Timing) :
  (∃ verdict events w,
    v.validate message deadline timing
        = (.ok verdict, v.observers.flatMap (fun o => events.map fun e => (o, e)), w)
      ∧ v.rules.Tells message verdict events
      ∧ (∀ time : LocalTime, ∃ texts,
        events.mapM (fun e => Observer.logFile.write time.line e) = .ok texts
          ∧ Appends (events.flatMap Event.records) (String.join texts))
      ∧ ∀ text, Appends (events.flatMap Event.records) text →
        ∃ lines : List (List Char), text.toList = lines.flatMap (· ++ ['\n'])
          ∧ List.Forall₂ IsRecordLine (events.flatMap Event.records) lines
          ∧ (∀ line ∈ lines, '\n' ∉ line)
          ∧ text.toList.count '\n'
            = if verdict.ignored then 1
              else 1 + verdict.violations.length + if verdict.timedOut then 1 else 0)
    ∨ MayRefuse v.rules message seconds timing
      ∧ ∃ w, v.validate message deadline timing = (.error .overflow, [], w)
  := by
  rcases answer_cases v.rules message seconds timing v.memo with
    ⟨verdict, memo, hanswer⟩ | ⟨memo, hanswer, hrefused⟩
  · obtain ⟨hexplains, hverdict⟩ := hv.oneLine_answer hcfg (congrArg Prod.fst hanswer)
    have htells := hexplains.tells
    have hrecords :=
      htells.oneLine_of_mem_records (RuleSet.isOneLine_of_ofConfig hcfg hv.rules) hverdict
    refine .inl ⟨_, _, _, validate_of_answer hseconds hanswer, htells, ?_, ?_⟩
    · intro time
      apply exists_mapM_write
    · intro text happends
      obtain ⟨lines, htext, hlines⟩ := happends.exists_lines
      have hone := not_mem_of_forall₂ hlines hrecords
      refine ⟨lines, htext, hlines, hone, ?_⟩
      rw [htext, count_flatMap hone, ← hlines.length_eq]
      apply htells.length_records
  · exact .inr ⟨hrefused, _, validate_of_answer_error hseconds hanswer⟩

/-- The validator that allows no breaking changes, when it writes a log file. -/
def loggingValidator : Validator Observer := { cautiousValidator with observers := [.logFile] }

/-- A message whose second line looks like a record. -/
def forged : String := "wip\n2026-01-02 03:04:05 - VALID fix: x"

/-- The verdict on it, which quotes the header only. -/
def forgedVerdict : Verdict :=
  .failed [⟨RuleKind.format.name, (ParseError.malformedHeader "wip").message⟩]

theorem log_not_forged_hostile :
  loggingValidator.IsInUse cautiousConfig ∧ cautiousConfig.IsOneLine
    ∧ loggingValidator.allowance none = .ok none
    ∧ (∃ w, loggingValidator.validate forged none unhurriedly
      = (.ok forgedVerdict, [(.logFile, .validated forged forgedVerdict)], w))
    ∧ ¬OneLine forged
    ∧ ∀ text, Appends (Event.validated forged forgedVerdict).records text →
      text.toList.count '\n' = 2
  := by
  have hv : loggingValidator.IsInUse cautiousConfig := by
    constructor
    · rfl
    · rintro _ ⟨⟩
      use none, .empty none, SharedMemo.start (.empty none), rfl, .refl
      rfl
  have hempty : ∀ memo ∈ loggingValidator.memo, memo = .empty memo.maxSize := by
    rintro _ ⟨⟩
    rfl
  have hcfg : cautiousConfig.IsOneLine := by
    constructor
    · decide
    · decide
    · decide
    · decide
    · decide
    · decide
  have hallowed : loggingValidator.allowance none = .ok none := rfl
  have hparse : Commit.parse forged = .error (.malformedHeader "wip") := by decide
  have hverdict : loggingValidator.rules.verdict forged = forgedVerdict := by
    rw [RuleSet.verdict, RuleSet.validate, hparse]
    rfl
  obtain ⟨w, hvalidate⟩ := exists_validate_unhurriedly (v := loggingValidator) rfl hempty forged
  rw [hverdict] at hvalidate
  have hnotices : loggingValidator.notices forged forgedVerdict
      = [(.logFile, .validated forged forgedVerdict)] := rfl
  have hlogged := log_not_forged hv hcfg hallowed forged unhurriedly
  rw [hvalidate, hnotices] at hlogged
  refine ⟨hv, hcfg, hallowed, ⟨w, hvalidate⟩, by decide, ?_⟩
  intro text happends
  rcases hlogged with ⟨verdict, events, w', htold, htells, -, hlog⟩ | ⟨hrefused, -⟩
  · obtain rfl := Except.ok.inj (congrArg Prod.fst htold)
    obtain rfl : events = [.validated forged forgedVerdict] := by
      cases htells with
      | ignored _ _ _ hignored => cases hignored
      | late _ htime => cases htime
      | judged => rfl
    obtain ⟨_, -, -, -, hcount⟩ := hlog text happends
    apply hcount
  · cases not_mayRefuse_none _ _ _ hrefused

end Validator

end CommitPolicy
