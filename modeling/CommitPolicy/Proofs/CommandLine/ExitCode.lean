import CommitPolicy.CommandLine.Run
import Mathlib.Tactic.Use

/-!
# Exit codes of range checks

A check of a range makes a report, shows it and then exits with the code for it.  Whatever goes
wrong before that, the run does not end with exit code zero, so it does so exactly if there is a
report that is all right and showing it does not fail.
-/

namespace CommitPolicy.CommandLine

namespace Job

variable {α β : Type}

/-- What a job comes to: its value or why it stopped, and what was done. -/
def result (job : Job α) (e : Effects) : Except Stop α × Effects := job.run.run e

theorem result_bind (job : Job α) (f : α → Job β) (e : Effects) :
  (job >>= f).result e
    = match job.result e with
      | (.ok a, e') => (f a).result e'
      | (.error stop, e') => (.error stop, e')
  := by
  unfold result
  rw [ExceptT.run_bind, StateT.run_bind]
  change (match job.run.run e with | (a, e') => _) = _
  rcases job.run.run e with ⟨_ | _, _⟩
  · rfl
  · rfl

/-- A job that comes to a value does so step by step. -/
theorem exists_of_result_bind {job : Job α} {f : α → Job β} {e e' : Effects} {b : β}
    (h : (job >>= f).result e = (.ok b, e')) :
  ∃ a between, job.result e = (.ok a, between) ∧ (f a).result between = (.ok b, e')
  := by
  rw [result_bind] at h
  rcases hjob : job.result e with ⟨stop | a, between⟩
  · rw [hjob] at h
    cases h
  · rw [hjob] at h
    use a, between, rfl, h

theorem result_tryCatch (job : Job α) (handle : Stop → Job α) (e : Effects) :
  (tryCatch job handle).result e
    = match job.result e with
      | (.ok a, e') => (.ok a, e')
      | (.error stop, e') => (handle stop).result e'
  := by
  unfold result
  rw [ExceptT.run_tryCatch, StateT.run_bind]
  change (match job.run.run e with | (a, e') => _) = _
  rcases job.run.run e with ⟨_ | _, _⟩
  · rfl
  · rfl

/-! ### Values that jobs come to -/

section Value

variable {a : α} {x : Except Failure α} {e e' : Effects}

theorem result_ofExcept_eq_ok_iff :
  (Job.ofExcept x).result e = (.ok a, e') ↔ x = .ok a ∧ e = e'
  := by
  cases x with
  | ok b =>
      change ((.ok b, e) : Except Stop α × Effects) = _ ↔ _
      simp
  | error f =>
      change ((.error _, e) : Except Stop α × Effects) = _ ↔ _
      simp

theorem result_orConfigFault_eq_ok_iff :
  (Job.orConfigFault x).result e = (.ok a, e') ↔ x = .ok a ∧ e = e'
  := by
  cases x with
  | ok b =>
      change ((.ok b, e) : Except Stop α × Effects) = _ ↔ _
      simp
  | error f =>
      constructor
      · intro h
        cases f with
        | config e =>
            obtain ⟨_, _, -, hexit⟩ := exists_of_result_bind h
            cases hexit
        | _ => cases h
      · rintro ⟨⟨⟩, -⟩

end Value

/-! ### Jobs that stop -/

/-- The job does not stop with exit code zero. -/
def StopsOnFault (job : Job α) : Prop := ∀ e e', job.result e ≠ (.error (.exit 0), e')

theorem StopsOnFault.pure (a : α) :
  StopsOnFault (Pure.pure a : Job α)
  := by
  rintro e e' ⟨⟩

theorem StopsOnFault.bind {job : Job α} {f : α → Job β} (hjob : job.StopsOnFault)
    (hf : ∀ a, (f a).StopsOnFault) :
  (job >>= f).StopsOnFault
  := by
  intro e e' h
  rw [result_bind] at h
  rcases hresult : job.result e with ⟨stop | a, between⟩
  · rw [hresult] at h
    obtain ⟨⟨⟩, rfl⟩ := Prod.mk.inj h
    apply hjob e between hresult
  · rw [hresult] at h
    apply hf a between e' h

theorem StopsOnFault.fail (f : Failure) :
  (Job.fail f : Job α).StopsOnFault
  := by
  rintro e e' ⟨⟩

theorem StopsOnFault.exit {code : Nat} (hcode : code ≠ 0) :
  (Job.exit code : Job α).StopsOnFault
  := by
  rintro e e' h
  cases h
  apply hcode rfl

theorem StopsOnFault.modify (f : Effects → Effects) :
  (modify f : Job Unit).StopsOnFault
  := by
  rintro e e' ⟨⟩

theorem StopsOnFault.files :
  Job.files.StopsOnFault
  := by
  rintro e e' ⟨⟩

theorem StopsOnFault.ofExcept (x : Except Failure α) :
  (Job.ofExcept x).StopsOnFault
  := by
  cases x with
  | ok a => apply StopsOnFault.pure
  | error f => apply StopsOnFault.fail

theorem StopsOnFault.print (markup : String) :
  (Job.print markup).StopsOnFault ∧ (Job.printError markup).StopsOnFault
  := by
  constructor
  · apply StopsOnFault.bind (.ofExcept _) fun _ => .modify _
  · apply StopsOnFault.bind (.ofExcept _) fun _ => .modify _

theorem StopsOnFault.changeFiles (change : FileTree → Except Failure FileTree) :
  (Job.changeFiles change).StopsOnFault
  := by
  apply StopsOnFault.bind .files
  intro files
  apply StopsOnFault.bind (.ofExcept _) fun _ => .modify _

theorem StopsOnFault.orConfigFault (x : Except Failure α) :
  (Job.orConfigFault x).StopsOnFault
  := by
  cases x with
  | ok a => apply StopsOnFault.pure
  | error f =>
      cases f with
      | config e => apply StopsOnFault.bind (StopsOnFault.print _).2 fun _ => .exit (by decide)
      | _ => apply StopsOnFault.fail

theorem StopsOnFault.forM {job : α → Job Unit} (hjob : ∀ a, (job a).StopsOnFault) (l : List α) :
  (l.forM job).StopsOnFault
  := by
  induction l with
  | nil => apply StopsOnFault.pure
  | cons a rest ih => apply StopsOnFault.bind (hjob a) fun _ => ih

end Job

/-! ### Range checks -/

open Job

section OrRangeFault

variable {α : Type} {job : Job α}

/-- A job that comes to a value is not disturbed. -/
theorem result_orRangeFault_eq_ok_iff {a : α} {e e' : Effects} :
  (orRangeFault job).result e = (.ok a, e') ↔ job.result e = (.ok a, e')
  := by
  rw [orRangeFault, result_tryCatch]
  rcases job.result e with ⟨stop | b, between⟩
  · constructor
    · intro h
      dsimp only at h
      split at h
      · obtain ⟨_, _, -, hexit⟩ := exists_of_result_bind h
        cases hexit
      · obtain ⟨_, _, -, hrest⟩ := exists_of_result_bind h
        obtain ⟨_, _, -, hexit⟩ := exists_of_result_bind hrest
        cases hexit
      · cases h
    · rintro ⟨⟩
  · rfl

theorem stopsOnFault_orRangeFault (hjob : job.StopsOnFault) :
  (orRangeFault job).StopsOnFault
  := by
  intro e e' h
  rw [orRangeFault, result_tryCatch] at h
  rcases hresult : job.result e with ⟨stop | b, between⟩
  · rw [hresult] at h
    dsimp only at h
    split at h
    · exact StopsOnFault.bind (StopsOnFault.print _).2 (fun _ => .exit (by decide)) _ _ h
    · refine StopsOnFault.bind (StopsOnFault.print _).2 (fun _ => ?_) _ _ h
      apply StopsOnFault.bind (.modify _) fun _ => .exit (by decide)
    · cases h
      apply hjob e _ hresult
  · rw [hresult] at h
    cases h

end OrRangeFault

theorem stopsOnFault_buildValidator [ReadingLimits] (s : Setup) (verbose : Bool) (c : Config) :
  (buildValidator s verbose c).StopsOnFault
  := by
  apply StopsOnFault.bind (.orConfigFault _)
  intro rules
  apply StopsOnFault.bind (.ofExcept _)
  intro v
  dsimp only
  split
  · apply StopsOnFault.pure
  · apply StopsOnFault.bind (.changeFiles _) fun _ => .pure _

theorem stopsOnFault_deliver (clock : Clock) (log : Path) (n : Notice Observer) :
  (deliver clock log n).StopsOnFault
  := by
  obtain ⟨o, e⟩ := n
  cases o with
  | console verbose => apply StopsOnFault.bind (.ofExcept _) fun _ => .modify _
  | logFile =>
      apply StopsOnFault.bind (.ofExcept _)
      intro text
      split
      · apply StopsOnFault.pure
      · apply StopsOnFault.changeFiles

theorem stopsOnFault_printReport (verbose : Bool) (r : RangeReport) :
  (printReport verbose r).StopsOnFault
  := by
  apply StopsOnFault.bind (.ofExcept _)
  intro rows
  dsimp only
  split
  · apply StopsOnFault.bind (.pure _) fun _ => (StopsOnFault.print _).1
  · apply StopsOnFault.bind (.ofExcept _)
    intro table
    apply StopsOnFault.bind (.modify _) fun _ => (StopsOnFault.print _).1

theorem stopsOnFault_makeReport [ReadingLimits] (s : Setup) (verbose : Bool) (query : RangeQuery)
    (directory : Path) (c : Config) :
  (makeReport s verbose query directory c).StopsOnFault
  := by
  apply StopsOnFault.bind (.ofExcept _)
  intro repository
  apply StopsOnFault.bind (stopsOnFault_buildValidator _ _ _)
  intro v
  apply StopsOnFault.bind (.ofExcept _)
  intro records
  apply StopsOnFault.bind (.ofExcept _) fun _ => .pure _

theorem stopsOnFault_showReport (s : Setup) (verbose : Bool) (c : Config) (report : RangeReport)
    (told : List (Notice Observer)) :
  (showReport s verbose c report told).StopsOnFault
  := by
  apply StopsOnFault.bind (stopsOnFault_orRangeFault (.forM (stopsOnFault_deliver _ _) told))
  intro _
  apply stopsOnFault_printReport

/-! ### Exit code zero -/

namespace Job

/-- The job ends, or stops with exit code zero. -/
def EndsWell (job : Job Unit) (e : Effects) : Prop :=
  ∃ e', job.result e = (.ok (), e') ∨ job.result e = (.error (.exit 0), e')

theorem exitCode_eq_zero_iff (job : Job Unit) (files : FileTree) :
  (job.outcome files).exitCode = 0 ↔ job.EndsWell ⟨files, "", "", []⟩
  := by
  rw [outcome, EndsWell, result]
  rcases job.run.run ⟨files, "", "", []⟩ with ⟨(code | f) | ⟨⟩, e⟩
  · simp
  · simp
  · simp

/-- If the first job does not stop with exit code zero, it comes to a value with which the next one
ends well. -/
theorem endsWell_bind {α : Type} {job : Job α} (hjob : job.StopsOnFault) {f : α → Job Unit}
    {e : Effects} :
  (job >>= f).EndsWell e ↔ ∃ a e', job.result e = (.ok a, e') ∧ (f a).EndsWell e'
  := by
  rw [EndsWell, result_bind]
  rcases hresult : job.result e with ⟨stop | a, between⟩
  · constructor
    · rintro ⟨e', h | h⟩
      · cases h
      · cases h
        cases hjob e _ hresult
    · rintro ⟨a, e', ⟨⟩, -⟩
  · constructor
    · intro h
      exact ⟨a, between, rfl, h⟩
    · rintro ⟨_, _, ⟨⟩, h⟩
      apply h

theorem endsWell_exit {code : Nat} {e : Effects} :
  (Job.exit code : Job Unit).EndsWell e ↔ code = 0
  := by
  constructor
  · rintro ⟨e', h | h⟩
    · cases h
    · cases h
      rfl
  · rintro rfl
    exact ⟨e, .inr rfl⟩

end Job

theorem exitCode_eq_zero_iff (valid : Bool) :
  exitCode valid = 0 ↔ valid = true
  := by
  cases valid with
  | false => simp [exitCode]
  | true => simp [exitCode]

section CheckRange

variable [ReadingLimits] (s : Setup) (i : Invocation) (query : RangeQuery) (directory : Path)

/-- The report that a check of a range makes of its configuration, what the observers are to be told
of it, and what was done by then. -/
def MakesReport (files : FileTree) (c : Config) (report : RangeReport)
    (told : List (Notice Observer)) (e : Effects) : Prop :=
  ∃ source, Config.load s.surroundings i.config
      (some (s.surroundings.files.workingDirectory.join directory)) = .ok ⟨c, source⟩
    ∧ (makeReport s i.verbose query (s.surroundings.files.workingDirectory.join directory) c).result
      ⟨files, "", "", []⟩ = (.ok (report, told), e)

/-- A check ends with exit code zero exactly if it makes a report that is all right, and showing the
report does not fail. -/
theorem exitCode_checkRange (files : FileTree) :
  ((checkRange s i query directory).outcome files).exitCode = 0
    ↔ ∃ c report told e, MakesReport s i query directory files c report told e
      ∧ report.ok = true ∧ ∃ e', (showReport s i.verbose c report told).result e = (.ok (), e')
  := by
  have hmakes := fun c => stopsOnFault_orRangeFault (stopsOnFault_makeReport s i.verbose query
    (s.surroundings.files.workingDirectory.join directory) c)
  rw [Job.exitCode_eq_zero_iff, checkRange, endsWell_bind (.orConfigFault _)]
  simp only [endsWell_bind (hmakes _), endsWell_bind (stopsOnFault_showReport _ _ _ _ _),
    endsWell_exit, exitCode_eq_zero_iff, result_orConfigFault_eq_ok_iff,
    result_orRangeFault_eq_ok_iff, MakesReport]
  constructor
  · rintro ⟨⟨c, source⟩, e, ⟨hload, rfl⟩, ⟨report, told⟩, e₁, hmake, ⟨⟩, e₂, hshow, hok⟩
    exact ⟨c, report, told, e₁, ⟨source, hload, hmake⟩, hok, e₂, hshow⟩
  · rintro ⟨c, report, told, e, ⟨source, hload, hmake⟩, hok, e', hshow⟩
    exact ⟨⟨c, source⟩, _, ⟨hload, rfl⟩, (report, told), e, hmake, (), e', hshow, hok⟩

end CheckRange

/-- The validator of a configuration has its policy and one worker, and neither a memo nor a
deadline.  Its observers are the console and, if there is one, the log file. -/
structure IsBuilt [ReadingLimits] (s : Setup) (verbose : Bool) (c : Config)
    (v : Validator Observer) : Prop where
  rules : RuleSet.ofConfig c = .ok v.rules
  workers : v.workers = 1
  memo : v.memo = none
  deadline : v.deadline = none
  observers : v.observers
    = .console verbose :: if (c.logPath s.clock.fileName).isSome then [.logFile] else []

theorem isBuilt_of_buildValidator [ReadingLimits] {s : Setup} {verbose : Bool} {c : Config}
    {v : Validator Observer} {e e' : Effects}
    (h : (buildValidator s verbose c).result e = (.ok v, e')) :
  IsBuilt s verbose c v
  := by
  obtain ⟨rules, e₁, hrules, h⟩ := exists_of_result_bind h
  obtain ⟨made, e₂, hmade, h⟩ := exists_of_result_bind h
  cases (result_ofExcept_eq_ok_iff.mp hmade).1
  have hpolicy := (result_orConfigFault_eq_ok_iff.mp hrules).1
  dsimp only at h
  split at h
  · next hlog =>
    cases h
    exact ⟨hpolicy, rfl, rfl, rfl, by rw [hlog]; rfl⟩
  · next hlog =>
    obtain ⟨_, e₃, -, h⟩ := exists_of_result_bind h
    cases h
    exact ⟨hpolicy, rfl, rfl, rfl, by rw [hlog]; rfl⟩

/-- A report is made of the records of the repository, by a validator of that kind. -/
theorem exists_of_makeReport [ReadingLimits] {s : Setup} {verbose : Bool} {query : RangeQuery}
    {directory : Path} {c : Config} {report : RangeReport} {told : List (Notice Observer)}
    {e e' : Effects}
    (h : (makeReport s verbose query directory c).result e = (.ok (report, told), e')) :
  ∃ (v : Validator Observer) (records : List CommitRecord) (w : Validator Observer),
    IsBuilt s verbose c v ∧ s.repository.collect query = .ok records
      ∧ v.checkRange (v.rules.standstill v.workers) query.range records = (.ok report, told, w)
  := by
  obtain ⟨repository, _, hopen, h⟩ := exists_of_result_bind h
  obtain ⟨v, _, hbuild, h⟩ := exists_of_result_bind h
  obtain ⟨records, _, hcollect, h⟩ := exists_of_result_bind h
  rcases hresult : v.checkRange (v.rules.standstill v.workers) query.range records with
    ⟨result, told', w⟩
  rw [hresult] at h
  obtain ⟨made, _, hmade, h⟩ := exists_of_result_bind h
  cases h
  cases (result_ofExcept_eq_ok_iff.mp hmade).1
  have hrepository : repository = s.repository := by
    have hopened := (result_ofExcept_eq_ok_iff.mp hopen).1
    cases hs : s.repository with
    | missing =>
        rw [hs] at hopened
        cases hopened
    | _ =>
        rw [hs] at hopened
        cases hopened
        rfl
  rw [hrepository] at hcollect
  exact ⟨v, records, w, isBuilt_of_buildValidator hbuild,
    (result_ofExcept_eq_ok_iff.mp hcollect).1, hresult⟩

end CommitPolicy.CommandLine
