import CommitPolicy.Proofs.Validator.Deadline

/-!
# Acts

What happens to a validator one after the other: it is called, observers come and go, and other
callers leave its memo in another state.  The verdicts and the memo are the same without observers.
-/

namespace CommitPolicy.Validator

variable {O : Type}

/-- Validates messages one after the other, each one in its own time, until there is no verdict on
one of them. -/
def validateEach (v : Validator O) :
    List (String × Timing) → Except Failure (List Verdict) × List (Notice O) × Validator O
  | [] => (.ok [], [], v)
  | (message, timing) :: rest =>
    match v.validate message none timing with
    | (.error e, told, v) => (.error e, told, v)
    | (.ok verdict, told, v) =>
      let (verdicts, toldRest, v) := v.validateEach rest
      (verdicts.map (verdict :: ·), told ++ toldRest, v)

/-- If the rules run in the same way for every message, these are the validations of
`validateAll`. -/
theorem validateEach_map (v : Validator O) (timing : Timing) (messages : List String) :
  v.validateEach (messages.map fun message => (message, timing)) = v.validateAll timing messages
  := by
  induction messages generalizing v with
  | nil => rfl
  | cons message rest ih =>
      rw [List.map_cons, validateEach, validateAll]
      obtain ⟨result, told, w⟩ := v.validate message none timing
      cases result with
      | error e => rfl
      | ok verdict =>
          dsimp only
          rw [ih]

/-- What happens to a validator: it is called, or other callers leave its memo in another state. -/
inductive Act (O : Type) where
  | validate (message : String) (deadline : Option Deadline) (timing : Timing)
  /-- Validates the message in a file, given the bytes of the file if there is one. -/
  | validateFile (bytes : Option (List UInt8)) (deadline : Option Deadline) (timing : Timing)
  | validateEach (messages : List (String × Timing))
  | attach (o : O)
  | detach (o : O)
  | others (memo : Memo Verdict)

namespace Act

/-- Takes place: the verdicts that are returned or why there are none, what is told, and the
validator after it. -/
def call [BEq O] (v : Validator O) :
    Act O → Except Failure (List Verdict) × List (Notice O) × Validator O
  | validate message deadline timing =>
    (v.validate message deadline timing).map (fun result => result.map fun x => [x]) id
  | validateFile bytes deadline timing =>
    (v.validateFile bytes deadline timing).map (fun result => result.map fun x => [x]) id
  | validateEach messages => v.validateEach messages
  | attach o => (.ok [], [], v.attach o)
  | detach o =>
    match v.detach o with
    | .ok w => (.ok [], [], w)
    | .error e => (.error e, [], v)
  | others memo => (.ok [], [], { v with memo := v.memo.map fun _ => memo })

/-- The validator afterwards. -/
def next [BEq O] (v : Validator O) (a : Act O) : Validator O := (a.call v).2.2

/-- The validations that are asked for: a message, a deadline and the timing of each. -/
def validations : Act O → List (String × Option Deadline × Timing)
  | validate message deadline timing => [(message, deadline, timing)]
  | validateFile bytes deadline timing => bytes.toList.map fun b => (messageOf b, deadline, timing)
  | validateEach messages => messages.map fun (message, timing) => (message, none, timing)
  | _ => []

/-- Whether an observer comes or goes. -/
def registers : Act O → Bool
  | attach _ => true
  | detach _ => true
  | _ => false

/-- The call does not fail at once: deadlines are numbers of seconds, there is a file, and an
observer that goes is one of those that are registered. -/
def Possible [BEq O] (v : Validator O) (registered : List O) : Act O → Prop
  | validate _ deadline _ => ∃ seconds, v.allowance deadline = .ok seconds
  | validateFile bytes deadline _ =>
    bytes.isSome ∧ ∃ seconds, v.allowance deadline = .ok seconds
  | validateEach messages => messages = [] ∨ ∃ seconds, v.allowance none = .ok seconds
  | detach o => registered.contains o = true
  | _ => True

end Act

/-- The validator after some acts. -/
def after [BEq O] (v : Validator O) (acts : List (Act O)) : Validator O := acts.foldl Act.next v

/-- The observers that are registered after some acts, in the order in which they came. -/
def registered [BEq O] (observers : List O) : List (Act O) → List O
  | [] => observers
  | .attach o :: rest => registered (observers ++ [o]) rest
  | .detach o :: rest => registered (observers.erase o) rest
  | _ :: rest => registered observers rest

theorem registered_cons [BEq O] (observers : List O) (a : Act O) (acts : List (Act O)) :
  registered observers (a :: acts) = registered (registered observers [a]) acts
  := by
  cases a with
  | _ => rfl

theorem exists_allowance_eq_error {v : Validator O} {deadline : Option Deadline}
    (h : ¬∃ seconds, v.allowance deadline = .ok seconds) :
  ∃ e, v.allowance deadline = .error e
  := by
  cases hd : v.allowance deadline with
  | ok seconds => exact absurd ⟨seconds, hd⟩ h
  | error e => use e

/-- A call that is not possible fails, tells nobody and changes nothing. -/
theorem exists_call_eq_error [BEq O] [PartialEquivBEq O] {v : Validator O} {a : Act O}
    (ha : ¬a.Possible v v.observers) :
  (∃ e, a.call v = (.error e, [], v)) ∧ registered v.observers [a] = v.observers
  := by
  cases a with
  | validate message deadline timing =>
      obtain ⟨e, he⟩ := exists_allowance_eq_error ha
      refine ⟨⟨e, ?_⟩, rfl⟩
      rw [Act.call, validate, he]
      rfl
  | validateFile bytes deadline timing =>
      refine ⟨?_, rfl⟩
      cases bytes with
      | none => exact ⟨_, rfl⟩
      | some content =>
          obtain ⟨e, he⟩ := exists_allowance_eq_error fun h => ha ⟨rfl, h⟩
          use e
          rw [Act.call, validateFile, validate, he]
          rfl
  | validateEach messages =>
      obtain ⟨e, he⟩ := exists_allowance_eq_error fun h => ha (.inr h)
      refine ⟨?_, rfl⟩
      cases messages with
      | nil => exact absurd (.inl rfl) ha
      | cons first rest =>
          use e
          rw [Act.call, Validator.validateEach, validate, he]
  | attach o => exact absurd trivial ha
  | detach o =>
      have hmissing : ¬v.observers.contains o = true := ha
      constructor
      · use .argument "list.remove(x): x not in list"
        rw [Act.call, detach, if_neg hmissing]
      · rw [registered, registered, List.erase_eq_eraseP']
        apply List.eraseP_of_forall_not
        intro o' ho' heq
        apply hmissing
        exact List.contains_iff_exists_mem_beq.mpr ⟨o', ho', BEq.symm heq⟩
  | others memo => exact absurd trivial ha

/-! ### Without observers -/

/-- The validator without its observers. -/
def silent (v : Validator O) : Validator O := { v with observers := [] }

/-- The outcome of a call that nobody is told of. -/
def silenced {R : Type} : R × List (Notice O) × Validator O → R × List (Notice O) × Validator O
  | (result, _, w) => (result, [], w.silent)

theorem validate_silent (v : Validator O) (message : String) (deadline : Option Deadline)
    (timing : Timing) :
  v.silent.validate message deadline timing = silenced (v.validate message deadline timing)
  := by
  have hsame : v.silent.allowance deadline = v.allowance deadline := rfl
  cases hseconds : v.allowance deadline with
  | error e =>
      rw [validate, validate, hsame, hseconds]
      rfl
  | ok seconds =>
      rcases answer_cases v.rules message seconds timing v.memo with
        ⟨verdict, memo, hanswer⟩ | ⟨memo, hanswer, -⟩
      · rw [validate_of_answer hseconds hanswer,
          validate_of_answer (v := v.silent) (hsame.trans hseconds) hanswer]
        rfl
      · rw [validate_of_answer_error hseconds hanswer,
          validate_of_answer_error (v := v.silent) (hsame.trans hseconds) hanswer]
        rfl

theorem validateFile_silent (v : Validator O) (bytes : Option (List UInt8))
    (deadline : Option Deadline) (timing : Timing) :
  v.silent.validateFile bytes deadline timing = silenced (v.validateFile bytes deadline timing)
  := by
  cases bytes with
  | none => rfl
  | some content => apply validate_silent

theorem validateEach_silent (v : Validator O) (messages : List (String × Timing)) :
  v.silent.validateEach messages = silenced (v.validateEach messages)
  := by
  induction messages generalizing v with
  | nil => rfl
  | cons first rest ih =>
      obtain ⟨message, timing⟩ := first
      rw [validateEach, validateEach, validate_silent]
      obtain ⟨result, told, w⟩ := v.validate message none timing
      cases result with
      | error e => rfl
      | ok verdict =>
          simp only [silenced, ih]
          rfl

section Silent

variable [BEq O]

/-- Without observers a call has the same outcome, and nobody is told of it. -/
theorem call_silent {a : Act O} (ha : a.registers = false) (v : Validator O) :
  a.call v.silent = silenced (a.call v)
  := by
  cases a with
  | validate message deadline timing =>
      rw [Act.call, Act.call, validate_silent]
      rfl
  | validateFile bytes deadline timing =>
      rw [Act.call, Act.call, validateFile_silent]
      rfl
  | validateEach messages => apply validateEach_silent
  | attach o => cases ha
  | detach o => cases ha
  | others memo => rfl

theorem next_silent {a : Act O} (ha : a.registers = false) (v : Validator O) :
  a.next v.silent = (a.next v).silent
  := by
  rw [Act.next, Act.next, call_silent ha]
  rfl

theorem silent_next {a : Act O} (ha : a.registers = true) (v : Validator O) :
  (a.next v).silent = v.silent
  := by
  cases a with
  | attach o => rfl
  | detach o =>
      by_cases hregistered : v.observers.contains o = true
      · rw [Act.next, Act.call, detach, if_pos hregistered]
        rfl
      · rw [Act.next, Act.call, detach, if_neg hregistered]
  | _ => cases ha

/-- A run without observers, in which none come or go, is the run that forgets them. -/
theorem after_silent (v : Validator O) (acts : List (Act O)) :
  v.silent.after (acts.filter fun a => !a.registers) = (v.after acts).silent
  := by
  induction acts generalizing v with
  | nil => rfl
  | cons a acts ih =>
      change _ = ((a.next v).after acts).silent
      rw [← ih]
      cases ha : a.registers with
      | true => rw [List.filter_cons_of_neg (by simp [ha]), silent_next ha]
      | false =>
          rw [List.filter_cons_of_pos (by simp [ha]), ← next_silent ha]
          rfl

end Silent

end CommitPolicy.Validator
