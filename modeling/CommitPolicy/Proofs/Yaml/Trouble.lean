import CommitPolicy.Yaml.Document
import Mathlib.Tactic.Use

/-!
# What can be wrong with a YAML document

A document without a value has a fault, which is told with its place, or it is nested too deeply, or
something in it is misread: a text is no value of the kind that it is taken for.  Nothing else goes
wrong.
-/

namespace CommitPolicy

/-- The failures of a text to be a value of the kind that it is taken for. -/
inductive Failure.IsMisread : Failure → Prop where
  | argument (text : String) : IsMisread (.argument text)
  | emptyNumeral : IsMisread .emptyNumeral
  | notMoment : IsMisread .notMoment
  | unknownTruthValue : IsMisread .unknownTruthValue
  | overflow : IsMisread .overflow

/-- The failures of reading a document that are no faults of its notation: something in it is
misread, or it is nested too deeply. -/
def Failure.IsUnread (f : Failure) : Prop := f.IsMisread ∨ f = .tooDeep

namespace Yaml

open Text

/-- A fault, or the failure of a misread text. -/
inductive Trouble.IsKnown : Trouble → Prop where
  | fault (f : Fault) : IsKnown (.fault f)
  | misread {f : Failure} (h : f.IsMisread) : IsKnown (.failure f)

/-- Nothing but known troubles comes up. -/
def OnlyKnown {α : Type} (x : Except Trouble α) : Prop := ∀ t, x = .error t → t.IsKnown

namespace OnlyKnown

variable {α β : Type} {x : Except Trouble α}

theorem ok (a : α) :
  OnlyKnown (.ok a)
  := by
  rintro t ⟨⟩

theorem fault (problem : String) (m : Mark) :
  OnlyKnown (.error (.at problem m) : Except Trouble α)
  := by
  rintro t ⟨⟩
  apply Trouble.IsKnown.fault

theorem inside (context : String) (start : Mark) (problem : String) (m : Mark) :
  OnlyKnown (.error (.inside context start problem m) : Except Trouble α)
  := by
  rintro t ⟨⟩
  apply Trouble.IsKnown.fault

theorem misread {f : Failure} (h : f.IsMisread) :
  OnlyKnown (.error (.failure f) : Except Trouble α)
  := by
  rintro t ⟨⟩
  apply Trouble.IsKnown.misread h

theorem map (hx : OnlyKnown x) (f : α → β) :
  OnlyKnown (x.map f)
  := by
  cases x with
  | ok a => apply ok
  | error t =>
      rintro t' ⟨⟩
      apply hx t rfl

theorem bind (hx : OnlyKnown x) {f : α → Except Trouble β} (hf : ∀ a, OnlyKnown (f a)) :
  OnlyKnown (x >>= f)
  := by
  cases x with
  | ok a => apply hf a
  | error t =>
      rintro t' ⟨⟩
      apply hx t rfl

theorem mapM {f : α → Except Trouble β} (hf : ∀ a, OnlyKnown (f a)) (l : List α) :
  OnlyKnown (l.mapM f)
  := by
  induction l with
  | nil => apply ok
  | cons a l ih =>
      rw [List.mapM_cons]
      apply bind (hf a)
      intro b
      apply bind ih
      intro bs
      apply ok

end OnlyKnown

/-! ### Scalars -/

theorem onlyKnown_integerIn (base : Nat) (s : List Char) :
  OnlyKnown (integerIn base s)
  := by
  rw [integerIn]
  split
  · split
    · apply OnlyKnown.misread (.argument _)
    · apply OnlyKnown.ok
  · apply OnlyKnown.misread (.argument _)

theorem onlyKnown_unsignedInteger (s : List Char) :
  OnlyKnown (unsignedInteger s)
  := by
  unfold unsignedInteger
  split
  · apply OnlyKnown.ok
  · apply onlyKnown_integerIn
  · apply onlyKnown_integerIn
  · apply onlyKnown_integerIn
  · split
    · apply (OnlyKnown.mapM (onlyKnown_integerIn 10) _).map
    · apply onlyKnown_integerIn

theorem onlyKnown_readInt (text : String) :
  OnlyKnown (readInt text)
  := by
  unfold readInt
  split
  · apply OnlyKnown.misread .emptyNumeral
  · apply OnlyKnown.misread .emptyNumeral
  · apply OnlyKnown.misread .emptyNumeral
  · apply (onlyKnown_unsignedInteger _).map
  · apply onlyKnown_unsignedInteger

theorem onlyKnown_floatOf (s : List Char) :
  OnlyKnown (floatOf s)
  := by
  rw [floatOf]
  split
  · apply OnlyKnown.ok
  · apply OnlyKnown.misread (.argument _)

theorem onlyKnown_unsignedFloat (s : List Char) :
  OnlyKnown (unsignedFloat s)
  := by
  unfold unsignedFloat
  split
  · apply OnlyKnown.ok
  · split
    · apply OnlyKnown.ok
    · split
      · apply (OnlyKnown.mapM onlyKnown_floatOf _).bind
        intro parts
        apply OnlyKnown.ok
      · apply onlyKnown_floatOf

theorem onlyKnown_readDecimal (text : String) :
  OnlyKnown (readDecimal text)
  := by
  unfold readDecimal
  split
  · apply OnlyKnown.misread .emptyNumeral
  · apply (onlyKnown_unsignedFloat _).map
  · apply onlyKnown_unsignedFloat

theorem onlyKnown_readBinary (m : Mark) (text : String) :
  OnlyKnown (readBinary m text)
  := by
  rw [readBinary]
  split
  · apply OnlyKnown.fault
  · split
    · apply OnlyKnown.ok
    · apply OnlyKnown.fault

theorem onlyKnown_readMoment (text : String) :
  OnlyKnown (readMoment text)
  := by
  rw [readMoment]
  split
  · apply OnlyKnown.misread .notMoment
  · split
    · apply OnlyKnown.misread (.argument _)
    · apply OnlyKnown.ok

theorem onlyKnown_readTruth (text : String) :
  OnlyKnown (readTruth text)
  := by
  rw [readTruth]
  split
  · apply OnlyKnown.ok
  · apply OnlyKnown.misread .unknownTruthValue

namespace Node

theorem onlyKnown_textOf (fuel : Nat) (n : Node) :
  OnlyKnown (n.textOf fuel)
  := by
  fun_induction textOf fuel n with
  | case1 => apply OnlyKnown.ok
  | case2 _ _ _ _ _ _ _ ih => apply ih
  | case3 => apply OnlyKnown.fault
  | case4 => apply OnlyKnown.fault

theorem onlyKnown_flatten (start : Mark) (entries : List (Node × Node)) (fuel : Nat) :
  OnlyKnown (flatten start entries fuel)
  := by
  induction fuel generalizing start entries with
  | zero => apply OnlyKnown.ok
  | succ fuel ih =>
      rw [flatten]
      apply OnlyKnown.bind _ fun parts => OnlyKnown.ok _
      apply OnlyKnown.mapM
      rintro ⟨key, value⟩
      dsimp only
      split
      · split
        · apply (ih _ _).map
        · apply OnlyKnown.bind _ fun merged => OnlyKnown.ok _
          apply OnlyKnown.mapM
          intro n
          split
          · apply ih
          · apply OnlyKnown.inside
        · apply OnlyKnown.inside
      · apply OnlyKnown.ok

end Node

/-! ### Collections -/

/-- The troubles that were met with are all known. -/
def AllKnown (ts : List (Nat × Trouble)) : Prop := ∀ x ∈ ts, x.2.IsKnown

theorem AllKnown.nil :
  AllKnown []
  := List.forall_mem_nil _

theorem AllKnown.append {ts ts' : List (Nat × Trouble)} (h : AllKnown ts) (h' : AllKnown ts') :
  AllKnown (ts ++ ts')
  := List.forall_mem_append.mpr ⟨h, h'⟩

theorem AllKnown.flatMap {α : Type} {f : α → List (Nat × Trouble)} {l : List α}
    (h : ∀ a ∈ l, AllKnown (f a)) :
  AllKnown (l.flatMap f)
  := by
  intro x hx
  obtain ⟨a, ha, hx⟩ := List.mem_flatMap.mp hx
  apply h a ha x hx

theorem AllKnown.foldl {α β : Type} {op : Built β → α → Built β}
    (hop : ∀ b a, AllKnown b.2 → AllKnown (op b a).2) {b : Built β} (hb : AllKnown b.2)
    (l : List α) :
  AllKnown (l.foldl op b).2
  := by
  induction l generalizing b with
  | nil => apply hb
  | cons a l ih => apply ih (hop b a hb)

theorem AllKnown.singleton (level : Nat) {t : Trouble} (h : t.IsKnown) :
  AllKnown [(level, t)]
  := by
  rintro x hx
  obtain rfl := List.mem_singleton.mp hx
  apply h

theorem allKnown_fault (level : Nat) (f : Fault) :
  AllKnown [(level, .fault f)]
  := AllKnown.singleton level (.fault f)

theorem allKnown_ofScalar (level : Nat) {x : Except Trouble Value} (h : OnlyKnown x) :
  AllKnown (Built.ofScalar level x).2
  := by
  cases x with
  | ok v => apply AllKnown.nil
  | error t => apply AllKnown.singleton level (h t rfl)

/-- What is met with on the way to the value of a node. -/
structure BuildsKnown (fuel : Nat) : Prop where
  build : ∀ level n, AllKnown (Node.build level n fuel).2
  buildAll : ∀ level ns, AllKnown (Node.buildAll level ns fuel).2
  buildMapping : ∀ level n, AllKnown (Node.buildMapping level n fuel).2
  buildPairs : ∀ level what n, AllKnown (Node.buildPairs level what n fuel).2

section Step

variable {fuel : Nat} (h : BuildsKnown fuel)
include h

theorem allKnown_build (level : Nat) (n : Node) :
  AllKnown (n.build level (fuel + 1)).2
  := by
  have hscalar : ∀ {read : String → Except Trouble Value}, (∀ s, OnlyKnown (read s)) →
      AllKnown (Built.ofScalar level ((n.textOf (fuel + 1)).bind read)).2 := by
    intro read hread
    apply allKnown_ofScalar
    apply OnlyKnown.bind (Node.onlyKnown_textOf _ _) hread
  rw [Node.build.eq_def]
  dsimp only
  split
  · apply hscalar fun _ => OnlyKnown.ok _
  · apply hscalar onlyKnown_readTruth
  · apply hscalar fun s => (onlyKnown_readInt s).map _
  · apply hscalar fun s => (onlyKnown_readDecimal s).map _
  · apply hscalar (onlyKnown_readBinary _)
  · apply hscalar onlyKnown_readMoment
  · apply hscalar fun _ => OnlyKnown.ok _
  · split
    · apply h.buildAll
    · apply allKnown_fault
  · apply h.buildMapping
  · apply h.buildMapping
  · apply h.buildPairs
  · apply h.buildPairs
  · apply allKnown_fault

theorem allKnown_buildAll (level : Nat) (ns : List Node) :
  AllKnown (Node.buildAll level ns (fuel + 1)).2
  := by
  rw [Node.buildAll]
  apply AllKnown.flatMap
  intro b hb
  obtain ⟨n, -, rfl⟩ := List.mem_map.mp hb
  apply h.build

theorem allKnown_buildMapping (level : Nat) (n : Node) :
  AllKnown (Node.buildMapping level n (fuel + 1)).2
  := by
  rw [Node.buildMapping.eq_def]
  dsimp only
  split
  · split
    · next t ht => apply AllKnown.singleton level (Node.onlyKnown_flatten _ _ _ t ht)
    · next start _ entries hentries =>
      apply AllKnown.foldl _ AllKnown.nil
      rintro ⟨done, ts⟩ ⟨k, v⟩ hts
      apply AllKnown.append _ (h.build level v)
      apply AllKnown.append
      · apply AllKnown.append hts (h.build level k)
      · dsimp only
        split
        · apply AllKnown.nil
        · apply allKnown_fault
  · apply allKnown_fault

theorem allKnown_buildPairs (level : Nat) (what : String) (n : Node) :
  AllKnown (Node.buildPairs level what n (fuel + 1)).2
  := by
  rw [Node.buildPairs.eq_def]
  dsimp only
  split
  · apply AllKnown.flatMap
    intro b hb
    obtain ⟨item, -, rfl⟩ := List.mem_map.mp hb
    split
    · apply AllKnown.append (h.build _ _) (h.build _ _)
    · apply allKnown_fault
    · apply allKnown_fault
  · apply allKnown_fault

end Step

theorem buildsKnown (fuel : Nat) :
  BuildsKnown fuel
  := by
  induction fuel with
  | zero =>
      constructor
      case build => exact fun _ _ => AllKnown.nil
      case buildAll => exact fun _ _ => AllKnown.nil
      case buildMapping => exact fun _ _ => AllKnown.nil
      case buildPairs => exact fun _ _ _ => AllKnown.nil
  | succ fuel ih =>
      constructor
      case build => apply allKnown_build ih
      case buildAll => apply allKnown_buildAll ih
      case buildMapping => apply allKnown_buildMapping ih
      case buildPairs => apply allKnown_buildPairs ih

/-! ### Documents -/

theorem mem_of_firstTrouble {ts : List (Nat × Trouble)} {t : Trouble}
    (h : Node.firstTrouble ts = some t) :
  ∃ level, (level, t) ∈ ts
  := by
  fun_induction Node.firstTrouble ts with
  | case1 => cases h
  | case2 level t rest hany ih =>
      obtain ⟨level, hmem⟩ := ih h
      use level, List.mem_cons_of_mem _ hmem
  | case3 level t rest hany =>
      obtain rfl := Option.some.inj h
      use level, List.mem_cons_self

theorem onlyKnown_value (n : Node) :
  OnlyKnown n.value
  := by
  intro t ht
  rw [Node.value] at ht
  dsimp only at ht
  split at ht
  · next t' hfirst =>
    obtain rfl := Except.error.inj ht
    obtain ⟨level, hmem⟩ := mem_of_firstTrouble hfirst
    apply (buildsKnown _).build _ _ _ hmem
  · cases ht

/-- A fault is told as one of the notation, or a number is out of range or too long. -/
theorem Fault.failure_cases (path : String) (f : Fault) :
  (∃ detail, f.failure path = .config (.malformedYaml path detail)) ∨ (f.failure path).IsMisread
  := by
  unfold Fault.failure
  split
  · apply Or.inr
    split
    · apply Failure.IsMisread.argument
    · apply Failure.IsMisread.overflow
  · apply Or.inr (Failure.IsMisread.argument _)
  · apply Or.inl ⟨_, rfl⟩

/-- A reader that stops early does so at a fault, or because the stack has no room. -/
theorem EarlyStop.failure_cases (path : String) (stop : EarlyStop) :
  (∃ detail, stop.failure path = .config (.malformedYaml path detail))
    ∨ (stop.failure path).IsUnread
  := by
  cases stop with
  | fault f => apply (f.failure_cases path).imp_right Or.inl
  | tooDeep => exact .inr (.inr rfl)

/-- Reading a document fails for its notation, or because something in it is misread, or because it
is nested too deeply. -/
theorem readDocument_error_cases [ReadingLimits] {path text : String} {f : Failure}
    (h : readDocument path text = .error f) :
  (∃ detail, f = .config (.malformedYaml path detail)) ∨ f.IsUnread
  := by
  rw [readDocument] at h
  split at h
  · obtain rfl := Except.error.inj h
    exact .inr (.inr rfl)
  split at h
  · next fault hfault =>
    obtain rfl := Except.error.inj h
    apply (fault.failure_cases path).imp_right Or.inl
  · cases h
  · next n hn =>
    split at h
    · cases h
    · next fault hvalue =>
      obtain rfl := Except.error.inj h
      apply (fault.failure_cases path).imp_right Or.inl
    · next f' hvalue =>
      obtain rfl := Except.error.inj h
      cases onlyKnown_value n _ hvalue with
      | misread hf => exact .inr (.inl hf)

end Yaml

end CommitPolicy
