import CommitPolicy.Policy.Evaluate
import Mathlib.Data.List.Basic
import Mathlib.Data.List.Nodup
import Mathlib.Data.List.Perm.Subperm
import Mathlib.Data.List.TakeWhile
import Mathlib.Tactic.Use

/-!
# The order of violations

Where the rules of a policy are listed in reporting order, their keys increase.  So whichever rules
are done, and in whatever order, sorting what they found by key gives the violations of these rules
in the order of the rules.  A verdict lists them all and says that time ran out exactly if some
rules were not done, and a validation without a deadline does not depend on its course.
-/

namespace CommitPolicy

/-! ### The order of keys -/

theorem keyLe_iff {a b : Nat × Nat} :
  keyLe a b = true ↔ a.1 < b.1 ∨ (a.1 = b.1 ∧ a.2 ≤ b.2)
  := by
  simp [keyLe]

theorem keyLe_trans {a b c : Nat × Nat} (hab : keyLe a b = true) (hbc : keyLe b c = true) :
  keyLe a c = true
  := by
  rw [keyLe_iff] at *
  omega

theorem keyLe_total (a b : Nat × Nat) :
  (keyLe a b || keyLe b a) = true
  := by
  rw [Bool.or_eq_true, keyLe_iff, keyLe_iff]
  omega

theorem keyLe_antisymm {a b : Nat × Nat} (hab : keyLe a b = true) (hba : keyLe b a = true) :
  a = b
  := by
  rw [keyLe_iff] at hab hba
  apply Prod.ext
  · omega
  · omega

namespace RuleSet

/-! ### Rules in reporting order -/

/-- The kinds of the rules are in reporting order. -/
def InOrder (rules : List Rule) : Prop :=
  rules.Pairwise fun r s => r.kind.priority ≤ s.kind.priority

theorem exists_of_mem_keyed {rules : List Rule} {index : Nat} {x : (Nat × Nat) × Rule}
    (h : x ∈ keyed index rules) :
  x.2 ∈ rules ∧ x.1.1 = x.2.kind.priority ∧ index ≤ x.1.2
  := by
  induction rules generalizing index with
  | nil => cases h
  | cons r rest ih =>
      rcases List.mem_cons.mp h with rfl | h
      · simp
      · obtain ⟨hmem, hkey, hindex⟩ := ih h
        refine ⟨List.mem_cons_of_mem r hmem, hkey, ?_⟩
        omega

/-- The keys of rules in reporting order increase. -/
theorem pairwise_keyed {rules : List Rule} (h : InOrder rules) (index : Nat) :
  (keyed index rules).Pairwise fun x y => keyLe x.1 y.1 = true ∧ x.1 ≠ y.1
  := by
  induction rules generalizing index with
  | nil => apply List.Pairwise.nil
  | cons r rest ih =>
      obtain ⟨hr, hrest⟩ := List.pairwise_cons.mp h
      apply List.Pairwise.cons
      · intro x hx
        obtain ⟨hmem, hkey, hindex⟩ := exists_of_mem_keyed hx
        have hle := hr x.2 hmem
        constructor
        · rw [keyLe_iff, hkey]
          simp only
          omega
        · rintro heq
          have : index = x.1.2 := congrArg Prod.snd heq
          omega
      · apply ih hrest

/-- What a rule with a key finds, with the key. -/
def found (c : Commit) (message : String) (x : (Nat × Nat) × Rule) :
    Option ((Nat × Nat) × Violation) :=
  (x.2.check c message).map fun v => (x.1, v)

theorem map_filterMap_found (rules : List ((Nat × Nat) × Rule)) (c : Commit) (message : String) :
  (rules.filterMap (found c message)).map (·.2) = rules.filterMap fun x => x.2.check c message
  := by
  rw [List.map_filterMap]
  simp [found, Function.comp_def]

theorem pairwise_filterMap_found {rules : List ((Nat × Nat) × Rule)}
    (h : rules.Pairwise fun x y => keyLe x.1 y.1 = true ∧ x.1 ≠ y.1) (c : Commit)
    (message : String) :
  (rules.filterMap (found c message)).Pairwise fun x y => keyLe x.1 y.1 = true ∧ x.1 ≠ y.1
  := by
  apply h.filterMap
  intro x y hxy u hu w hw
  obtain ⟨_, -, rfl⟩ := Option.map_eq_some_iff.mp hu
  obtain ⟨_, -, rfl⟩ := Option.map_eq_some_iff.mp hw
  apply hxy

/-! ### Numbers of rules -/

theorem filterMap_range_getElem? {α β : Type} (l : List α) (f : α → Option β) :
  ((List.range l.length).filterMap fun i => l[i]?.bind f) = l.filterMap f
  := by
  induction l with
  | nil => rfl
  | cons a l ih =>
      rw [List.length_cons, List.range_succ_eq_map, List.filterMap_cons, List.filterMap_map,
        List.filterMap_cons]
      simp only [Function.comp_def, List.getElem?_cons_succ, ih]
      rfl

theorem length_keyed (rules : List Rule) (index : Nat) :
  (keyed index rules).length = rules.length
  := by
  induction rules generalizing index with
  | nil => rfl
  | cons r rest ih => rw [keyed, List.length_cons, List.length_cons, ih]

theorem map_keyed (rules : List Rule) (index : Nat) :
  (keyed index rules).map (·.2) = rules
  := by
  induction rules generalizing index with
  | nil => rfl
  | cons r rest ih => rw [keyed, List.map_cons, ih]

/-- A key ends in the number of its rule. -/
theorem number_of_getElem?_keyed {rules : List Rule} {index i : Nat} {x : (Nat × Nat) × Rule}
    (h : (keyed index rules)[i]? = some x) :
  x.1.2 = index + i
  := by
  induction rules generalizing index i with
  | nil => cases h
  | cons r rest ih =>
      cases i with
      | zero =>
          obtain rfl := Option.some.inj h
          rfl
      | succ i =>
          have := ih h
          omega

/-- The rules with the given numbers, in reporting order. -/
def numbered (rs : RuleSet) (done : List Nat) : List ((Nat × Nat) × Rule) :=
  rs.orderedRules.filter fun x => x.1.2 ∈ done

/-- The violations of the rules with the given numbers, in reporting order. -/
def violationsOf (rs : RuleSet) (c : Commit) (message : String) (done : List Nat) :
    List Violation :=
  (rs.numbered done).filterMap fun x => x.2.check c message

theorem filterMap_numbered {rs : RuleSet} {β : Type} (f : (Nat × Nat) × Rule → Option β)
    (done : List Nat) :
  ((List.range rs.rules.length).filter (· ∈ done)).filterMap
      (fun i => rs.orderedRules[i]?.bind f)
    = (rs.numbered done).filterMap f
  := by
  rw [numbered, List.filterMap_filter, List.filterMap_filter,
    ← filterMap_range_getElem? rs.orderedRules, orderedRules, length_keyed]
  apply List.filterMap_congr
  intro i _
  cases hi : (keyed 0 rs.rules)[i]? with
  | none => simp
  | some x => simp [number_of_getElem?_keyed hi]

/-- The rules are numbered from zero on. -/
theorem map_number_orderedRules (rs : RuleSet) :
  (rs.orderedRules.map fun x => x.1.2) = List.range rs.rules.length
  := by
  apply List.ext_getElem?
  intro i
  rw [List.getElem?_map, orderedRules]
  cases hi : (keyed 0 rs.rules)[i]? with
  | none =>
      have hle := List.getElem?_eq_none_iff.mp hi
      rw [length_keyed] at hle
      simp [hle]
  | some x =>
      have hlt := (List.getElem?_eq_some_iff.mp hi).1
      rw [length_keyed] at hlt
      simp [number_of_getElem?_keyed hi, hlt]

theorem map_number_numbered (rs : RuleSet) (done : List Nat) :
  ((rs.numbered done).map fun x => x.1.2) = (List.range rs.rules.length).filter (· ∈ done)
  := by
  rw [← map_number_orderedRules, List.filter_map]
  rfl

/-- Every rule is among those with the given numbers. -/
theorem numbered_eq_orderedRules {rs : RuleSet} {done : List Nat}
    (h : ∀ i < rs.rules.length, i ∈ done) :
  rs.numbered done = rs.orderedRules
  := by
  apply List.filter_eq_self.mpr
  intro x hx
  have hmem := List.mem_map_of_mem (f := fun x => x.1.2) hx
  rw [map_number_orderedRules, List.mem_range] at hmem
  apply decide_eq_true (h x.1.2 hmem)

theorem violationsOf_eq_filterMap {rs : RuleSet} {done : List Nat}
    (h : ∀ i < rs.rules.length, i ∈ done) (c : Commit) (message : String) :
  rs.violationsOf c message done = rs.rules.filterMap fun r => r.check c message
  := by
  rw [violationsOf, numbered_eq_orderedRules h]
  conv_rhs => rw [← map_keyed rs.rules 0, List.filterMap_map]
  rfl

/-- No violation is found that all rules together do not find, and the order is the same. -/
theorem violationsOf_sublist (rs : RuleSet) (c : Commit) (message : String) (done : List Nat) :
  (rs.violationsOf c message done).Sublist (rs.rules.filterMap fun r => r.check c message)
  := by
  rw [← violationsOf_eq_filterMap (fun i hi => List.mem_range.mpr hi), violationsOf, violationsOf,
    numbered_eq_orderedRules (fun i hi => List.mem_range.mpr hi)]
  apply List.Sublist.filterMap
  apply List.filter_sublist

theorem filter_lt_keyed (rules : List Rule) (index k : Nat) :
  ((keyed index rules).filter fun x => x.1.2 < index + k) = (keyed index rules).take k
  := by
  induction rules generalizing index k with
  | nil => simp [keyed]
  | cons r rest ih =>
      cases k with
      | zero =>
          rw [List.take_zero, List.filter_eq_nil_iff]
          intro x hx
          have := (exists_of_mem_keyed hx).2.2
          simp only [decide_eq_true_eq]
          omega
      | succ k =>
          rw [keyed, List.filter_cons_of_pos (by simp), List.take_succ_cons, ← ih,
            Nat.add_right_comm, Nat.add_assoc]

/-- The rules numbered up to `k` are the first `k` ones. -/
theorem numbered_range (rs : RuleSet) (k : Nat) :
  rs.numbered (List.range k) = rs.orderedRules.take k
  := by
  rw [orderedRules, ← filter_lt_keyed, numbered]
  simp [orderedRules]

/-! ### Collecting and sorting -/

section Done

variable {rs : RuleSet} {done : List Nat} (hnodup : done.Nodup)
  (hdone : ∀ i ∈ done, i < rs.rules.length)
include hnodup hdone

theorem perm_filter_range :
  done.Perm ((List.range rs.rules.length).filter (· ∈ done))
  := by
  apply (List.perm_ext_iff_of_nodup hnodup (List.nodup_range.filter _)).mpr
  intro i
  simp only [List.mem_filter, List.mem_range, decide_eq_true_eq]
  constructor
  · intro hi
    use hdone i hi
  · apply And.right

theorem length_numbered :
  (rs.numbered done).length = done.length
  := by
  rw [← List.length_map (fun x => x.1.2), map_number_numbered]
  apply (perm_filter_range hnodup hdone).length_eq.symm

theorem collect_perm (c : Commit) (message : String) :
  (rs.collect c message done).Perm ((rs.numbered done).filterMap (found c message))
  := by
  rw [← filterMap_numbered]
  apply (perm_filter_range hnodup hdone).filterMap

/-- Sorting what was found puts the violations in the order of the rules. -/
theorem sortedViolations_collect (hrules : InOrder rs.rules) (c : Commit) (message : String) :
  sortedViolations (rs.collect c message done) = rs.violationsOf c message done
  := by
  have hperm := (List.mergeSort_perm (rs.collect c message done) fun a b => keyLe a.1 b.1).trans
    (collect_perm hnodup hdone c message)
  have hsorted : ((rs.collect c message done).mergeSort fun a b => keyLe a.1 b.1).Pairwise
      fun a b => keyLe a.1 b.1 = true := by
    apply List.pairwise_mergeSort
    · intro x y z
      apply keyLe_trans
    · intro x y
      apply keyLe_total
  have horder : ((rs.numbered done).filterMap (found c message)).Pairwise
      fun x y => keyLe x.1 y.1 = true ∧ x.1 ≠ y.1 := by
    apply pairwise_filterMap_found
    apply (pairwise_keyed hrules 0).filter
  have hkeys : (((rs.numbered done).filterMap (found c message)).map (·.1)).Nodup := by
    apply List.pairwise_map.mpr (horder.imp And.right)
  have heq : ((rs.collect c message done).mergeSort fun a b => keyLe a.1 b.1)
      = (rs.numbered done).filterMap (found c message) := by
    apply List.Perm.eq_of_pairwise _ hsorted (horder.imp And.left) hperm
    intro x y hx hy hxy hyx
    apply List.inj_on_of_nodup_map hkeys (hperm.subset hx) hy (keyLe_antisymm hxy hyx)
  rw [sortedViolations, heq, map_filterMap_found, violationsOf]

/-- If some rules were not done, the verdict lists the violations of the others and says that time
ran out. -/
theorem judge_of_length_lt (hrules : InOrder rs.rules) (hlength : done.length < rs.rules.length)
    (c : Commit) (message : String) (seconds : Option Float) :
  rs.judge c message seconds done
    = .inconclusive (rs.violationsOf c message done
        ++ [timeoutViolation seconds done.length rs.rules.length])
  := by
  rw [judge, sortedViolations_collect hnodup hdone hrules, if_pos hlength]

/-- Once all rules are done the verdict lists their violations, and time has not run out. -/
theorem judge_of_length_le (hrules : InOrder rs.rules) (hlength : rs.rules.length ≤ done.length)
    (c : Commit) (message : String) (seconds : Option Float) :
  rs.judge c message seconds done = .failed (rs.rules.filterMap fun r => r.check c message)
  := by
  have hsubset : done ⊆ List.range rs.rules.length := by
    intro i hi
    apply List.mem_range.mpr (hdone i hi)
  have hperm : done.Perm (List.range rs.rules.length) := by
    apply (hnodup.subperm hsubset).perm_of_length_le
    rwa [List.length_range]
  have hall : ∀ i < rs.rules.length, i ∈ done := by
    intro i hi
    apply hperm.symm.subset (List.mem_range.mpr hi)
  rw [judge, sortedViolations_collect hnodup hdone hrules, if_neg (by omega),
    violationsOf_eq_filterMap hall]
  cases rs.rules.filterMap fun r => r.check c message with
  | nil => rfl
  | cons v vs => rfl

end Done

end RuleSet

/-! ### Without a deadline -/

/-- Every rule is done: in turn unless a deadline comes, and at once if waiting ended when all were
done. -/
def Course.Finishes (total : Nat) : Course → Prop
  | inTurn _ => True
  | atOnce _ done => done.Perm (List.range total)

theorem Course.Finishes.completed_perm {total : Nat} {course : Course} (h : course.Finishes total) :
  (course.completed none total).Perm (List.range total)
  := by
  cases course with
  | inTurn clock =>
      rw [completed, List.takeWhile_eq_self_iff.mpr]
      simp [expired]
  | atOnce waits done => apply h

namespace RuleSet

/-- A validation without a deadline: an ignore pattern comes first, then the grammar of messages,
and then all rules. -/
theorem validate_of_finishes {rs : RuleSet} (hrules : InOrder rs.rules) {course : Course}
    (hcourse : course.Finishes rs.rules.length) (message : String) (start : Float) :
  rs.validate message none start course
    = if (rs.ignoredBy message).isSome then .skipped
      else
        match Commit.parse message with
        | .error e => .failed [⟨RuleKind.format.name, e.message⟩]
        | .ok c => .failed (rs.rules.filterMap fun r => r.check c message)
  := by
  unfold validate
  split
  · rfl
  · cases Commit.parse message with
    | error e => rfl
    | ok c =>
        have hperm := hcourse.completed_perm
        apply judge_of_length_le _ _ hrules
        · rw [Option.map_none, hperm.length_eq, List.length_range]
        · apply hperm.symm.nodup List.nodup_range
        · intro i hi
          apply List.mem_range.mp (hperm.subset hi)

end RuleSet

end CommitPolicy
