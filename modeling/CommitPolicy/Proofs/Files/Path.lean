import CommitPolicy.Files.Path
import CommitPolicy.Proofs.Text.Lines

/-!
# Paths that stay inside a directory

A path is put in its normal form by cancelling every pair of dots with the component before it,
without looking at any file.  A path is confined if it is relative and its components are plain
names.  It is shown that

* a confined path, seen from any directory, has a normal form in that directory or below it;
* a text that does not start with a slash and has no pair of dots is read as a confined path.
-/

namespace CommitPolicy

open Text

namespace Path

/-- Adds a component after others, which are kept with the last one first.  A pair of dots cancels
the component before it; if there is none, it is dropped at a root and kept elsewhere. -/
def addPart (absolute : Bool) (before : List String) (name : String) : List String :=
  if name = ".." then
    match before with
    | [] => if absolute then [] else [".."]
    | last :: others => if last = ".." then ".." :: before else others
  else name :: before

/-- The path with pairs of dots cancelled as far as they can be. -/
def normalized (p : Path) : Path := ⟨p.root, (p.parts.foldl (addPart p.isAbsolute) []).reverse⟩

/-- The path `q` is `p` or goes on from it. -/
def IsAtOrBelow (q p : Path) : Prop := q.root = p.root ∧ p.parts <+: q.parts

/-- A component that is the name of something in a directory. -/
structure IsName (name : String) : Prop where
  ne_empty : name ≠ ""
  ne_dot : name ≠ "."
  ne_dots : name ≠ ".."
  noSlash : '/' ∉ name.toList

/-- A relative path whose components are names. -/
structure IsConfined (p : Path) : Prop where
  relative : p.isAbsolute = false
  names : ∀ name ∈ p.parts, IsName name

/-! ### Normal forms -/

theorem addPart_of_ne {absolute : Bool} {before : List String} {name : String} (h : name ≠ "..") :
  addPart absolute before name = name :: before
  := by
  unfold addPart
  rw [if_neg h]

/-- Components that are no pairs of dots are kept, and cancel nothing. -/
theorem foldl_addPart {absolute : Bool} {names : List String} (h : ∀ name ∈ names, name ≠ "..")
    (before : List String) :
  names.foldl (addPart absolute) before = names.reverse ++ before
  := by
  induction names generalizing before with
  | nil => rfl
  | cons name rest ih =>
      rw [List.forall_mem_cons] at h
      rw [List.foldl_cons, addPart_of_ne h.1, ih h.2, List.reverse_cons, List.append_assoc]
      rfl

/-- A confined path is appended to the normal form of the directory that it is seen from. -/
theorem IsConfined.normalized_join {p : Path} (h : p.IsConfined) (d : Path) :
  (d.join p).normalized = ⟨d.root, d.normalized.parts ++ p.parts⟩
  := by
  have hjoin : d.join p = ⟨d.root, d.parts ++ p.parts⟩ := by
    rw [join, h.relative]
    rfl
  have hdots : ∀ name ∈ p.parts, name ≠ ".." := fun name hname => (h.names name hname).ne_dots
  rw [hjoin, normalized, List.foldl_append, foldl_addPart hdots, List.reverse_append,
    List.reverse_reverse]
  rfl

theorem IsConfined.isAtOrBelow {p : Path} (h : p.IsConfined) (d : Path) :
  (d.join p).normalized.IsAtOrBelow d.normalized
  := by
  rw [h.normalized_join]
  use rfl, p.parts

/-! ### Reading a path -/

theorem rootOf_of_head?_ne {s : List Char} (h : s.head? ≠ some '/') :
  rootOf s = ""
  := by
  cases s with
  | nil => rfl
  | cons c rest =>
      have hc : (c == '/') = false := by simpa using h
      rw [rootOf, List.takeWhile_cons, hc]
      rfl

theorem isConfined_ofString {s : String} (hslash : s.toList.head? ≠ some '/')
    (hdots : ¬"..".toList <:+: s.toList) :
  (ofString s).IsConfined
  := by
  constructor
  · rw [isAbsolute, ofString, rootOf_of_head?_ne hslash]
    rfl
  · intro name hname
    rw [ofString, partsOf, List.mem_filter, List.mem_map] at hname
    obtain ⟨⟨piece, hpiece, rfl⟩, hkept⟩ := hname
    obtain ⟨hempty, hdot⟩ : String.ofList piece ≠ "" ∧ String.ofList piece ≠ "." := by
      simpa using hkept
    constructor
    · apply hempty
    · apply hdot
    · intro heq
      apply hdots
      rw [← heq, String.toList_ofList]
      apply (splitAt_isPrefix_isInfix '/' s.toList).2 piece hpiece
    · rw [String.toList_ofList]
      apply not_mem_of_mem_splitAt hpiece

end Path

end CommitPolicy
