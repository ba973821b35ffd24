import CommitPolicy.Text.Order

/-!
# Similar texts

Two texts are alike in their longest common piece, and in what is alike before and after it.  The
likeness of two texts is the part of their characters that is alike.
-/

namespace CommitPolicy.Text

/-- The number of characters at the start of two texts that are the same. -/
def commonStart : List Char → List Char → Nat
  | a :: s, b :: t => if a = b then commonStart s t + 1 else 0
  | _, _ => 0

/-- A common piece: its length, and the number of characters before it in each of the texts. -/
structure CommonPiece where
  length : Nat
  left : Nat
  right : Nat

/-- The first one of the longest common pieces, the start of the first text mattering more than that
of the second. -/
def longestCommonPiece (s t : List Char) : CommonPiece :=
  let starts := (List.range s.length).flatMap fun i => (List.range t.length).map fun j => (i, j)
  starts.foldl (fun best (i, j) =>
    let n := commonStart (s.drop i) (t.drop j)
    if best.length < n then ⟨n, i, j⟩ else best) ⟨0, 0, 0⟩

/-- The number of characters that are alike in two texts, the first one of at most `fuel`
characters. -/
def alike : (fuel : Nat) → List Char → List Char → Nat
  | 0, _, _ => 0
  | fuel + 1, s, t =>
    let piece := longestCommonPiece s t
    if piece.length = 0 then 0
    else
      piece.length + alike fuel (s.take piece.left) (t.take piece.right)
        + alike fuel (s.drop (piece.left + piece.length)) (t.drop (piece.right + piece.length))

/-- The likeness of two texts, as the characters of both that are alike out of all. -/
def likeness (s t : String) : Nat × Nat :=
  (2 * alike s.length s.toList t.toList, s.length + t.length)

/-- Whether three fifths of the characters of two texts are alike. -/
def isSimilar (s t : String) : Bool :=
  let (same, all) := likeness s t
  3 * all ≤ 5 * same

/-- At most three of the candidates that are similar to a text, those that are most like it, in
order. -/
def similarTo (s : String) (candidates : List String) : List String :=
  let close := candidates.filter fun c => isSimilar c s
  let ranked := close.mergeSort fun a b =>
    let (sameA, allA) := likeness a s
    let (sameB, allB) := likeness b s
    if sameA * allB = sameB * allA then b ≤ a else sameB * allA < sameA * allB
  sortTexts (ranked.take 3)

end CommitPolicy.Text
