import CommitPolicy.Console.Markup
import Mathlib.Data.List.DropRight
import Mathlib.Data.List.TakeWhile
import Mathlib.Tactic.Use

/-!
# Escaped text

Every tag of a text is plain once the text is escaped, and the pieces of the escaped text are those
of the text, made plain.  Only the backslashes at the end of a text are read together with a tag
that comes next: they are escaped if there is just one of them.
-/

namespace CommitPolicy.Console

/-! ### Tags -/

/-- The text of a tag: it starts like one and has no brackets. -/
structure IsTag (body : List Char) : Prop where
  opens : ∃ c rest, body = c :: rest ∧ opensTag c = true
  open_not_mem : '[' ∉ body
  close_not_mem : ']' ∉ body

theorem upToBracket_cons {c : Char} (hopen : c ≠ '[') (hclose : c ≠ ']') (s : List Char) :
  upToBracket (c :: s) = (upToBracket s).map fun (body, rest) => (c :: body, rest)
  := by
  rw [upToBracket]
  · exact fun h => hopen h
  · exact fun h => hclose h

theorem upToBracket_eq_some_iff {s body rest : List Char} :
  upToBracket s = some (body, rest) ↔ s = body ++ ']' :: rest ∧ '[' ∉ body ∧ ']' ∉ body
  := by
  induction s generalizing body with
  | nil => simp [upToBracket]
  | cons c s ih =>
      by_cases hopen : c = '['
      · subst hopen
        cases body with
        | nil => simp [upToBracket]
        | cons b body =>
            simp only [upToBracket, List.cons_append, List.cons.injEq, List.mem_cons, not_or]
            constructor
            · rintro ⟨⟩
            · rintro ⟨⟨hb, -⟩, ⟨hne, -⟩, -⟩
              cases hne hb
      · by_cases hclose : c = ']'
        · subst hclose
          cases body with
          | nil => simp [upToBracket]
          | cons b body =>
              simp only [upToBracket, List.cons_append, List.cons.injEq, List.mem_cons, not_or]
              constructor
              · rintro ⟨⟩
              · rintro ⟨⟨hb, -⟩, -, hne, -⟩
                cases hne hb
        · rw [upToBracket_cons hopen hclose]
          cases body with
          | nil => simp [hclose]
          | cons b body =>
              simp only [Option.map_eq_some_iff, Prod.exists, Prod.mk.injEq, List.cons.injEq,
                List.cons_append, List.mem_cons, not_or]
              constructor
              · rintro ⟨body', rest', h, ⟨rfl, rfl⟩, rfl⟩
                obtain ⟨rfl, hopens, hcloses⟩ := ih.mp h
                refine ⟨⟨rfl, rfl⟩, ⟨Ne.symm hopen, hopens⟩, ⟨Ne.symm hclose, hcloses⟩⟩
              · rintro ⟨⟨rfl, rfl⟩, hopens, hcloses⟩
                use body, rest
                refine ⟨ih.mpr ⟨rfl, hopens.2, hcloses.2⟩, ⟨rfl, rfl⟩, rfl⟩

theorem tagBody?_eq_some_iff {s body rest : List Char} :
  tagBody? s = some (body, rest) ↔ s = body ++ ']' :: rest ∧ IsTag body
  := by
  cases s with
  | nil => simp [tagBody?]
  | cons c s =>
      rw [tagBody?]
      constructor
      · intro h
        split at h
        · next hopens =>
          obtain ⟨⟨body', rest'⟩, hbody, ⟨⟩⟩ := Option.map_eq_some_iff.mp h
          obtain ⟨rfl, hopen, hclose⟩ := upToBracket_eq_some_iff.mp hbody
          have hc : c ≠ '[' ∧ c ≠ ']' := by
            constructor
            · rintro rfl
              cases hopens
            · rintro rfl
              cases hopens
          refine ⟨rfl, ⟨c, body', rfl, hopens⟩, ?_, ?_⟩
          · simp [hc.1.symm, hopen]
          · simp [hc.2.symm, hclose]
        · cases h
      · rintro ⟨h, ⟨_, body', rfl, hopens⟩, hopen, hclose⟩
        obtain ⟨rfl, rfl⟩ := List.cons.inj h
        rw [if_pos hopens, Option.map_eq_some_iff]
        use (body', rest)
        refine ⟨upToBracket_eq_some_iff.mpr ⟨rfl, ?_, ?_⟩, rfl⟩
        · exact fun hmem => hopen (List.mem_cons_of_mem _ hmem)
        · exact fun hmem => hclose (List.mem_cons_of_mem _ hmem)

/-! ### Pieces -/

theorem backslashes_succ (n : Nat) :
  backslashes (n + 1) = '\\' :: backslashes n
  := List.replicate_succ

theorem piecesAfter_backslash (n : Nat) (s : List Char) :
  piecesAfter n ('\\' :: s) = piecesAfter (n + 1) s
  := by
  rw [piecesAfter, if_pos rfl]

theorem piecesAfter_backslashes (m n : Nat) (s : List Char) :
  piecesAfter m (backslashes n ++ s) = piecesAfter (m + n) s
  := by
  induction n generalizing m with
  | zero => rfl
  | succ n ih =>
      rw [backslashes_succ, List.cons_append, piecesAfter_backslash, ih, Nat.add_right_comm,
        Nat.add_assoc]

theorem piecesAfter_tag {body : List Char} (h : IsTag body) (n : Nat) (s : List Char) :
  piecesAfter n ('[' :: (body ++ ']' :: s)) = .tag n body :: piecesAfter 0 s
  := by
  have hbody : tagBody? (body ++ ']' :: s) = some (body, s) := tagBody?_eq_some_iff.mpr ⟨rfl, h⟩
  rw [piecesAfter, if_neg (by decide), if_pos rfl]
  split
  · next body' rest' heq =>
    rw [hbody] at heq
    cases heq
    rfl
  · next heq =>
    rw [hbody] at heq
    cases heq

/-- A bracket that opens no tag is a character. -/
theorem piecesAfter_bracket {s : List Char} (h : tagBody? s = none) (n : Nat) :
  piecesAfter n ('[' :: s) = (backslashes n).map .char ++ .char '[' :: piecesAfter 0 s
  := by
  rw [piecesAfter, if_neg (by decide), if_pos rfl]
  split
  · next heq =>
    rw [h] at heq
    cases heq
  · rfl

theorem piecesAfter_char {c : Char} (hslash : c ≠ '\\') (hopen : c ≠ '[') (n : Nat)
    (s : List Char) :
  piecesAfter n (c :: s) = (backslashes n).map .char ++ .char c :: piecesAfter 0 s
  := by
  rw [piecesAfter, if_neg hslash, if_neg hopen]

/-- Other characters before markup are pieces of it. -/
theorem piecesAfter_append {before : List Char}
    (h : (before.all fun c => c != '\\' && c != '[') = true) (s : List Char) :
  piecesAfter 0 (before ++ s) = before.map .char ++ piecesAfter 0 s
  := by
  induction before with
  | nil => rfl
  | cons c before ih =>
      rw [List.all_cons, Bool.and_eq_true, Bool.and_eq_true, bne_iff_ne, bne_iff_ne] at h
      obtain ⟨⟨hslash, hopen⟩, hrest⟩ := h
      rw [List.cons_append, piecesAfter_char hslash hopen, ih hrest]
      rfl

/-- How markup can be read: backslashes, tags, brackets that open no tag, and other characters. -/
theorem pieces_induction {P : Nat → List Char → Prop} (nil : ∀ n, P n [])
    (backslash : ∀ n s, P (n + 1) s → P n ('\\' :: s))
    (tag : ∀ n body s, IsTag body → P 0 s → P n ('[' :: (body ++ ']' :: s)))
    (bracket : ∀ n s, tagBody? s = none → P 0 s → P n ('[' :: s))
    (char : ∀ n c s, c ≠ '\\' → c ≠ '[' → P 0 s → P n (c :: s)) (n : Nat) (s : List Char) :
  P n s
  := by
  fun_induction piecesAfter n s with
  | case1 n => apply nil
  | case2 n s ih => apply backslash n s ih
  | case3 n s body rest h _ _ ih =>
      obtain ⟨rfl, hbody⟩ := tagBody?_eq_some_iff.mp h
      apply tag n body rest hbody ih
  | case4 n s h _ ih => apply bracket n s h ih
  | case5 n c s hslash hopen ih => apply char n c s hslash hopen ih

/-! ### Escaped text -/

/-- A text that follows `n` backslashes, with the backslashes, written so that its tags are
plain. -/
def escapedAfter (n : Nat) (s : List Char) : List Char := (piecesAfter n s).flatMap Piece.escaped

theorem flatMap_escaped_map_char (s : List Char) :
  (s.map Piece.char).flatMap Piece.escaped = s
  := by
  induction s with
  | nil => rfl
  | cons c s ih => rw [List.map_cons, List.flatMap_cons, ih]; rfl

section Escaped

variable (n : Nat)

theorem escapedAfter_nil :
  escapedAfter n [] = backslashes n
  := by
  rw [escapedAfter, piecesAfter, flatMap_escaped_map_char]

theorem escapedAfter_backslash (s : List Char) :
  escapedAfter n ('\\' :: s) = escapedAfter (n + 1) s
  := by
  rw [escapedAfter, piecesAfter_backslash, escapedAfter]

theorem escapedAfter_tag {body : List Char} (h : IsTag body) (s : List Char) :
  escapedAfter n ('[' :: (body ++ ']' :: s))
    = backslashes (2 * n + 1) ++ '[' :: (body ++ ']' :: escapedAfter 0 s)
  := by
  rw [escapedAfter, piecesAfter_tag h, List.flatMap_cons, Piece.escaped]
  simp [escapedAfter]

theorem escapedAfter_bracket {s : List Char} (h : tagBody? s = none) :
  escapedAfter n ('[' :: s) = backslashes n ++ '[' :: escapedAfter 0 s
  := by
  rw [escapedAfter, piecesAfter_bracket h, List.flatMap_append, flatMap_escaped_map_char,
    List.flatMap_cons]
  rfl

theorem escapedAfter_char {c : Char} (hslash : c ≠ '\\') (hopen : c ≠ '[') (s : List Char) :
  escapedAfter n (c :: s) = backslashes n ++ c :: escapedAfter 0 s
  := by
  rw [escapedAfter, piecesAfter_char hslash hopen, List.flatMap_append, flatMap_escaped_map_char,
    List.flatMap_cons]
  rfl

end Escaped

/-! ### Escaped text before a tag -/

theorem upToBracket_backslashes {s : List Char} (h : upToBracket s = none) (n : Nat) :
  upToBracket (backslashes n ++ s) = none
  := by
  induction n with
  | zero => apply h
  | succ n ih =>
      rw [backslashes_succ, List.cons_append, upToBracket_cons (by decide) (by decide), ih]
      rfl

/-- No bracket closes in an escaped text if none closes in the text. -/
theorem upToBracket_escapedAfter {tail : List Char} (htail : upToBracket tail = none) (n : Nat)
    (s : List Char) (h : upToBracket s = none) :
  upToBracket (escapedAfter n s ++ tail) = none
  := by
  induction n, s using pieces_induction with
  | nil n =>
      rw [escapedAfter_nil]
      apply upToBracket_backslashes htail
  | backslash n s ih =>
      rw [upToBracket_cons (by decide) (by decide), Option.map_eq_none_iff] at h
      rw [escapedAfter_backslash]
      apply ih h
  | tag n body s hbody =>
      rw [escapedAfter_tag n hbody, List.append_assoc]
      apply upToBracket_backslashes
      rw [List.cons_append, upToBracket]
  | bracket n s hnone =>
      rw [escapedAfter_bracket n hnone, List.append_assoc]
      apply upToBracket_backslashes
      rw [List.cons_append, upToBracket]
  | char n c s hslash hopen ih =>
      have hclose : c ≠ ']' := by
        rintro rfl
        cases h
      rw [upToBracket_cons hopen hclose, Option.map_eq_none_iff] at h
      rw [escapedAfter_char n hslash hopen, List.append_assoc]
      apply upToBracket_backslashes
      rw [List.cons_append, upToBracket_cons hopen hclose, ih h]
      rfl

theorem exists_backslashes_append {n : Nat} (hn : 0 < n) (s : List Char) :
  ∃ rest, backslashes n ++ s = '\\' :: rest
  := by
  obtain ⟨n, rfl⟩ := Nat.exists_eq_add_one.mpr hn
  use backslashes n ++ s
  rw [backslashes_succ, List.cons_append]

/-- An escaped text starts with the backslashes that the text follows. -/
theorem exists_escapedAfter {n : Nat} (hn : 0 < n) (s : List Char) :
  ∃ rest, escapedAfter n s = '\\' :: rest
  := by
  induction n, s using pieces_induction with
  | nil n =>
      rw [escapedAfter_nil, ← List.append_nil (backslashes n)]
      apply exists_backslashes_append hn
  | backslash n s ih =>
      rw [escapedAfter_backslash]
      apply ih (by omega)
  | tag n body s hbody =>
      rw [escapedAfter_tag n hbody]
      apply exists_backslashes_append (by omega)
  | bracket n s hnone =>
      rw [escapedAfter_bracket n hnone]
      apply exists_backslashes_append hn
  | char n c s hslash hopen =>
      rw [escapedAfter_char n hslash hopen]
      apply exists_backslashes_append hn

/-- A bracket that opens no tag opens none before the escaped text either. -/
theorem tagBody?_escapedAfter {tail : List Char} (htail : upToBracket tail = none)
    (hhead : tagBody? tail = none) {s : List Char} (h : tagBody? s = none) :
  tagBody? (escapedAfter 0 s ++ tail) = none
  := by
  cases s with
  | nil =>
      rw [escapedAfter_nil]
      apply hhead
  | cons c s =>
      by_cases hslash : c = '\\'
      · subst hslash
        obtain ⟨rest, hrest⟩ := exists_escapedAfter (Nat.zero_lt_one) s
        rw [escapedAfter_backslash, hrest]
        rfl
      · by_cases hopen : c = '['
        · subst hopen
          cases hbody : tagBody? s with
          | none =>
              rw [escapedAfter_bracket 0 hbody]
              rfl
          | some found =>
              obtain ⟨body, rest⟩ := found
              obtain ⟨rfl, htag⟩ := tagBody?_eq_some_iff.mp hbody
              rw [escapedAfter_tag 0 htag]
              rfl
        · rw [escapedAfter_char 0 hslash hopen]
          change tagBody? (c :: (escapedAfter 0 s ++ tail)) = none
          rw [tagBody?] at h ⊢
          split
          · next hopens =>
            rw [if_pos hopens, Option.map_eq_none_iff] at h
            rw [upToBracket_escapedAfter htail 0 s h]
            rfl
          · rfl

/-- A piece that is not a tag in force. -/
def Piece.IsPlain : Piece → Prop
  | char _ => True
  | tag n _ => n % 2 = 1

/-- The piece that an escaped piece is read as. -/
def Piece.plain : Piece → Piece
  | char c => char c
  | tag n body => tag (2 * n + 1) body

theorem Piece.isPlain_plain (p : Piece) :
  p.plain.IsPlain
  := by
  cases p with
  | char c => trivial
  | tag n body => simp [plain, IsPlain]

theorem map_plain_map_char (s : List Char) :
  (s.map Piece.char).map Piece.plain = s.map Piece.char
  := by
  rw [List.map_map]
  rfl

/-- So many backslashes and a tag. -/
def tagAfter (k : Nat) (body : List Char) : List Char := backslashes k ++ '[' :: (body ++ [']'])

theorem upToBracket_tagAfter (k : Nat) (body : List Char) :
  upToBracket (tagAfter k body) = none
  := by
  apply upToBracket_backslashes
  rw [upToBracket]

theorem tagBody?_tagAfter (k : Nat) (body : List Char) :
  tagBody? (tagAfter k body) = none
  := by
  cases k with
  | zero => rfl
  | succ k => rfl

/-- No backslash ends a text if none ends the text that it is the end of. -/
theorem getLast?_ne_of_isSuffix {s t : List Char} (h : s <:+ t) {c : Char}
    (ht : t.getLast? ≠ some c) :
  s.getLast? ≠ some c
  := by
  obtain ⟨front, rfl⟩ := h
  intro hs
  apply ht
  rw [List.getLast?_append, hs]
  rfl

/-- A text that does not end in a backslash is read, escaped and before a tag, as its pieces made
plain. -/
theorem piecesAfter_escapedAfter {close : List Char} (hclose : IsTag close) (k n : Nat)
    (s : List Char) (h : (backslashes n ++ s).getLast? ≠ some '\\') :
  piecesAfter 0 (escapedAfter n s ++ tagAfter k close)
    = (piecesAfter n s).map Piece.plain ++ [.tag k close]
  := by
  induction n, s using pieces_induction with
  | nil n =>
      cases n with
      | zero =>
          have hnil : ∀ n, piecesAfter n [] = (backslashes n).map .char := fun n => by
            rw [piecesAfter]
          rw [escapedAfter_nil, hnil, tagAfter, piecesAfter_backslashes, piecesAfter_backslashes,
            piecesAfter_tag hclose, hnil]
          simp [backslashes]
      | succ n => simp [backslashes, List.getLast?_replicate] at h
  | backslash n s ih =>
      rw [escapedAfter_backslash, piecesAfter_backslash]
      apply ih
      rwa [backslashes, List.replicate_succ', List.append_assoc]
  | tag n body s hbody ih =>
      have hsuffix : s <:+ backslashes n ++ '[' :: (body ++ ']' :: s) := by
        rw [← List.cons_append, ← List.append_assoc]
        apply (List.suffix_cons ']' s).trans (List.suffix_append _ _)
      have hrest := ih (getLast?_ne_of_isSuffix hsuffix h)
      rw [escapedAfter_tag n hbody, List.append_assoc, piecesAfter_backslashes, Nat.zero_add,
        List.cons_append, List.append_assoc, List.cons_append, piecesAfter_tag hbody, hrest,
        piecesAfter_tag hbody]
      rfl
  | bracket n s hnone ih =>
      have hsuffix : s <:+ backslashes n ++ '[' :: s :=
        (List.suffix_cons '[' s).trans (List.suffix_append _ _)
      have hrest := ih (getLast?_ne_of_isSuffix hsuffix h)
      have hbracket := tagBody?_escapedAfter (upToBracket_tagAfter k close)
        (tagBody?_tagAfter k close) hnone
      rw [escapedAfter_bracket n hnone, List.append_assoc, piecesAfter_backslashes, Nat.zero_add,
        List.cons_append, piecesAfter_bracket hbracket, hrest, piecesAfter_bracket hnone,
        List.map_append, List.map_cons, map_plain_map_char, List.append_assoc, List.cons_append]
      rfl
  | char n c s hslash hopen ih =>
      have hsuffix : s <:+ backslashes n ++ c :: s :=
        (List.suffix_cons c s).trans (List.suffix_append _ _)
      have hrest := ih (getLast?_ne_of_isSuffix hsuffix h)
      rw [escapedAfter_char n hslash hopen, List.append_assoc, piecesAfter_backslashes,
        Nat.zero_add, List.cons_append, piecesAfter_char hslash hopen, hrest,
        piecesAfter_char hslash hopen, List.map_append, List.map_cons, map_plain_map_char,
        List.append_assoc, List.cons_append]
      rfl

/-! ### Backslashes at the end -/

theorem upToBracket_append {s tail : List Char} (hs : upToBracket s = none)
    (htail : upToBracket tail = none) :
  upToBracket (s ++ tail) = none
  := by
  induction s with
  | nil => apply htail
  | cons c s ih =>
      by_cases hopen : c = '['
      · rw [hopen, List.cons_append, upToBracket]
      · have hclose : c ≠ ']' := by
          rintro rfl
          cases hs
        rw [upToBracket_cons hopen hclose, Option.map_eq_none_iff] at hs
        rw [List.cons_append, upToBracket_cons hopen hclose, ih hs]
        rfl

theorem tagBody?_append_backslashes {s : List Char} (h : tagBody? s = none) (m : Nat) :
  tagBody? (s ++ backslashes m) = none
  := by
  cases s with
  | nil =>
      cases m with
      | zero => rfl
      | succ m => rfl
  | cons c s =>
      rw [tagBody?] at h
      rw [List.cons_append, tagBody?]
      split
      · next hopens =>
        rw [if_pos hopens, Option.map_eq_none_iff] at h
        have hnone : upToBracket (backslashes m) = none := by
          simpa using upToBracket_backslashes (s := []) rfl m
        rw [upToBracket_append h hnone]
        rfl
      · rfl

theorem piecesAfter_append_backslashes (n : Nat) (s : List Char) (m : Nat) :
  piecesAfter n (s ++ backslashes m) = piecesAfter n s ++ (backslashes m).map .char
  := by
  have hnil : ∀ n, piecesAfter n [] = (backslashes n).map .char := fun n => by rw [piecesAfter]
  induction n, s using pieces_induction with
  | nil n =>
      rw [List.nil_append, hnil, ← List.append_nil (backslashes m), piecesAfter_backslashes, hnil,
        List.append_nil, ← List.map_append, backslashes, backslashes, backslashes,
        List.replicate_append_replicate]
  | backslash n s ih =>
      rw [List.cons_append, piecesAfter_backslash, ih, piecesAfter_backslash]
  | tag n body s hbody ih =>
      rw [List.cons_append, List.append_assoc, List.cons_append, piecesAfter_tag hbody, ih,
        piecesAfter_tag hbody]
      rfl
  | bracket n s hnone ih =>
      rw [List.cons_append, piecesAfter_bracket (tagBody?_append_backslashes hnone m), ih,
        piecesAfter_bracket hnone, List.append_assoc]
      rfl
  | char n c s hslash hopen ih =>
      rw [List.cons_append, piecesAfter_char hslash hopen, ih, piecesAfter_char hslash hopen,
        List.append_assoc]
      rfl

theorem escapedAfter_append_backslashes (n : Nat) (s : List Char) (m : Nat) :
  escapedAfter n (s ++ backslashes m) = escapedAfter n s ++ backslashes m
  := by
  rw [escapedAfter, piecesAfter_append_backslashes, List.flatMap_append, flatMap_escaped_map_char]
  rfl

/-- A text ends, escaped, in the character that it ends in. -/
theorem getLast?_escapedAfter (n : Nat) (s : List Char) :
  (escapedAfter n s).getLast? = (backslashes n ++ s).getLast?
  := by
  induction n, s using pieces_induction with
  | nil n => rw [escapedAfter_nil, List.append_nil]
  | backslash n s ih =>
      rw [escapedAfter_backslash, ih, backslashes, List.replicate_succ', List.append_assoc]
      rfl
  | tag n body s hbody ih =>
      have hs : (escapedAfter 0 s).getLast? = s.getLast? := ih
      rw [escapedAfter_tag n hbody]
      simp [List.getLast?_append, List.getLast?_cons, hs]
  | bracket n s hnone ih =>
      have hs : (escapedAfter 0 s).getLast? = s.getLast? := ih
      rw [escapedAfter_bracket n hnone]
      simp [List.getLast?_append, List.getLast?_cons, hs]
  | char n c s hslash hopen ih =>
      have hs : (escapedAfter 0 s).getLast? = s.getLast? := ih
      rw [escapedAfter_char n hslash hopen]
      simp [List.getLast?_append, List.getLast?_cons, hs]

theorem backslashes_add (m n : Nat) :
  backslashes (m + n) = backslashes m ++ backslashes n
  := List.replicate_append_replicate.symm

/-- Below a text that does not end in a backslash, no more than `m` backslashes end the text. -/
theorem backslashes_isSuffix_iff {s : List Char} (h : s.getLast? ≠ some '\\') {k m : Nat} :
  backslashes k <:+ s ++ backslashes m ↔ k ≤ m
  := by
  constructor
  · rintro ⟨front, hfront⟩
    by_contra hlt
    obtain ⟨d, rfl⟩ : ∃ d, k = d + 1 + m := ⟨k - m - 1, by omega⟩
    rw [backslashes_add, ← List.append_assoc] at hfront
    apply h
    rw [← List.append_cancel_right hfront, backslashes, List.replicate_succ', ← List.append_assoc,
      List.getLast?_concat]
  · intro hle
    obtain ⟨d, rfl⟩ : ∃ d, m = d + k := ⟨m - k, by omega⟩
    rw [backslashes_add, ← List.append_assoc]
    apply List.suffix_append

/-- The backslashes at the end of an escaped text, if `m` of them end the text. -/
def trailing (m : Nat) : Nat := if m = 1 then 2 else m

theorem escape_append_backslashes {s : List Char} (h : s.getLast? ≠ some '\\') (m : Nat) :
  escape (s ++ backslashes m) = escapedAfter 0 s ++ backslashes (trailing m)
  := by
  have hs : (escapedAfter 0 s).getLast? ≠ some '\\' := by
    rw [getLast?_escapedAfter]
    apply h
  have hone := backslashes_isSuffix_iff hs (k := 1) (m := m)
  have htwo := backslashes_isSuffix_iff hs (k := 2) (m := m)
  rw [← escapedAfter_append_backslashes, ← List.isSuffixOf_iff_suffix] at hone htwo
  have hcond : ((backslashes 1).isSuffixOf (escapedAfter 0 (s ++ backslashes m))
      && !(backslashes 2).isSuffixOf (escapedAfter 0 (s ++ backslashes m))) = true ↔ m = 1 := by
    rw [Bool.and_eq_true, Bool.not_eq_true', ← Bool.not_eq_true, hone, htwo]
    omega
  rw [escape, pieces, ← escapedAfter, trailing]
  by_cases hm : m = 1
  · apply (if_pos (hcond.mpr hm)).trans
    rw [escapedAfter_append_backslashes, List.append_assoc, if_pos hm, hm]
    rfl
  · apply (if_neg (mt hcond.mp hm)).trans
    rw [escapedAfter_append_backslashes, if_neg hm]

/-- Every text ends in some number of backslashes. -/
theorem exists_eq_append_backslashes (s : List Char) :
  ∃ front m, s = front ++ backslashes m ∧ front.getLast? ≠ some '\\'
  := by
  use s.rdropWhile (· == '\\'), (s.rtakeWhile (· == '\\')).length
  constructor
  · conv_lhs => rw [← List.rdropWhile_append_rtakeWhile (p := (· == '\\')) (l := s)]
    congr 1
    apply List.eq_replicate_of_mem
    intro c hc
    simpa using List.mem_rtakeWhile_imp hc
  · intro hlast
    obtain ⟨hne, heq⟩ := List.mem_getLast?_eq_getLast hlast
    have := List.rdropWhile_last_not (· == '\\') _ hne
    rw [← heq] at this
    simp at this

end CommitPolicy.Console
