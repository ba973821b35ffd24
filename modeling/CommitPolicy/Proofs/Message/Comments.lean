import CommitPolicy.Message.Comments
import CommitPolicy.Proofs.Text.Newlines

/-!
# Comments in a message file

The message in a file is what stands in the lines above the first scissors line that are no
comments.  It is shown that

* nothing at the scissors line or below it matters, and neither do comments above it;
* no line of the message is a comment, although its first and its last line have lost the white
  space at the ends of the message;
* a message that is taken for a file again gives itself, unless the file had a carriage return
  before a pair of a carriage return and a line feed.
-/

namespace CommitPolicy

open Text

/-! ### Comments and scissors -/

/-- After the white space at its start the line starts with the mark. -/
def IsCommentLine (mark line : List Char) : Prop := mark <+: trimLeft line

/-- A comment line with a pair of scissors and dashes. -/
structure IsScissorsLine (mark line : List Char) : Prop where
  comment : IsCommentLine mark line
  scissors : ">8".toList <:+: trimLeft line
  dashes : "---".toList <:+: trimLeft line

theorem isComment_iff {mark line : List Char} :
  isComment mark line = true ↔ IsCommentLine mark line
  := List.isPrefixOf_iff_prefix

theorem isScissors_iff {mark line : List Char} :
  isScissors mark line = true ↔ IsScissorsLine mark line
  := by
  rw [isScissors, Bool.and_eq_true, Bool.and_eq_true, isComment_iff, contains_iff, contains_iff]
  constructor
  · rintro ⟨⟨hcomment, hscissors⟩, hdashes⟩
    exact ⟨hcomment, hscissors, hdashes⟩
  · rintro ⟨hcomment, hscissors, hdashes⟩
    exact ⟨⟨hcomment, hscissors⟩, hdashes⟩

instance (mark line : List Char) : Decidable (IsCommentLine mark line) :=
  decidable_of_iff _ isComment_iff

instance (mark line : List Char) : Decidable (IsScissorsLine mark line) :=
  decidable_of_iff _ isScissors_iff

/-! ### The lines that are kept -/

/-- The lines of a message file. -/
def fileLines (content : String) : List (List Char) := splitLines (unixNewlines content.toList)

/-- The lines above the first scissors line that are no comments. -/
def keptLines (mark : List Char) (lines : List (List Char)) : List (List Char) :=
  (lines.takeWhile fun line => !isScissors mark line).filter fun line => !isComment mark line

theorem stripComments_eq (mark content : String) :
  stripComments mark content
    = String.ofList (trim (joinLines (keptLines mark.toList (fileLines content))))
  := rfl

section Kept

variable (mark : List Char)

theorem keptLines_cons (line : List Char) (lines : List (List Char)) :
  keptLines mark (line :: lines)
    = if isScissors mark line then [] else
      if isComment mark line then keptLines mark lines else line :: keptLines mark lines
  := by
  rw [keptLines, List.takeWhile_cons]
  cases isScissors mark line with
  | true => rfl
  | false =>
      cases hcomment : isComment mark line with
      | true => simp [hcomment, keptLines]
      | false => simp [hcomment, keptLines]

theorem keptLines_sublist (lines : List (List Char)) :
  (keptLines mark lines).Sublist lines
  := List.filter_sublist.trans (List.takeWhile_sublist _)

/-- Nothing below a scissors line is kept. -/
theorem keptLines_append_scissors {below : List (List Char)}
    (hbelow : ∀ line ∈ below.head?, IsScissorsLine mark line) (above : List (List Char)) :
  keptLines mark (above ++ below) = keptLines mark above
  := by
  induction above with
  | nil =>
      cases below with
      | nil => rfl
      | cons line below =>
          rw [List.nil_append, keptLines_cons, if_pos (isScissors_iff.mpr (hbelow line rfl))]
          rfl
  | cons line above ih => rw [List.cons_append, keptLines_cons, keptLines_cons, ih]

/-- Comments are not kept, wherever they stand. -/
theorem keptLines_append_comments {comments : List (List Char)}
    (hcomments : ∀ line ∈ comments, IsCommentLine mark line ∧ ¬IsScissorsLine mark line)
    (above below : List (List Char)) :
  keptLines mark (above ++ comments ++ below) = keptLines mark (above ++ below)
  := by
  induction above with
  | nil =>
      induction comments with
      | nil => rfl
      | cons line comments ih =>
          obtain ⟨⟨hcomment, hscissors⟩, hrest⟩ := List.forall_mem_cons.mp hcomments
          rw [List.nil_append, List.cons_append, keptLines_cons,
            if_neg (mt isScissors_iff.mp hscissors), if_pos (isComment_iff.mpr hcomment)]
          apply ih hrest
  | cons line above ih =>
      rw [List.cons_append, List.cons_append, List.cons_append, keptLines_cons, keptLines_cons, ih]

/-- Lines among which there is no comment are all kept. -/
theorem keptLines_eq_self {lines : List (List Char)}
    (h : ∀ line ∈ lines, ¬IsCommentLine mark line) :
  keptLines mark lines = lines
  := by
  induction lines with
  | nil => rfl
  | cons line lines ih =>
      obtain ⟨hline, hlines⟩ := List.forall_mem_cons.mp h
      have hscissors : ¬IsScissorsLine mark line := fun hline' => hline hline'.comment
      rw [keptLines_cons, if_neg (mt isScissors_iff.mp hscissors),
        if_neg (mt isComment_iff.mp hline), ih hlines]

theorem not_isCommentLine_of_mem_keptLines {lines : List (List Char)} {line : List Char}
    (h : line ∈ keptLines mark lines) :
  ¬IsCommentLine mark line
  := by
  rw [← isComment_iff]
  simpa using (List.mem_filter.mp h).2

end Kept

/-! ### The message -/

/-- A text that is a message as it stands. -/
structure IsMessage (mark s : List Char) : Prop where
  noComment : ∀ line ∈ splitLines s, ¬IsCommentLine mark line
  noPair : ¬HasReturnPair s
  trimmed : DropsTo isBlank s s

/-- A message gives itself. -/
theorem IsMessage.stripComments_eq {mark text : String} (h : IsMessage mark.toList text.toList) :
  stripComments mark text = text
  := by
  rw [CommitPolicy.stripComments_eq, fileLines, unixNewlines_eq_self h.noPair,
    keptLines_eq_self _ h.noComment, joinLines_splitLines, h.trimmed.trim_eq, String.ofList_toList]

section Strip

variable {mark : List Char}

/-- Dropping the white space at the ends of a message makes no comment of a line: its first line
starts with the same character after white space, and its last line is only cut off. -/
theorem not_isCommentLine_of_mem (hmark : mark ≠ []) {lines : List (List Char)}
    (hlf : ∀ line ∈ lines, '\n' ∉ line) {line : List Char}
    (hline : line ∈ splitLines (trim (joinLines (keptLines mark lines)))) :
  ¬IsCommentLine mark line
  := by
  intro hcomment
  have hne : trimLeft line ≠ [] := by
    intro hnil
    rw [IsCommentLine, hnil] at hcomment
    apply hmark (List.prefix_nil.mp hcomment)
  by_cases hkept : keptLines mark lines = []
  · rw [hkept] at hline
    rw [List.mem_singleton.mp hline] at hne
    apply hne rfl
  · obtain ⟨front, back, hs, hfront, -⟩ :=
      (dropsTo_trim (joinLines (keptLines mark lines))).exists_eq
    obtain ⟨left, right, hmem, hleft⟩ := @exists_mem_splitLines_append front _ back _ hline
    have hlfKept : ∀ line ∈ keptLines mark lines, '\n' ∉ line := by
      intro line hline
      apply hlf line ((keptLines_sublist mark lines).subset hline)
    rw [← hs, splitLines_joinLines hkept hlfKept] at hmem
    apply not_isCommentLine_of_mem_keptLines mark hmem
    have hblank : ∀ c ∈ left, isBlank c = true := fun c hc => hfront c (hleft hc)
    rw [IsCommentLine, List.append_assoc, trimLeft_append_of_blank hblank,
      trimLeft_append_of_ne_nil hne]
    apply hcomment.trans (List.prefix_append _ _)

/-- Between the lines that are kept, a carriage return stands before a line feed only if it did in
the file once its pairs had been replaced. -/
theorem not_hasReturnPair_trim {s : List Char} (hpair : ¬HasReturnPair s) :
  ¬HasReturnPair (trim (joinLines (keptLines mark (splitLines s))))
  := by
  have hlf : ∀ line ∈ splitLines s, '\n' ∉ line := by
    intro line hline
    apply not_mem_of_mem_splitLines hline
  have hlfKept : ∀ line ∈ keptLines mark (splitLines s), '\n' ∉ line := by
    intro line hline
    apply hlf line ((keptLines_sublist mark _).subset hline)
  rw [← joinLines_splitLines s, not_hasReturnPair_joinLines hlf] at hpair
  have hkept := (not_hasReturnPair_joinLines hlfKept).mpr
    (hpair.sublist (keptLines_sublist mark (splitLines s)))
  intro h
  apply hkept
  apply h.trans (dropsTo_trim _).isInfix

end Strip

theorem isMessage_stripComments {mark : String} (hmark : mark ≠ "") {content : String}
    (hcontent : ¬"\r\r\n".toList <:+: content.toList) :
  IsMessage mark.toList (stripComments mark content).toList
  := by
  have hmark' : mark.toList ≠ [] := by simpa using hmark
  rw [stripComments_eq, String.toList_ofList]
  constructor
  · intro line hline
    apply not_isCommentLine_of_mem hmark' _ hline
    intro line hline
    apply not_mem_of_mem_splitLines hline
  · apply not_hasReturnPair_trim
    apply mt infix_of_hasReturnPair_unixNewlines hcontent
  · have htrim := dropsTo_trim (joinLines (keptLines mark.toList (fileLines content)))
    apply dropsTo_self htrim.head htrim.last

/-- The message in a file is what is written in the lines above the first scissors line that are no
comments, without the white space at both ends.  So

* it is the same whatever stands at the first scissors line and below it;
* it is the same with and without comments that are no scissors lines, wherever they stand;
* none of its lines is a comment;
* taken for a file again it gives itself, unless the file had a carriage return before a pair. -/
theorem stripComments_exact {mark : String} (hmark : mark ≠ "") :
  (∀ content, ∃ above below, fileLines content = above ++ below
      ∧ (∀ line ∈ above, ¬IsScissorsLine mark.toList line)
      ∧ (∀ line ∈ below.head?, IsScissorsLine mark.toList line)
      ∧ DropsTo isBlank (joinLines (above.filter fun line => ¬IsCommentLine mark.toList line))
        (stripComments mark content).toList)
    ∧ (∀ content content' above below below', fileLines content = above ++ below →
      fileLines content' = above ++ below' →
        (∀ line ∈ below.head?, IsScissorsLine mark.toList line) →
        (∀ line ∈ below'.head?, IsScissorsLine mark.toList line) →
          stripComments mark content' = stripComments mark content)
    ∧ (∀ content content' above comments below, fileLines content = above ++ below →
      fileLines content' = above ++ comments ++ below →
        (∀ line ∈ comments, IsCommentLine mark.toList line ∧ ¬IsScissorsLine mark.toList line) →
          stripComments mark content' = stripComments mark content)
    ∧ (∀ content, ∀ line ∈ splitLines (stripComments mark content).toList,
      ¬IsCommentLine mark.toList line)
    ∧ ∀ content, ¬"\r\r\n".toList <:+: content.toList →
      stripComments mark (stripComments mark content) = stripComments mark content
  := by
  have hmark' : mark.toList ≠ [] := by simpa using hmark
  refine ⟨?_, ?_, ?_, ?_, ?_⟩
  · intro content
    use (fileLines content).takeWhile fun line => !isScissors mark.toList line
    use (fileLines content).dropWhile fun line => !isScissors mark.toList line
    refine ⟨List.takeWhile_append_dropWhile.symm, ?_, ?_, ?_⟩
    · intro line hline
      rw [← isScissors_iff]
      simpa using List.mem_takeWhile_imp hline
    · intro line hline
      have := List.head?_dropWhile_not (fun line => !isScissors mark.toList line)
        (fileLines content)
      rw [Option.mem_def.mp hline] at this
      rw [← isScissors_iff]
      simpa using this
    · rw [stripComments_eq, String.toList_ofList]
      simp only [← isComment_iff, Bool.not_eq_true, Bool.decide_eq_false]
      apply dropsTo_trim
  · intro content content' above below below' hlines hlines' hbelow hbelow'
    rw [stripComments_eq, stripComments_eq, hlines, hlines', keptLines_append_scissors _ hbelow,
      keptLines_append_scissors _ hbelow']
  · intro content content' above comments below hlines hlines' hcomments
    rw [stripComments_eq, stripComments_eq, hlines, hlines', keptLines_append_comments _ hcomments]
  · intro content line hline
    rw [stripComments_eq, String.toList_ofList] at hline
    apply not_isCommentLine_of_mem hmark' _ hline
    intro line hline
    apply not_mem_of_mem_splitLines hline
  · intro content hcontent
    apply (isMessage_stripComments hmark hcontent).stripComments_eq

/-- A file that an editor was opened on, with the diff below the scissors. -/
def editedFile : String := "  ; a\r\nfix: x\n;\n\n ; ---- >8 ----\n+ b"

theorem stripComments_exact_edited :
  ";" ≠ ""
    ∧ fileLines editedFile
      = ["  ; a".toList, "fix: x".toList, ";".toList, []]
        ++ [" ; ---- >8 ----".toList, "+ b".toList]
    ∧ IsScissorsLine ";".toList " ; ---- >8 ----".toList
    ∧ stripComments ";" "  ; a\nfix: x\n;\n" = stripComments ";" editedFile
    ∧ (IsCommentLine ";".toList "\t;;".toList ∧ ¬IsScissorsLine ";".toList "\t;;".toList)
    ∧ stripComments ";" "  ; a\nfix: x\n\t;;\n;\n" = stripComments ";" "  ; a\nfix: x\n;\n"
    ∧ ¬"\r\r\n".toList <:+: editedFile.toList
    ∧ stripComments ";" (stripComments ";" editedFile) = "fix: x"
  := by
  have hmark : ";" ≠ "" := by decide
  have hlines : fileLines editedFile
      = ["  ; a".toList, "fix: x".toList, ";".toList, []]
        ++ [" ; ---- >8 ----".toList, "+ b".toList]
    := by decide
  have hscissors : IsScissorsLine ";".toList " ; ---- >8 ----".toList := by decide
  have hcomment : IsCommentLine ";".toList "\t;;".toList
      ∧ ¬IsScissorsLine ";".toList "\t;;".toList := by decide
  have hreturns : ¬"\r\r\n".toList <:+: editedFile.toList := by
    rw [← contains_iff]
    decide
  have hvalue : stripComments ";" editedFile = "fix: x" := by decide
  obtain ⟨-, hbelow, hinserted, -, hagain⟩ := stripComments_exact hmark
  have hcut := hbelow editedFile "  ; a\nfix: x\n;\n" _ _ [] hlines rfl
    (by simpa using hscissors) (by simp)
  have hsame := hinserted "  ; a\nfix: x\n;\n" "  ; a\nfix: x\n\t;;\n;\n"
    ["  ; a".toList, "fix: x".toList] ["\t;;".toList] [";".toList, []] rfl rfl
    (by simpa using hcomment)
  exact ⟨hmark, hlines, hscissors, hcut, hcomment, hsame, hreturns,
    (hagain editedFile hreturns).trans hvalue⟩

/-- A carriage return before a pair is still there when the pair has been replaced, and the message
has a pair of its own. -/
example :
  stripComments ";" "a\r\r\nb" = "a\r\nb" ∧ stripComments ";" "a\r\nb" = "a\nb"
  := by decide

end CommitPolicy
