import CommitPolicy.Text.Utf8
import Mathlib.Tactic.Use

/-!
# Reading what was written in UTF-8

A character is written in one to four bytes.  Its first byte tells how many follow and holds the
highest bits, the others hold six bits each, and reading starts over after the last one.  So reading
the bytes of a text gives the text back.
-/

namespace CommitPolicy.Text

/-! ### Bytes of a text -/

theorem toList_loop (bytes : ByteArray) (i : Nat) (above : List UInt8) :
  ByteArray.toList.loop bytes i above = above.reverse ++ bytes.data.toList.drop i
  := by
  fun_induction ByteArray.toList.loop bytes i above with
  | case1 i above hi ih =>
      have hlist : i < bytes.data.toList.length := by simpa using hi
      have hget : bytes.get! i = bytes.data.toList[i] := getElem!_pos bytes.data i hi
      rw [ih, List.drop_eq_getElem_cons hlist, hget]
      simp
  | case2 i above hi =>
      have hlist : bytes.data.toList.length ≤ i := by simpa using hi
      rw [List.drop_eq_nil_of_le hlist, List.append_nil]

theorem encode_eq (s : String) :
  encode s = s.toList.flatMap String.utf8EncodeChar
  := by
  have hbytes : s.toUTF8.data.toList = s.toList.flatMap String.utf8EncodeChar := by
    obtain ⟨l, rfl⟩ : ∃ l, s = String.ofList l := ⟨s.toList, String.ofList_toList.symm⟩
    rw [String.toUTF8, String.toByteArray_ofList, String.toList_ofList, List.utf8Encode,
      List.data_toByteArray]
  rw [encode, ByteArray.toList, toList_loop, hbytes]
  rfl

/-! ### Reading a character -/

theorem decodeFrom_append (skipped rest : List UInt8) :
  decodeFrom skipped.length (skipped ++ rest) = decodeFrom 0 rest
  := by
  induction skipped with
  | nil => rfl
  | cons b skipped ih => rw [List.length_cons, List.cons_append, decodeFrom, ih]

/-- A first byte and the bytes that continue it are read as one character. -/
theorem decodeFrom_cons {b : UInt8} {bits lo hi : Nat} (more rest : List UInt8)
    (hlead : leadByte? b.toNat = some (more.length, bits, lo, hi))
    (hmore : continuing lo hi more.length (more ++ rest) = more.length) :
  decodeFrom 0 (b :: (more ++ rest))
    = some (Char.ofNat (more.foldl (fun acc c => acc * 64 + (c.toNat - 0x80)) bits))
      :: decodeFrom 0 rest
  := by
  have hfirst : firstChar b (more ++ rest)
      = (some (Char.ofNat (more.foldl (fun acc c => acc * 64 + (c.toNat - 0x80)) bits)),
        more.length) := by
    simp only [firstChar, hlead, hmore, if_true, List.take_left]
  rw [decodeFrom, hfirst, decodeFrom_append]

/-- The value of a byte, if the number fits into it. -/
theorem toNat_ofNat {n : Nat} (h : n < 256) :
  (UInt8.ofNat n).toNat = n
  := by
  rw [UInt8.toNat_ofNat']
  apply Nat.mod_eq_of_lt h

theorem leadByte?_two {n : Nat} (hlo : 2 ≤ n) (hhi : n < 32) :
  leadByte? (n + 192) = some (1, n, 0x80, 0xBF)
  := by
  rw [leadByte?, if_neg (by omega), if_neg (by omega), if_pos (by omega), Nat.add_sub_cancel]

theorem leadByte?_three {n : Nat} (h : n < 16) :
  leadByte? (n + 224)
    = some (2, n, if n = 0 then 0xA0 else 0x80, if n = 13 then 0x9F else 0xBF)
  := by
  rw [leadByte?, if_neg (by omega), if_neg (by omega), if_neg (by omega), if_pos (by omega),
    Nat.add_sub_cancel]
  simp

theorem leadByte?_four {n : Nat} (h : n < 5) :
  leadByte? (n + 240)
    = some (3, n, if n = 0 then 0x90 else 0x80, if n = 4 then 0x8F else 0xBF)
  := by
  rw [leadByte?, if_neg (by omega), if_neg (by omega), if_neg (by omega), if_neg (by omega),
    if_pos (by omega), Nat.add_sub_cancel]
  simp

/-- A byte that continues a character with six bits. -/
theorem continuing_cons {lo hi n : Nat} (hn : n < 64) (hlo : lo ≤ n + 128) (hhi : n + 128 ≤ hi)
    (count : Nat) (rest : List UInt8) :
  continuing lo hi (count + 1) (UInt8.ofNat (n + 128) :: rest) = continuing 0x80 0xBF count rest + 1
  := by
  rw [continuing, toNat_ofNat (by omega), if_pos]
  simp [hlo, hhi]

section Bytes

variable {n : Nat} (rest : List UInt8)

theorem decodeFrom_one (h : n < 0x80) :
  decodeFrom 0 (UInt8.ofNat n :: rest) = some (Char.ofNat n) :: decodeFrom 0 rest
  := by
  have hlead : leadByte? (UInt8.ofNat n).toNat = some (0, n, 0, 0) := by
    rw [toNat_ofNat (by omega), leadByte?, if_pos h]
  apply decodeFrom_cons [] rest hlead
  rfl

theorem decodeFrom_two (hlo : 0x80 ≤ n) (hhi : n < 0x800) :
  decodeFrom 0 (UInt8.ofNat (n / 64 % 32 + 192) :: UInt8.ofNat (n % 64 + 128) :: rest)
    = some (Char.ofNat n) :: decodeFrom 0 rest
  := by
  have hlead : leadByte? (UInt8.ofNat (n / 64 % 32 + 192)).toNat
      = some (1, n / 64 % 32, 0x80, 0xBF) := by
    rw [toNat_ofNat (by omega), leadByte?_two (by omega) (by omega)]
  have hmore : continuing 0x80 0xBF 1 (UInt8.ofNat (n % 64 + 128) :: rest) = 1 := by
    rw [continuing_cons (by omega) (by omega) (by omega)]
    rfl
  have hnumber : n / 64 % 32 * 64 + ((UInt8.ofNat (n % 64 + 128)).toNat - 0x80) = n := by
    rw [toNat_ofNat (by omega)]
    omega
  apply (decodeFrom_cons [UInt8.ofNat (n % 64 + 128)] rest hlead hmore).trans
  rw [List.foldl_cons, List.foldl_nil, hnumber]

theorem decodeFrom_three (hlo : 0x800 ≤ n) (hhi : n < 0x10000)
    (hvalid : n < 0xD800 ∨ 0xDFFF < n) :
  decodeFrom 0 (UInt8.ofNat (n / 4096 % 16 + 224) :: UInt8.ofNat (n / 64 % 64 + 128)
      :: UInt8.ofNat (n % 64 + 128) :: rest)
    = some (Char.ofNat n) :: decodeFrom 0 rest
  := by
  have hlead : leadByte? (UInt8.ofNat (n / 4096 % 16 + 224)).toNat
      = some (2, n / 4096 % 16, if n / 4096 % 16 = 0 then 0xA0 else 0x80,
        if n / 4096 % 16 = 13 then 0x9F else 0xBF) := by
    rw [toNat_ofNat (by omega), leadByte?_three (by omega)]
  have hmore : continuing (if n / 4096 % 16 = 0 then 0xA0 else 0x80)
      (if n / 4096 % 16 = 13 then 0x9F else 0xBF) 2
      (UInt8.ofNat (n / 64 % 64 + 128) :: UInt8.ofNat (n % 64 + 128) :: rest) = 2 := by
    rw [continuing_cons (by omega) (by split <;> omega) (by split <;> omega),
      continuing_cons (by omega) (by omega) (by omega)]
    rfl
  have hnumber : (n / 4096 % 16 * 64 + ((UInt8.ofNat (n / 64 % 64 + 128)).toNat - 0x80)) * 64
      + ((UInt8.ofNat (n % 64 + 128)).toNat - 0x80) = n := by
    rw [toNat_ofNat (by omega), toNat_ofNat (by omega)]
    omega
  apply (decodeFrom_cons [UInt8.ofNat (n / 64 % 64 + 128), UInt8.ofNat (n % 64 + 128)] rest hlead
    hmore).trans
  rw [List.foldl_cons, List.foldl_cons, List.foldl_nil, hnumber]

theorem decodeFrom_four (hlo : 0x10000 ≤ n) (hhi : n < 0x110000) :
  decodeFrom 0 (UInt8.ofNat (n / 262144 % 8 + 240) :: UInt8.ofNat (n / 4096 % 64 + 128)
      :: UInt8.ofNat (n / 64 % 64 + 128) :: UInt8.ofNat (n % 64 + 128) :: rest)
    = some (Char.ofNat n) :: decodeFrom 0 rest
  := by
  have hlead : leadByte? (UInt8.ofNat (n / 262144 % 8 + 240)).toNat
      = some (3, n / 262144 % 8, if n / 262144 % 8 = 0 then 0x90 else 0x80,
        if n / 262144 % 8 = 4 then 0x8F else 0xBF) := by
    rw [toNat_ofNat (by omega), leadByte?_four (by omega)]
  have hmore : continuing (if n / 262144 % 8 = 0 then 0x90 else 0x80)
      (if n / 262144 % 8 = 4 then 0x8F else 0xBF) 3
      (UInt8.ofNat (n / 4096 % 64 + 128) :: UInt8.ofNat (n / 64 % 64 + 128)
        :: UInt8.ofNat (n % 64 + 128) :: rest) = 3 := by
    rw [continuing_cons (by omega) (by split <;> omega) (by split <;> omega),
      continuing_cons (by omega) (by omega) (by omega),
      continuing_cons (by omega) (by omega) (by omega)]
    rfl
  have hnumber : ((n / 262144 % 8 * 64 + ((UInt8.ofNat (n / 4096 % 64 + 128)).toNat - 0x80)) * 64
      + ((UInt8.ofNat (n / 64 % 64 + 128)).toNat - 0x80)) * 64
      + ((UInt8.ofNat (n % 64 + 128)).toNat - 0x80) = n := by
    rw [toNat_ofNat (by omega), toNat_ofNat (by omega), toNat_ofNat (by omega)]
    omega
  apply (decodeFrom_cons [UInt8.ofNat (n / 4096 % 64 + 128), UInt8.ofNat (n / 64 % 64 + 128),
    UInt8.ofNat (n % 64 + 128)] rest hlead hmore).trans
  rw [List.foldl_cons, List.foldl_cons, List.foldl_cons, List.foldl_nil, hnumber]

end Bytes

/-- The bytes of a character are read as the character. -/
theorem decodeFrom_encodeChar (c : Char) (rest : List UInt8) :
  decodeFrom 0 (String.utf8EncodeChar c ++ rest) = some c :: decodeFrom 0 rest
  := by
  have hvalid : c.toNat < 0xD800 ∨ (0xDFFF < c.toNat ∧ c.toNat < 0x110000) := c.valid
  have hread : some c = some (Char.ofNat c.toNat) := by rw [Char.ofNat_toNat]
  rw [hread]
  unfold String.utf8EncodeChar
  dsimp only
  split
  · next h => apply decodeFrom_one rest (Nat.lt_succ_of_le h)
  · next h₁ =>
    split
    · next h₂ => apply decodeFrom_two rest (Nat.lt_of_not_le h₁) (Nat.lt_succ_of_le h₂)
    · next h₂ =>
      split
      · next h₃ =>
        apply decodeFrom_three rest (Nat.lt_of_not_le h₂) (Nat.lt_succ_of_le h₃)
        apply hvalid.imp_right And.left
      · next h₃ =>
        have hhi : c.toNat < 0x110000 := by omega
        apply decodeFrom_four rest (Nat.lt_of_not_le h₃) hhi

theorem decodeFrom_flatMap (l : List Char) :
  (decodeFrom 0 (l.flatMap String.utf8EncodeChar)).mapM id = some l
  := by
  induction l with
  | nil => rfl
  | cons c l ih =>
      rw [List.flatMap_cons, decodeFrom_encodeChar, List.mapM_cons, ih]
      rfl

/-- Reading the bytes of a text gives the text back. -/
theorem decode?_encode (s : String) :
  decode? (encode s) = some s
  := by
  rw [decode?, encode_eq, decodeFrom_flatMap, Option.map_some, String.ofList_toList]

end CommitPolicy.Text
