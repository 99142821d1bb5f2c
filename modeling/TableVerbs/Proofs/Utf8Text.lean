import TableVerbs.Text.Utf8

/-!
# The bytes of a text are read as the text

A character is written as one byte to four, and how many follows from its code
point. The first byte says how many, by the range that it is in, so a shorter or a
longer sequence is never taken in place of the one that was written; the others carry
six bits each, so the code point is put together again digit by digit in base 64.
-/

namespace TableVerbs.Text

/-- The bytes of a text in UTF-8. -/
def bytes (s : String) : List UInt8 := s.toUTF8.data.toList

theorem bytes_eq (s : String) : bytes s = s.toList.flatMap String.utf8EncodeChar := by
  rw [bytes, String.toUTF8, ← String.utf8Encode_toList, List.utf8Encode,
    List.toList_data_toByteArray]

theorem toNat_byte {n : Nat} (h : n < 256) : (UInt8.ofNat n).toNat = n := by
  rw [UInt8.toNat_ofNat', Nat.mod_eq_of_lt h]

theorem le_byte {n : Nat} (h : n < 256) (b : UInt8) : b ≤ UInt8.ofNat n ↔ b.toNat ≤ n := by
  rw [UInt8.le_iff_toNat_le, toNat_byte h]

theorem byte_lt {n : Nat} (h : n < 256) (b : UInt8) : UInt8.ofNat n < b ↔ n < b.toNat := by
  rw [UInt8.lt_iff_toNat_lt, toNat_byte h]

theorem isContinuation_byte (n : Nat) : isContinuation (UInt8.ofNat (n % 64 + 128)) = true := by
  have hn : n % 64 + 128 < 256 := by omega
  simp only [isContinuation, le_byte hn, byte_lt hn, UInt8.reduceToNat, Bool.and_eq_true,
    decide_eq_true_eq]
  omega

theorem payload_byte (n : Nat) : payload (UInt8.ofNat (n % 64 + 128)) = n % 64 := by
  rw [payload, toNat_byte (by omega)]
  omega

theorem scalar?_toNat {c : Char} {least : Nat} (h : least ≤ c.toNat) :
    scalar? least c.toNat = some c := by
  rw [scalar?, dif_pos ⟨c.valid, h⟩]
  rfl

/-! ## Sequences

A first byte is the digit in front with a mark for the length, and the mark is in one
of three ranges. -/

section

variable {c : Char}

theorem sequence?_two (h : 0x80 ≤ c.toNat) (h' : c.toNat < 0x800) :
    sequence? [UInt8.ofNat (c.toNat / 64 % 32 + 192), UInt8.ofNat (c.toNat % 64 + 128)] =
      some c := by
  have hlead : c.toNat / 64 % 32 + 192 < 256 := by omega
  have hvalue : (c.toNat / 64 % 32 + 192) % 32 * 64 + c.toNat % 64 = c.toNat := by omega
  rw [sequence?, payload_byte, toNat_byte hlead, hvalue, scalar?_toNat h, if_pos]
  simp only [le_byte hlead, byte_lt hlead, isContinuation_byte, Bool.and_true, Bool.and_eq_true,
    decide_eq_true_eq, UInt8.reduceToNat]
  omega

theorem sequence?_three (h : 0x800 ≤ c.toNat) (h' : c.toNat < 0x10000) :
    sequence? [UInt8.ofNat (c.toNat / 4096 % 16 + 224), UInt8.ofNat (c.toNat / 64 % 64 + 128),
      UInt8.ofNat (c.toNat % 64 + 128)] = some c := by
  have hlead : c.toNat / 4096 % 16 + 224 < 256 := by omega
  have hvalue : ((c.toNat / 4096 % 16 + 224) % 16 * 64 + c.toNat / 64 % 64) * 64 + c.toNat % 64 =
      c.toNat := by omega
  rw [sequence?, payload_byte, payload_byte, toNat_byte hlead, hvalue, scalar?_toNat h, if_pos]
  simp only [le_byte hlead, byte_lt hlead, isContinuation_byte, Bool.and_true, Bool.and_eq_true,
    decide_eq_true_eq, UInt8.reduceToNat]
  omega

theorem sequence?_four (h : 0x10000 ≤ c.toNat) :
    sequence? [UInt8.ofNat (c.toNat / 262144 % 8 + 240), UInt8.ofNat (c.toNat / 4096 % 64 + 128),
      UInt8.ofNat (c.toNat / 64 % 64 + 128), UInt8.ofNat (c.toNat % 64 + 128)] = some c := by
  have hlast : c.toNat < 0x110000 := c.valid.elim (fun h => Nat.lt_trans h (by decide)) (·.2)
  have hlead : c.toNat / 262144 % 8 + 240 < 256 := by omega
  have hvalue : (((c.toNat / 262144 % 8 + 240) % 8 * 64 + c.toNat / 4096 % 64) * 64 +
      c.toNat / 64 % 64) * 64 + c.toNat % 64 = c.toNat := by omega
  rw [sequence?, payload_byte, payload_byte, payload_byte, toNat_byte hlead, hvalue,
    scalar?_toNat h, if_pos]
  simp only [le_byte hlead, byte_lt hlead, isContinuation_byte, Bool.and_true, Bool.and_eq_true,
    decide_eq_true_eq, UInt8.reduceToNat]
  omega

end

section

variable {n : Nat}

/-- The first byte of a longer sequence begins no sequence of two. -/
theorem sequence?_two_none (hn : n < 256) (h : 224 ≤ n) (b : UInt8) :
    sequence? [UInt8.ofNat n, b] = none := by
  rw [sequence?, if_neg]
  simp only [le_byte hn, byte_lt hn, Bool.and_eq_true, decide_eq_true_eq, UInt8.reduceToNat]
  omega

theorem sequence?_three_none (hn : n < 256) (h : 240 ≤ n) (b b' : UInt8) :
    sequence? [UInt8.ofNat n, b, b'] = none := by
  rw [sequence?, if_neg]
  simp only [le_byte hn, byte_lt hn, Bool.and_eq_true, decide_eq_true_eq, UInt8.reduceToNat]
  omega

theorem decode_two {c : Char} {b : UInt8} (hn : n < 256) (h : 128 ≤ n)
    (hc : sequence? [UInt8.ofNat n, b] = some c) (rest : List UInt8) :
    decode (UInt8.ofNat n :: b :: rest) = some c :: decode rest := by
  rw [decode, if_neg (by rw [byte_lt hn]; exact Nat.not_lt.mpr h)]
  simp only [List.take_succ_cons, List.take_zero, hc, List.drop_succ_cons, List.drop_zero]

theorem decode_three {c : Char} {b b' : UInt8} (hn : n < 256) (h : 224 ≤ n)
    (hc : sequence? [UInt8.ofNat n, b, b'] = some c) (rest : List UInt8) :
    decode (UInt8.ofNat n :: b :: b' :: rest) = some c :: decode rest := by
  rw [decode, if_neg (by rw [byte_lt hn]; exact Nat.not_lt.mpr (Nat.le_trans (by decide) h))]
  simp only [List.take_succ_cons, List.take_zero, sequence?_two_none hn h, hc,
    List.drop_succ_cons, List.drop_zero]

theorem decode_four {c : Char} {b b' b'' : UInt8} (hn : n < 256) (h : 240 ≤ n)
    (hc : sequence? [UInt8.ofNat n, b, b', b''] = some c) (rest : List UInt8) :
    decode (UInt8.ofNat n :: b :: b' :: b'' :: rest) = some c :: decode rest := by
  rw [decode, if_neg (by rw [byte_lt hn]; exact Nat.not_lt.mpr (Nat.le_trans (by decide) h))]
  simp only [List.take_succ_cons, List.take_zero, hc, List.drop_succ_cons, List.drop_zero,
    sequence?_two_none hn (Nat.le_trans (by decide) h), sequence?_three_none hn h]

end

/-! ## Texts -/

/-- The bytes of a character are read as it, whatever follows. -/
theorem decode_utf8EncodeChar (c : Char) (rest : List UInt8) :
    decode (String.utf8EncodeChar c ++ rest) = some c :: decode rest := by
  have hval : c.val.toNat = c.toNat := rfl
  simp only [String.utf8EncodeChar, hval]
  split
  next h =>
    have hlead : UInt8.ofNat c.toNat < 0x80 := by
      rw [byte_lt (by omega)]
      exact Nat.lt_succ_of_le h
    rw [List.singleton_append, decode, if_pos hlead, toNat_byte (by omega), Char.ofNat_toNat]
  next h =>
    split
    next h' =>
      exact decode_two (by omega) (by omega) (sequence?_two (by omega) (by omega)) rest
    next h' =>
      split
      next h'' =>
        exact decode_three (by omega) (by omega) (sequence?_three (by omega) (by omega)) rest
      next h'' =>
        exact decode_four (by omega) (by omega) (sequence?_four (by omega)) rest

/-- The bytes of a text are read as the text. -/
theorem decode_bytes (s : String) : decode (bytes s) = glyphs s := by
  rw [bytes_eq, glyphs]
  induction s.toList with
  | nil => rw [List.flatMap_nil, decode, List.map_nil]
  | cons c cs ih => rw [List.flatMap_cons, decode_utf8EncodeChar, ih, List.map_cons]

end TableVerbs.Text
