import SiteProbe.Proofs.ByteOrder

/-!
# Texts from their bytes

Reading the bytes of a character gives the character (`decode_encodeChar_append`), so that the bytes of a text give the
text back (`decode?_encode`).
-/

namespace SiteProbe.Utf8

/-! ## The bytes of one character -/

section Bytes

variable {a b c d : UInt8} {rest : List UInt8}

theorem toNat_ofNat_add {n m : Nat} (h : n + m < 256) : (UInt8.ofNat (n + m)).toNat = n + m :=
  UInt8.toNat_ofNat_of_lt' h

theorem isContinuation_of_le (hb : 128 ≤ b.toNat) (hb' : b.toNat ≤ 191) : isContinuation b := by
  have hle : 0x80 ≤ b := UInt8.le_iff_toNat_le.mpr hb
  have hle' : b ≤ 0xBF := UInt8.le_iff_toNat_le.mpr hb'
  simp [isContinuation, hle, hle']

/-- Which bytes may stand second, after a byte that is given by its number. -/
theorem isSecond_of_le (hb : 128 ≤ b.toNat) (hb' : b.toNat ≤ 191) (hE0 : a.toNat = 0xE0 → 0xA0 ≤ b.toNat)
    (hED : a.toNat = 0xED → b.toNat ≤ 0x9F) (hF0 : a.toNat = 0xF0 → 0x90 ≤ b.toNat)
    (hF4 : a.toNat = 0xF4 → b.toNat ≤ 0x8F) : isSecond a b := by
  have hcontinuation := isContinuation_of_le hb hb'
  simp only [isContinuation, Bool.and_eq_true, decide_eq_true_eq] at hcontinuation
  unfold isSecond
  split
  · rename_i h
    have hle : 0xA0 ≤ b := UInt8.le_iff_toNat_le.mpr (hE0 (by rw [h]; rfl))
    simp [hle, hcontinuation.2]
  split
  · rename_i h
    have hle : b ≤ 0x9F := UInt8.le_iff_toNat_le.mpr (hED (by rw [h]; rfl))
    simp [hle, hcontinuation.1]
  split
  · rename_i h
    have hle : 0x90 ≤ b := UInt8.le_iff_toNat_le.mpr (hF0 (by rw [h]; rfl))
    simp [hle, hcontinuation.2]
  split
  · rename_i h
    have hle : b ≤ 0x8F := UInt8.le_iff_toNat_le.mpr (hF4 (by rw [h]; rfl))
    simp [hle, hcontinuation.1]
  · exact isContinuation_of_le hb hb'

theorem decode_one (ha : a.toNat < 128) : decode (a :: rest) = some (Char.ofNat a.toNat) :: decode rest := by
  have hlt : a < 0x80 := UInt8.lt_iff_toNat_lt.mpr ha
  rw [decode.eq_def]
  exact if_pos hlt

theorem not_small (ha : 128 ≤ a.toNat) : ¬a < 0x80 := by
  rw [UInt8.lt_iff_toNat_lt]
  exact Nat.not_lt.mpr ha

theorem decode_two (ha : 194 ≤ a.toNat) (ha' : a.toNat ≤ 223) (hb : isSecond a b) :
    decode (a :: b :: rest) = some (Char.ofNat ((a.toNat - 192) * 64 + (b.toNat - 128))) :: decode rest := by
  have hlead : (0xC2 ≤ a && a ≤ 0xDF) = true := by simp [UInt8.le_iff_toNat_le, ha, ha']
  have hsub : (a - 0xC0).toNat = a.toNat - 192 := UInt8.toNat_sub_of_le _ _ (UInt8.le_iff_toNat_le.mpr (by simp; omega))
  rw [decode.eq_def]
  dsimp only
  rw [if_neg (not_small (by omega)), if_pos hlead, if_pos hb, scalar, List.foldl_cons, List.foldl_nil, hsub]

theorem decode_three (ha : 224 ≤ a.toNat) (ha' : a.toNat ≤ 239) (hb : isSecond a b) (hc : isContinuation c) :
    decode (a :: b :: c :: rest) =
      some (Char.ofNat (((a.toNat - 224) * 64 + (b.toNat - 128)) * 64 + (c.toNat - 128))) :: decode rest := by
  have hno : ¬(0xC2 ≤ a && a ≤ 0xDF) = true := by
    simp [UInt8.le_iff_toNat_le]
    omega
  have hlead : (0xE0 ≤ a && a ≤ 0xEF) = true := by simp [UInt8.le_iff_toNat_le, ha, ha']
  have hsub : (a - 0xE0).toNat = a.toNat - 224 := UInt8.toNat_sub_of_le _ _ (UInt8.le_iff_toNat_le.mpr ha)
  rw [decode.eq_def]
  dsimp only
  rw [if_neg (not_small (by omega)), if_neg hno, if_pos hlead, if_pos hb, if_pos hc, scalar, List.foldl_cons,
    List.foldl_cons, List.foldl_nil, hsub]

theorem decode_four (ha : 240 ≤ a.toNat) (ha' : a.toNat ≤ 244) (hb : isSecond a b) (hc : isContinuation c)
    (hd : isContinuation d) :
    decode (a :: b :: c :: d :: rest) =
      some (Char.ofNat ((((a.toNat - 240) * 64 + (b.toNat - 128)) * 64 + (c.toNat - 128)) * 64 + (d.toNat - 128))) ::
        decode rest := by
  have hno : ¬(0xC2 ≤ a && a ≤ 0xDF) = true := by
    simp [UInt8.le_iff_toNat_le]
    omega
  have hno' : ¬(0xE0 ≤ a && a ≤ 0xEF) = true := by
    simp [UInt8.le_iff_toNat_le]
    omega
  have hlead : (0xF0 ≤ a && a ≤ 0xF4) = true := by simp [UInt8.le_iff_toNat_le, ha, ha']
  have hsub : (a - 0xF0).toNat = a.toNat - 240 := UInt8.toNat_sub_of_le _ _ (UInt8.le_iff_toNat_le.mpr ha)
  rw [decode.eq_def]
  dsimp only
  rw [if_neg (not_small (by omega)), if_neg hno, if_neg hno', if_pos hlead, if_pos hb, if_pos hc, if_pos hd, scalar,
    List.foldl_cons, List.foldl_cons, List.foldl_cons, List.foldl_nil, hsub]

end Bytes

/-! ## Characters and texts -/

/-- The bytes of a character are read as the character, whatever follows. -/
theorem decode_encodeChar_append (c : Char) (rest : List UInt8) :
    decode (String.utf8EncodeChar c ++ rest) = some c :: decode rest := by
  have hvalid : c.val.toNat.isValidChar := c.valid
  unfold Nat.isValidChar at hvalid
  have hchar (n : Nat) (h : n = c.val.toNat) : Char.ofNat n = c := by
    rw [h]
    exact Char.ofNat_toNat c
  unfold String.utf8EncodeChar
  dsimp only
  generalize c.val.toNat = v at hvalid hchar ⊢
  -- a continuation byte holds six bits
  have hlow (n : Nat) : (UInt8.ofNat (n % 64 + 128)).toNat = n % 64 + 128 := toNat_ofNat_add (by omega)
  have hcontinuation (n : Nat) : isContinuation (UInt8.ofNat (n % 64 + 128)) :=
    isContinuation_of_le (by rw [hlow]; omega) (by rw [hlow]; omega)
  split
  · have ha : (UInt8.ofNat v).toNat = v := UInt8.toNat_ofNat_of_lt' (show v < 256 by omega)
    rw [List.singleton_append, decode_one (by omega), ha, hchar v rfl]
  split
  · have ha : (UInt8.ofNat (v / 64 % 32 + 192)).toNat = v / 64 % 32 + 192 := toNat_ofNat_add (by omega)
    have hb := hlow v
    have hsecond : isSecond (UInt8.ofNat (v / 64 % 32 + 192)) (UInt8.ofNat (v % 64 + 128)) := by
      apply isSecond_of_le <;> omega
    rw [List.cons_append, List.singleton_append, decode_two (by omega) (by omega) hsecond, ha, hb,
      hchar _ (by omega)]
  split
  · have ha : (UInt8.ofNat (v / 4096 % 16 + 224)).toNat = v / 4096 % 16 + 224 := toNat_ofNat_add (by omega)
    have hb := hlow (v / 64)
    have hc := hlow v
    have hsecond : isSecond (UInt8.ofNat (v / 4096 % 16 + 224)) (UInt8.ofNat (v / 64 % 64 + 128)) := by
      apply isSecond_of_le <;> omega
    rw [List.cons_append, List.cons_append, List.singleton_append,
      decode_three (by omega) (by omega) hsecond (hcontinuation v), ha, hb, hc, hchar _ (by omega)]
  · have ha : (UInt8.ofNat (v / 262144 % 8 + 240)).toNat = v / 262144 % 8 + 240 := toNat_ofNat_add (by omega)
    have hb := hlow (v / 4096)
    have hc := hlow (v / 64)
    have hd := hlow v
    have hsecond : isSecond (UInt8.ofNat (v / 262144 % 8 + 240)) (UInt8.ofNat (v / 4096 % 64 + 128)) := by
      apply isSecond_of_le <;> omega
    rw [List.cons_append, List.cons_append, List.cons_append, List.singleton_append,
      decode_four (by omega) (by omega) hsecond (hcontinuation _) (hcontinuation _), ha, hb, hc, hd,
      hchar _ (by omega)]

/-- A character below 128 is one byte. -/
theorem encodeChar_of_lt {c : Char} (h : c.toNat < 128) : String.utf8EncodeChar c = [UInt8.ofNat c.toNat] :=
  if_pos (Nat.le_of_lt_succ h)

/-- No byte of another character is below 128. -/
theorem le_of_mem_encodeChar {c : Char} (h : 128 ≤ c.toNat) {b : UInt8} (hb : b ∈ String.utf8EncodeChar c) :
    128 ≤ b.toNat := by
  have hle : ¬c.val.toNat ≤ 0x7f := fun hle => Nat.not_le.mpr h (Nat.le_trans hle (by decide))
  have hhigh (n m : Nat) (hm : 128 ≤ m) (hnm : n + m < 256) : 128 ≤ (UInt8.ofNat (n + m)).toNat := by
    rw [toNat_ofNat_add hnm]
    omega
  unfold String.utf8EncodeChar at hb
  dsimp only at hb
  rw [if_neg hle] at hb
  split at hb
  · simp only [List.mem_cons, List.not_mem_nil, or_false] at hb
    rcases hb with rfl | rfl <;> exact hhigh _ _ (by omega) (by omega)
  split at hb
  · simp only [List.mem_cons, List.not_mem_nil, or_false] at hb
    rcases hb with rfl | rfl | rfl <;> exact hhigh _ _ (by omega) (by omega)
  · simp only [List.mem_cons, List.not_mem_nil, or_false] at hb
    rcases hb with rfl | rfl | rfl | rfl <;> exact hhigh _ _ (by omega) (by omega)

theorem decode_flatMap_encodeChar (cs : List Char) : decode (cs.flatMap String.utf8EncodeChar) = cs.map some := by
  induction cs with
  | nil => rfl
  | cons c cs ih => rw [List.flatMap_cons, decode_encodeChar_append, ih, List.map_cons]

/-- The bytes of a text are read as the text. -/
theorem decode?_encode (s : String) : decode? (encode s) = some s := by
  have hall (cs : List Char) : (cs.map some).mapM id = some cs := by
    induction cs with
    | nil => rfl
    | cons c cs ih => simp [ih]
  rw [decode?, encode_eq_flatMap, decode_flatMap_encodeChar, hall, Option.map_some, String.ofList_toList]

end SiteProbe.Utf8
