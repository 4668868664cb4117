import SiteProbe.Text.Utf8

/-!
# Texts in byte order

Texts are compared character by character. This is the order of their UTF-8 bytes (`encode_lt_encode_iff`), because the
bytes of a smaller character are smaller, whatever follows them (`encodeChar_append_lt`).
-/

namespace SiteProbe.Utf8

/-! ## The bytes of a text -/

theorem toListLoop_eq (bs : ByteArray) (i : Nat) (r : List UInt8) :
    ByteArray.toList.loop bs i r = r.reverse ++ bs.data.toList.drop i := by
  fun_induction ByteArray.toList.loop bs i r with
  | case1 i r h ih =>
    have hi : i < bs.data.toList.length := by simpa using h
    rw [ih, List.drop_eq_getElem_cons hi]
    simp [ByteArray.get!, h]
  | case2 i r h => rw [List.drop_eq_nil_of_le (by simpa using Nat.le_of_not_lt h), List.append_nil]

/-- The bytes of a text are those of its characters. -/
theorem encode_eq_flatMap (s : String) : encode s = s.toList.flatMap String.utf8EncodeChar := by
  have hs : s.toByteArray = (s.toList.flatMap String.utf8EncodeChar).toByteArray := by
    conv => lhs; rw [← String.ofList_toList (s := s)]
    rfl
  unfold encode ByteArray.toList
  rw [toListLoop_eq, String.toUTF8_eq_toByteArray, hs, List.toList_data_toByteArray]
  rfl

/-! ## The order of characters -/

/-- A list of bytes is smaller if its first byte is, or if the first bytes are the same and the rest is smaller. -/
theorem ofNat_cons_lt {a b : Nat} {xs ys : List UInt8} (ha : a < 256) (hb : b < 256)
    (h : a < b ∨ a = b ∧ xs < ys) : UInt8.ofNat a :: xs < UInt8.ofNat b :: ys := by
  rw [List.cons_lt_cons_iff, UInt8.lt_iff_toNat_lt, ← UInt8.toNat_inj, UInt8.toNat_ofNat_of_lt' ha,
    UInt8.toNat_ofNat_of_lt' hb]
  exact h

/-- The last continuation byte decides. -/
theorem last_lt {v w : Nat} {xs ys : List UInt8} (hv : v < w) (hvw : v / 64 = w / 64) :
    UInt8.ofNat (v % 64 + 128) :: xs < UInt8.ofNat (w % 64 + 128) :: ys :=
  ofNat_cons_lt (by omega) (by omega) (.inl (by omega))

/-- The last two continuation bytes decide. -/
theorem lastTwo_lt {v w : Nat} {xs ys : List UInt8} (hv : v < w) (hvw : v / 4096 = w / 4096) :
    UInt8.ofNat (v / 64 % 64 + 128) :: UInt8.ofNat (v % 64 + 128) :: xs <
      UInt8.ofNat (w / 64 % 64 + 128) :: UInt8.ofNat (w % 64 + 128) :: ys := by
  refine ofNat_cons_lt (by omega) (by omega) ?_
  by_cases h : v / 64 = w / 64
  · exact .inr ⟨by rw [h], last_lt hv h⟩
  · exact .inl (by omega)

/-- The last three continuation bytes decide. -/
theorem lastThree_lt {v w : Nat} {xs ys : List UInt8} (hv : v < w) (hvw : v / 262144 = w / 262144) :
    UInt8.ofNat (v / 4096 % 64 + 128) :: UInt8.ofNat (v / 64 % 64 + 128) :: UInt8.ofNat (v % 64 + 128) :: xs <
      UInt8.ofNat (w / 4096 % 64 + 128) :: UInt8.ofNat (w / 64 % 64 + 128) :: UInt8.ofNat (w % 64 + 128) :: ys := by
  refine ofNat_cons_lt (by omega) (by omega) ?_
  by_cases h : v / 4096 = w / 4096
  · exact .inr ⟨by rw [h], lastTwo_lt hv h⟩
  · exact .inl (by omega)

/-- The bytes of a smaller character are smaller, whatever follows. -/
theorem encodeChar_append_lt {c d : Char} (h : c < d) (xs ys : List UInt8) :
    String.utf8EncodeChar c ++ xs < String.utf8EncodeChar d ++ ys := by
  have hv : c.val.toNat < d.val.toNat := h
  have hd : d.val.toNat < 0x110000 := by
    have hvalid : d.val.toNat.isValidChar := d.valid
    unfold Nat.isValidChar at hvalid
    omega
  unfold String.utf8EncodeChar
  dsimp only
  generalize c.val.toNat = v at hv ⊢
  generalize d.val.toNat = w at hv hd ⊢
  -- the first byte tells how many there are, so it decides unless both characters have as many
  split
  · split
    · exact ofNat_cons_lt (by omega) (by omega) (.inl hv)
    · split
      · exact ofNat_cons_lt (by omega) (by omega) (.inl (by omega))
      · split <;> exact ofNat_cons_lt (by omega) (by omega) (.inl (by omega))
  · rw [if_neg (show ¬w ≤ 0x7f by omega)]
    split
    · split
      · refine ofNat_cons_lt (by omega) (by omega) ?_
        by_cases hvw : v / 64 = w / 64
        · exact .inr ⟨by rw [hvw], last_lt hv hvw⟩
        · exact .inl (by omega)
      · split <;> exact ofNat_cons_lt (by omega) (by omega) (.inl (by omega))
    · rw [if_neg (show ¬w ≤ 0x7ff by omega)]
      split
      · split
        · refine ofNat_cons_lt (by omega) (by omega) ?_
          by_cases hvw : v / 4096 = w / 4096
          · exact .inr ⟨by rw [hvw], lastTwo_lt hv hvw⟩
          · exact .inl (by omega)
        · exact ofNat_cons_lt (by omega) (by omega) (.inl (by omega))
      · rw [if_neg (show ¬w ≤ 0xffff by omega)]
        refine ofNat_cons_lt (by omega) (by omega) ?_
        by_cases hvw : v / 262144 = w / 262144
        · exact .inr ⟨by rw [hvw], lastThree_lt hv hvw⟩
        · exact .inl (by omega)

/-! ## The order of texts -/

/-- Smaller texts have smaller bytes. -/
theorem flatMap_encodeChar_lt : ∀ {cs ds : List Char}, cs < ds →
    cs.flatMap String.utf8EncodeChar < ds.flatMap String.utf8EncodeChar
  | _, [], h => absurd h (List.not_lt_nil _)
  | [], d :: ds, _ => by
    rw [List.flatMap_nil, List.flatMap_cons]
    cases hd : String.utf8EncodeChar d with
    | nil => exact absurd hd String.utf8EncodeChar_ne_nil
    | cons b bs => exact List.nil_lt_cons _ _
  | c :: cs, d :: ds, h => by
    rw [List.flatMap_cons, List.flatMap_cons]
    rcases List.cons_lt_cons_iff.mp h with hcd | ⟨rfl, hrest⟩
    · exact encodeChar_append_lt hcd _ _
    · exact List.append_left_lt (flatMap_encodeChar_lt hrest)

/-- Texts are in the order of their bytes. -/
theorem encode_lt_encode_iff {s t : String} : encode s < encode t ↔ s < t := by
  rw [encode_eq_flatMap, encode_eq_flatMap]
  refine ⟨fun h => ?_, flatMap_encodeChar_lt⟩
  rcases Std.lt_trichotomy s t with hst | rfl | hst
  · exact hst
  · exact absurd h (List.lt_irrefl _)
  · exact absurd h (List.lt_asymm (flatMap_encodeChar_lt hst))

end SiteProbe.Utf8
