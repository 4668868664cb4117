import SiteProbe.Json.Token
import SiteProbe.Proofs.JsonText
import SiteProbe.Proofs.Utf8Texts

/-!
# Tokens of JSON texts

A text is scanned from between two tokens to between two tokens (`Scans`). A number goes on until a delimiter ends it,
so it is known what tokens it has if a delimiter or nothing follows (`Reads`). The text of a string is one token, the
string itself, whatever characters it has (`scans_quote`), the text of a whole number of 64 bits is one token, the
number (`reads_number`), and each of the three words is a token (`reads_word`).
-/

namespace SiteProbe.Json

/-! ## Scanning texts -/

/-- The bytes that may follow a value. -/
def isDelimiter (b : UInt8) : Bool := [0x0A, 0x20, 0x2C, 0x5D, 0x7D].contains b

namespace Scanner

/-- What a scanner is behind a text. -/
def scan (s : Scanner) (text : String) : Scanner := (text.toList.flatMap String.utf8EncodeChar).foldl step s

theorem scan_append (s : Scanner) (text text' : String) : s.scan (text ++ text') = (s.scan text).scan text' := by
  unfold scan
  rw [String.toList_append, List.flatMap_append, List.foldl_append]

/-- Two scanners go on alike at a delimiter and at the end. -/
def Settles (s s' : Scanner) : Prop := s.finish = s'.finish ∧ ∀ b, isDelimiter b → s.step b = s'.step b

theorem Settles.refl (s : Scanner) : Settles s s := ⟨rfl, fun _ _ => rfl⟩

end Scanner

open Scanner

/-- A text that starts and ends between two tokens has these tokens. -/
def Scans (text : String) (ts : List Token) : Prop :=
  ∀ before, (⟨.blank, before⟩ : Scanner).scan text = ⟨.blank, ts.reverse ++ before⟩

/-- A text that a delimiter or nothing follows has these tokens. -/
def Reads (text : String) (ts : List Token) : Prop :=
  ∀ before, Settles ((⟨.blank, before⟩ : Scanner).scan text) ⟨.blank, ts.reverse ++ before⟩

/-- A text that may follow a value has these tokens. -/
def Follows (text : String) (ts : List Token) : Prop :=
  Scans text ts ∧ ∃ b bytes, text.toList.flatMap String.utf8EncodeChar = b :: bytes ∧ isDelimiter b

section Texts

variable {s t : String} {ts us : List Token}

theorem Scans.append (hs : Scans s ts) (ht : Scans t us) : Scans (s ++ t) (ts ++ us) := by
  intro before
  rw [scan_append, hs, ht, List.reverse_append, List.append_assoc]

theorem Scans.reads (h : Scans s ts) : Reads s ts := by
  intro before
  rw [h]
  exact .refl _

theorem Scans.append_reads (hs : Scans s ts) (ht : Reads t us) : Reads (s ++ t) (ts ++ us) := by
  intro before
  rw [scan_append, hs, List.reverse_append, List.append_assoc]
  exact ht _

/-- What follows a value ends it. -/
theorem Reads.append (hs : Reads s ts) (ht : Follows t us) : Scans (s ++ t) (ts ++ us) := by
  obtain ⟨ht, b, bytes, hbytes, hb⟩ := ht
  intro before
  have hscan (s : Scanner) : s.scan t = bytes.foldl step (s.step b) := by
    unfold scan
    rw [hbytes, List.foldl_cons]
  rw [scan_append, hscan, (hs before).2 b hb, ← hscan, ht, List.reverse_append, List.append_assoc]

theorem Follows.append (hs : Follows s ts) (ht : Scans t us) : Follows (s ++ t) (ts ++ us) := by
  obtain ⟨hs, b, bytes, hbytes, hb⟩ := hs
  refine ⟨hs.append ht, b, bytes ++ t.toList.flatMap String.utf8EncodeChar, ?_, hb⟩
  rw [String.toList_append, List.flatMap_append, hbytes, List.cons_append]

/-- The tokens of a text that nothing follows. -/
theorem Reads.tokens_eq (h : Reads s ts) : tokens (Utf8.encode s) = ts := by
  have hfinish := (h []).1
  rw [List.append_nil] at hfinish
  rw [tokens, Utf8.encode_eq_flatMap]
  exact hfinish.trans (List.reverse_reverse ts)

/-! ## Items and members behind the first -/

/-- Parts that follow the first one, each behind a comma. -/
theorem Follows.parts {α : Type} {part : α → String} {toks : α → List Token} (ht : Follows t us) (xs : List α)
    (h : ∀ x ∈ xs, Reads (part x) (toks x)) :
    Follows (String.join (xs.map fun x => "," ++ part x) ++ t) (xs.flatMap (fun x => .comma :: toks x) ++ us) := by
  induction xs with
  | nil => simpa using ht
  | cons x xs ih =>
    obtain ⟨hx, hxs⟩ := List.forall_mem_cons.mp h
    have hcomma : Follows "," [.comma] := ⟨fun _ => rfl, 0x2C, [], rfl, rfl⟩
    rw [List.map_cons, String.join_cons, String.append_assoc, String.append_assoc, List.flatMap_cons, List.append_assoc]
    exact hcomma.append (hx.append (ih hxs))

/-- An array or object that is not empty. -/
theorem Scans.parts {α : Type} {part : α → String} {toks : α → List Token} {opening : String} {first : List Token}
    (hopening : Scans opening first) (ht : Follows t us) (x : α) (xs : List α)
    (h : ∀ y ∈ x :: xs, Reads (part y) (toks y)) :
    Scans (opening ++ (part x ++ (String.join (xs.map fun x => "," ++ part x) ++ t)))
      (first ++ (toks x ++ (xs.flatMap (fun x => .comma :: toks x) ++ us))) := by
  obtain ⟨hx, hxs⟩ := List.forall_mem_cons.mp h
  exact hopening.append (hx.append (ht.parts xs hxs))

end Texts

/-! ## Strings -/

/-- Within a string, some bytes stand for others. -/
def Spells (written meant : List UInt8) : Prop :=
  ∃ ps : List Piece, (∀ rest, pieceBytes? (ps ++ rest) = (pieceBytes? rest).map (meant ++ ·)) ∧
    ∀ pieces before, written.foldl step ⟨.string pieces, before⟩ = ⟨.string (ps.reverse ++ pieces), before⟩

namespace Spells

variable {w w' m m' : List UInt8}

theorem nil : Spells [] [] := ⟨[], fun rest => by simp, fun _ _ => rfl⟩

theorem append (h : Spells w m) (h' : Spells w' m') : Spells (w ++ w') (m ++ m') := by
  obtain ⟨ps, hps, hscan⟩ := h
  obtain ⟨ps', hps', hscan'⟩ := h'
  refine ⟨ps ++ ps', fun rest => ?_, fun pieces before => ?_⟩
  · rw [List.append_assoc, hps, hps', Option.map_map]
    congr 1
    funext bytes
    exact (List.append_assoc m m' bytes).symm
  · rw [List.foldl_append, hscan, hscan', List.reverse_append, List.append_assoc]

/-- A byte that is no quote, backslash or control character stands for itself. -/
theorem byte {b : UInt8} (hquote : b ≠ 0x22) (hbackslash : b ≠ 0x5C) (hcontrol : ¬b < 0x20) : Spells [b] [b] := by
  refine ⟨[.byte b], fun rest => rfl, fun pieces before => ?_⟩
  simp [step, hquote, hbackslash, hcontrol]

theorem bytes {bs : List UInt8} (h : ∀ b ∈ bs, b ≠ 0x22 ∧ b ≠ 0x5C ∧ ¬b < 0x20) : Spells bs bs := by
  induction bs with
  | nil => exact nil
  | cons b bs ih =>
    obtain ⟨⟨hquote, hbackslash, hcontrol⟩, hbs⟩ := List.forall_mem_cons.mp h
    exact (byte hquote hbackslash hcontrol).append (ih hbs)

/-- A hexadecimal digit of an escape counts. -/
theorem foldl_hexDigit {n : Nat} (hn : n < 16) (pieces : List Piece) (before : List Token) (missing value : Nat) :
    (String.utf8EncodeChar (hexDigit n)).foldl step ⟨.hex pieces missing value, before⟩ =
      if missing ≤ 1 then ⟨.string (.unit (value * 16 + n) :: pieces), before⟩
      else ⟨.hex pieces (missing - 1) (value * 16 + n), before⟩ := by
  have hdigit : ∀ n < 16, String.utf8EncodeChar (hexDigit n) = [UInt8.ofNat (hexDigit n).toNat] ∧
    hexDigit? (UInt8.ofNat (hexDigit n).toNat) = some n := by decide
  obtain ⟨hbytes, hvalue⟩ := hdigit n hn
  rw [hbytes, List.foldl_cons, List.foldl_nil, step]
  simp only [hvalue]

/-- An escape of a control character is its unit. -/
theorem foldl_controlEscape {n : Nat} (hn : n < 0x20) (pieces : List Piece) (before : List Token) :
    (['\\', 'u', '0', '0', hexDigit (n / 16), hexDigit (n % 16)].flatMap String.utf8EncodeChar).foldl step
      ⟨.string pieces, before⟩ = ⟨.string (.unit n :: pieces), before⟩ := by
  have hopen (bytes : List UInt8) : (0x5C :: 0x75 :: 0x30 :: 0x30 :: bytes).foldl step
    (⟨.string pieces, before⟩ : Scanner) = bytes.foldl step ⟨.hex pieces 2 0, before⟩ := rfl
  have hbytes (c d : Char) : ['\\', 'u', '0', '0', c, d].flatMap String.utf8EncodeChar =
    0x5C :: 0x75 :: 0x30 :: 0x30 :: (String.utf8EncodeChar c ++ (String.utf8EncodeChar d ++ [])) := rfl
  rw [hbytes, hopen, List.append_nil, List.foldl_append, foldl_hexDigit (by omega), if_neg (by decide),
    foldl_hexDigit (by omega), if_pos (by decide), Nat.zero_mul, Nat.zero_add, Nat.div_add_mod']

/-- An escape stands for its character. -/
theorem escape (c : Char) : Spells ((Json.escape c).flatMap String.utf8EncodeChar) (String.utf8EncodeChar c) := by
  by_cases hnamed : c ∈ named
  · simp only [named, List.mem_cons, List.not_mem_nil, or_false] at hnamed
    rcases hnamed with rfl | rfl | rfl | rfl | rfl | rfl | rfl
    · exact ⟨[.byte 0x22], fun _ => rfl, fun _ _ => rfl⟩
    · exact ⟨[.byte 0x5C], fun _ => rfl, fun _ _ => rfl⟩
    · exact ⟨[.byte 0x08], fun _ => rfl, fun _ _ => rfl⟩
    · exact ⟨[.byte 0x0C], fun _ => rfl, fun _ _ => rfl⟩
    · exact ⟨[.byte 0x0A], fun _ => rfl, fun _ _ => rfl⟩
    · exact ⟨[.byte 0x0D], fun _ => rfl, fun _ _ => rfl⟩
    · exact ⟨[.byte 0x09], fun _ => rfl, fun _ _ => rfl⟩
  rw [escape_of_notMem hnamed]
  split
  · rename_i hcontrol
    refine ⟨[.unit c.toNat], fun rest => ?_, fun pieces before => foldl_controlEscape hcontrol pieces before⟩
    rw [List.singleton_append, pieceBytes?.eq_def]
    dsimp only
    rw [if_pos (.inl (by omega)), scalarBytes, Char.ofNat_toNat]
  · rename_i hcontrol
    rw [List.flatMap_singleton]
    refine bytes fun b hb => ?_
    by_cases hsmall : c.toNat < 128
    · rw [Utf8.encodeChar_of_lt hsmall] at hb
      obtain rfl := List.mem_singleton.mp hb
      have hchar (n : Nat) (hn : n < 256) (h : UInt8.ofNat c.toNat = UInt8.ofNat n) : c = Char.ofNat n := by
        have hnat := congrArg UInt8.toNat h
        rw [UInt8.toNat_ofNat_of_lt' hn, UInt8.toNat_ofNat_of_lt' (Nat.lt_trans hsmall (by decide))] at hnat
        rw [← hnat, Char.ofNat_toNat]
      refine ⟨fun h => hnamed ?_, fun h => hnamed ?_, ?_⟩
      · rw [hchar 0x22 (by decide) h]
        decide
      · rw [hchar 0x5C (by decide) h]
        decide
      · rw [UInt8.lt_iff_toNat_lt, UInt8.toNat_ofNat_of_lt' (Nat.lt_trans hsmall (by decide))]
        exact hcontrol
    · have hhigh := Utf8.le_of_mem_encodeChar (Nat.le_of_not_lt hsmall) hb
      refine ⟨?_, ?_, ?_⟩
      · rintro rfl
        exact absurd hhigh (by decide)
      · rintro rfl
        exact absurd hhigh (by decide)
      · exact fun h => Utf8.not_small hhigh (UInt8.lt_trans h (by decide))

/-- A text with its characters escaped stands for its bytes. -/
theorem text (cs : List Char) :
    Spells ((cs.flatMap Json.escape).flatMap String.utf8EncodeChar) (cs.flatMap String.utf8EncodeChar) := by
  induction cs with
  | nil => exact nil
  | cons c cs ih =>
    rw [List.flatMap_cons, List.flatMap_append, List.flatMap_cons]
    exact (escape c).append ih

end Spells

/-- The text of a string is one token, the string. -/
theorem scans_quote (s : String) : Scans (quote s) [.string (some s)] := by
  obtain ⟨ps, hps, hscan⟩ := Spells.text s.toList
  have hbytes : pieceBytes? ps = some (Utf8.encode s) := by
    have hnil := hps []
    rw [List.append_nil] at hnil
    rw [hnil, Utf8.encode_eq_flatMap]
    simp [pieceBytes?]
  intro before
  have hopen (bytes : List UInt8) : (0x22 :: bytes).foldl step (⟨.blank, before⟩ : Scanner) =
    bytes.foldl step ⟨.string [], before⟩ := rfl
  have hquote : String.utf8EncodeChar '"' = [0x22] := rfl
  rw [scan, toList_quote, List.flatMap_cons, List.flatMap_append, List.flatMap_singleton, hquote, List.singleton_append,
    hopen, List.foldl_append, hscan, List.append_nil]
  show Scanner.emit _ (.string (pieceText? ps.reverse.reverse)) = _
  rw [List.reverse_reverse, pieceText?, hbytes, Option.bind_some, Utf8.decode?_encode]
  rfl

/-! ## Numbers -/

/-- A whole number of 64 bits, signed or not. -/
def Number.IsWhole : Number → Prop
  | .integer n => -9223372036854775808 ≤ n ∧ n < 18446744073709551616
  | .float _ => False

/-- Digits that name a number of 64 bits are all taken up. -/
theorem gather_digits {cs : List Char} {m : Nat} (h : Nat.ofDigitChars 10 cs m < Literal.significandBound) :
    Literal.gather m (cs.map fun c => c.toNat - '0'.toNat) = (Nat.ofDigitChars 10 cs m, 0) := by
  induction cs generalizing m with
  | nil => rfl
  | cons c cs ih =>
    rw [Nat.ofDigitChars_cons, Nat.mul_comm] at h ⊢
    have hle : m * 10 + (c.toNat - '0'.toNat) ≤ Nat.ofDigitChars 10 cs (m * 10 + (c.toNat - '0'.toNat)) := by
      rw [Nat.ofDigitChars_eq_ofDigitChars_zero]
      exact Nat.le_add_right_of_le (Nat.le_mul_of_pos_left _ (Nat.pow_pos (by decide)))
    rw [List.map_cons, Literal.gather, if_pos (Nat.lt_of_le_of_lt hle h), ih h]

/-- A digit is a byte with its value. -/
theorem encodeChar_digit {c : Char} (h : c.isDigit) : String.utf8EncodeChar c = [UInt8.ofNat c.toNat] ∧
    digit? (UInt8.ofNat c.toNat) = some (c.toNat - '0'.toNat) := by
  have hle : 48 ≤ c.toNat ∧ c.toNat ≤ 57 := by simpa [Char.isDigit, UInt32.le_iff_toNat_le] using h
  have hdigits : ∀ n < 58, 48 ≤ n → digit? (UInt8.ofNat n) = some (n - '0'.toNat) := by decide
  exact ⟨Utf8.encodeChar_of_lt (by omega), hdigits _ (by omega) hle.1⟩

/-- The first digit of a decimal is no zero, unless it is the only one. -/
theorem toDigits_eq_cons (n : Nat) : ∃ c cs, Nat.toDigits 10 n = c :: cs ∧ (c.toNat - '0'.toNat = 0 → cs = []) := by
  induction n using Nat.strongRecOn with
  | ind n ih =>
    by_cases hsmall : n < 10
    · exact ⟨n.digitChar, [], Nat.toDigits_of_lt_base hsmall, fun _ => rfl⟩
    · obtain ⟨c, cs, hdigits, hzero⟩ := ih (n / 10) (by omega)
      refine ⟨c, cs ++ [(n % 10).digitChar], ?_, fun hc => ?_⟩
      · rw [Nat.toDigits_of_base_le (by decide) (Nat.le_of_not_lt hsmall), hdigits, List.cons_append]
      · have hvalue := @Nat.ofDigitChars_toDigits 10 (n / 10) (by decide) (by decide)
        rw [hdigits, hzero hc, Nat.ofDigitChars_cons, hc, Nat.ofDigitChars_nil] at hvalue
        omega

/-- Where a decimal begins: at its first digit, or at a sign. -/
def numberStart (negative : Bool) (before : List Token) : Scanner :=
  if negative then ⟨.number { emptyLiteral with negative := true } .minus, before⟩ else ⟨.blank, before⟩

/-- The literal of a decimal. -/
def literal (negative : Bool) (cs : List Char) : Literal :=
  { emptyLiteral with negative, whole := (cs.map fun c => c.toNat - '0'.toNat).reverse }

theorem step_firstDigit {b : UInt8} {d : Nat} (h : digit? b = some d) (negative : Bool) (before : List Token) :
    (numberStart negative before).step b =
      ⟨.number { emptyLiteral with negative, whole := [d] } (if d = 0 then .zero else .whole), before⟩ := by
  cases negative with
  | true => cases d <;> simp [numberStart, step, stepNumber, h]
  | false =>
    have hle : 0x30 ≤ b ∧ b ≤ 0x39 := by
      unfold digit? at h
      split at h
      · rename_i hle
        simpa using hle
      · cases h
    have hne (c : UInt8) (hc : c < 0x30 ∨ 0x39 < c) : b ≠ c := by
      rintro rfl
      rcases hc with hc | hc
      · exact absurd hle.1 (UInt8.not_le.mpr hc)
      · exact absurd hle.2 (UInt8.not_le.mpr hc)
    cases d <;>
      simp [numberStart, step, stepBlank, emptyLiteral, h, hne 0x20, hne 0x09, hne 0x0A, hne 0x0D, hne 0x5B, hne 0x5D,
        hne 0x7B, hne 0x7D, hne 0x2C, hne 0x3A, hne 0x22, hne 0x6E, hne 0x74, hne 0x66, hne 0x2D]

/-- Digits are taken up one after the other. -/
theorem foldl_digits {cs : List Char} (h : ∀ c ∈ cs, c.isDigit) (l : Literal) (before : List Token) :
    (cs.flatMap String.utf8EncodeChar).foldl step ⟨.number l .whole, before⟩ =
      ⟨.number { l with whole := (cs.map fun c => c.toNat - '0'.toNat).reverse ++ l.whole } .whole, before⟩ := by
  induction cs generalizing l with
  | nil => rfl
  | cons c cs ih =>
    obtain ⟨hc, hcs⟩ := List.forall_mem_cons.mp h
    obtain ⟨hbytes, hdigit⟩ := encodeChar_digit hc
    have hstep : (⟨.number l .whole, before⟩ : Scanner).step (UInt8.ofNat c.toNat) =
        ⟨.number { l with whole := (c.toNat - '0'.toNat) :: l.whole } .whole, before⟩ := by
      simp [step, stepNumber, hdigit]
    rw [List.flatMap_cons, hbytes, List.singleton_append, List.foldl_cons, hstep, ih hcs, List.map_cons,
      List.reverse_cons, List.append_assoc, List.singleton_append]

/-- A decimal is read digit by digit. -/
theorem scan_decimal (n : Nat) (negative : Bool) (before : List Token) :
    ∃ place, (place = .zero ∨ place = .whole) ∧ (numberStart negative before).scan (toString n) =
      ⟨.number (literal negative (Nat.toDigits 10 n)) place, before⟩ := by
  obtain ⟨c, cs, hdigits, hzero⟩ := toDigits_eq_cons n
  have hall : ∀ c' ∈ c :: cs, c'.isDigit := fun c' hc' =>
    Nat.isDigit_of_mem_toDigits (by decide) (by decide) (hdigits ▸ hc')
  obtain ⟨hc, hcs⟩ := List.forall_mem_cons.mp hall
  obtain ⟨hbytes, hdigit⟩ := encodeChar_digit hc
  rw [scan, Nat.toString_eq_ofList_toDigits, String.toList_ofList, hdigits, List.flatMap_cons, hbytes,
    List.singleton_append, List.foldl_cons, step_firstDigit hdigit]
  by_cases hc0 : c.toNat - '0'.toNat = 0
  · refine ⟨.zero, .inl rfl, ?_⟩
    rw [if_pos hc0, hzero hc0]
    rfl
  · refine ⟨.whole, .inr rfl, ?_⟩
    rw [if_neg hc0, foldl_digits hcs, literal, List.map_cons, List.reverse_cons]

/-- A delimiter ends a number. -/
theorem settles_number {place : NumberPlace} (hplace : place = .zero ∨ place = .whole) (l : Literal)
    (before : List Token) : Settles ⟨.number l place, before⟩ ⟨.blank, .number l.toNumber? :: before⟩ := by
  constructor
  · rcases hplace with rfl | rfl <;> rfl
  · intro b hb
    simp only [isDelimiter, List.contains_cons, List.contains_nil, Bool.or_false, Bool.or_eq_true, beq_iff_eq] at hb
    rcases hb with rfl | rfl | rfl | rfl | rfl <;> rcases hplace with rfl | rfl <;> rfl

/-- The literal of a whole number of 64 bits names it. -/
theorem toNumber?_literal {n : Nat} {negative : Bool} (hn : n < 18446744073709551616)
    (hnegative : negative → 0 < n ∧ n ≤ 9223372036854775808) :
    (literal negative (Nat.toDigits 10 n)).toNumber? = some (.integer (if negative then -n else n)) := by
  have hvalue := @Nat.ofDigitChars_toDigits 10 n (by decide) (by decide)
  have hgather : Literal.gather 0 (literal negative (Nat.toDigits 10 n)).whole.reverse = (n, 0) := by
    rw [literal, List.reverse_reverse, gather_digits (by rw [hvalue]; exact hn), hvalue]
  rw [Literal.toNumber?, hgather]
  cases negative with
  | false => rfl
  | true =>
    obtain ⟨hpos, hle⟩ := hnegative rfl
    have hsign : (true && (decide (n = 0) || decide (9223372036854775808 < n))) = false := by
      simp
      omega
    simp only [literal, hsign]
    rfl

/-- The text of a whole number of 64 bits is one token, the number. -/
theorem reads_number {n : Number} (h : n.IsWhole) : Reads n.render [.number (some n)] := by
  intro before
  cases n with
  | float x => exact h.elim
  | integer n =>
    obtain ⟨hle, hlt⟩ := h
    cases n with
    | ofNat n =>
      obtain ⟨place, hplace, hscan⟩ := scan_decimal n false before
      have hnumber := @toNumber?_literal n false (Int.ofNat_lt.mp hlt) nofun
      show Settles ((numberStart false before).scan (toString n)) _
      rw [hscan]
      have hsettles := settles_number hplace (literal false (Nat.toDigits 10 n)) before
      rw [hnumber] at hsettles
      exact hsettles
    | negSucc n =>
      obtain ⟨place, hplace, hscan⟩ := scan_decimal (n + 1) true before
      have hnumber := @toNumber?_literal (n + 1) true (by omega) fun _ => ⟨by omega, by omega⟩
      show Settles ((⟨.blank, before⟩ : Scanner).scan ("-" ++ toString (n + 1))) _
      rw [scan_append]
      show Settles ((numberStart true before).scan (toString (n + 1))) _
      rw [hscan]
      have hsettles := settles_number hplace (literal true (Nat.toDigits 10 (n + 1))) before
      rw [hnumber] at hsettles
      exact hsettles

/-! ## Words -/

/-- The bytes that are left of a word complete it. -/
theorem foldl_word {left : List UInt8} (h : left ≠ []) (token : Token) (before : List Token) :
    left.foldl step ⟨.word left token, before⟩ = ⟨.blank, token :: before⟩ := by
  induction left with
  | nil => exact absurd rfl h
  | cons b rest ih =>
    cases rest with
    | nil => simp [step, emit]
    | cons c rest =>
      have hstep : (⟨.word (b :: c :: rest) token, before⟩ : Scanner).step b = ⟨.word (c :: rest) token, before⟩ := by
        simp [step]
      rw [List.foldl_cons, hstep]
      exact ih (List.cons_ne_nil c rest)

/-- A word is known by its first letter. -/
theorem reads_word {first left : String} {token : Token} (hleft : Utf8.encode left ≠ [])
    (hfirst : ∀ before, (⟨.blank, before⟩ : Scanner).scan first = ⟨.word (Utf8.encode left) token, before⟩) :
    Reads (first ++ left) [token] := by
  refine Scans.reads fun before => ?_
  rw [scan_append, hfirst, scan, ← Utf8.encode_eq_flatMap, foldl_word hleft]
  rfl

theorem reads_null : Reads "null" [.null] := by
  have hword : Reads ("n" ++ "ull") [.null] := reads_word (by rw [Utf8.encode_eq_flatMap]; decide) fun _ => rfl
  exact hword

theorem reads_bool (b : Bool) : Reads (if b then "true" else "false") [.bool b] := by
  have htrue : Reads ("t" ++ "rue") [.bool true] := reads_word (by rw [Utf8.encode_eq_flatMap]; decide) fun _ => rfl
  have hfalse : Reads ("f" ++ "alse") [.bool false] := reads_word (by rw [Utf8.encode_eq_flatMap]; decide) fun _ => rfl
  cases b with
  | true => exact htrue
  | false => exact hfalse

end SiteProbe.Json
