import SiteProbe.Json.Printer

/-!
# Compact JSON texts

In the compact text of a value a blank stands within a string only, and every string is closed (`closed_compress`). Such
a text is therefore known if it stands behind a blank, whatever stands before the blank (`Closed.eq_of_append`). The
text of a string gives the string back (`quote_inj`), and no value other than a string has the text of one
(`eq_string_of_compress_eq`). It is one line, whatever stands in its strings (`isLine_compress`).
-/

namespace SiteProbe.Json

/-! ## Places in a text -/

/-- Where in a text a character stands. -/
inductive Place where
  | outside
  | inside
  | escaped
  deriving DecidableEq

namespace Place

/-- The place behind a character. No blank and no backslash may stand outside of a string. -/
def next? (p : Place) (c : Char) : Option Place :=
  match p with
  | .outside => if c = '"' then some .inside else if c = ' ' ∨ c = '\\' then none else some .outside
  | .inside => if c = '"' then some .outside else if c = '\\' then some .escaped else some .inside
  | .escaped => some .inside

/-- The place behind some characters. -/
def scan? (p : Place) (cs : List Char) : Option Place := cs.foldlM next? p

variable {p q q' : Place} {cs ds : List Char}

theorem scan?_append : p.scan? (cs ++ ds) = (p.scan? cs).bind fun q => q.scan? ds := List.foldlM_append

theorem scan?_cons {c : Char} : p.scan? (c :: cs) = (p.next? c).bind fun q => q.scan? cs := List.foldlM_cons

/-- Behind a blank stands the inside of a string. -/
theorem scan?_blank (h : p.scan? (cs ++ ' ' :: ds) = some q) : inside.scan? ds = some q := by
  obtain ⟨r, -, hr⟩ := Option.bind_eq_some_iff.mp (scan?_append.symm.trans h)
  cases r with
  | outside => cases hr
  | inside => exact hr
  | escaped => exact hr

/-- Who starts within a string never meets who starts outside of it: a quote takes both to the other side. -/
theorem scan?_ne (h : outside.scan? cs = some q) (h' : inside.scan? cs = some q') : q ≠ q' := by
  induction cs generalizing q q' with
  | nil =>
    obtain rfl := Option.some.inj h
    obtain rfl := Option.some.inj h'
    decide
  | cons c rest ih =>
    rw [scan?_cons] at h h'
    by_cases hquote : c = '"'
    · rw [hquote] at h h'
      exact (ih h' h).symm
    by_cases hbad : c = ' ' ∨ c = '\\'
    · rw [next?, if_neg hquote, if_pos hbad] at h
      cases h
    · rw [next?, if_neg hquote, if_neg hbad] at h
      rw [next?, if_neg hquote, if_neg fun hc => hbad (.inr hc)] at h'
      exact ih h h'

end Place

/-! ## Closed texts -/

/-- In a text there is no blank outside of strings, and all strings are closed. -/
def Closed (s : String) : Prop := Place.outside.scan? s.toList = some .outside

namespace Closed

variable {s t : String}

theorem append (hs : Closed s) (ht : Closed t) : Closed (s ++ t) := by
  unfold Closed
  rw [String.toList_append, Place.scan?_append, hs]
  exact ht

/-- A closed text does not end in a blank and another closed text. -/
theorem ne_append (hs : Closed s) (ht : Closed t) (cs : List Char) : s.toList ≠ cs ++ ' ' :: t.toList := by
  intro heq
  unfold Closed at hs
  rw [heq] at hs
  exact Place.scan?_ne ht (Place.scan?_blank hs) rfl

/-- A closed text behind a blank is known, whatever stands before the blank. -/
theorem eq_of_append (hs : Closed s) (ht : Closed t) {cs ds : List Char}
    (h : cs ++ ' ' :: s.toList = ds ++ ' ' :: t.toList) : cs = ds ∧ s = t := by
  rcases List.append_eq_append_iff.mp h with ⟨es, rfl, hes⟩ | ⟨es, rfl, hes⟩
  · cases es with
    | nil => exact ⟨(List.append_nil cs).symm, String.toList_inj.mp (List.cons.inj hes).2⟩
    | cons e es => exact absurd (List.cons.inj hes).2 (hs.ne_append ht es)
  · cases es with
    | nil => exact ⟨List.append_nil ds, (String.toList_inj.mp (List.cons.inj hes).2).symm⟩
    | cons e es => exact absurd (List.cons.inj hes).2 (ht.ne_append hs es)

end Closed

/-! ## Strings -/

/-- The characters that an escape of two characters stands for. -/
def named : List Char := ['"', '\\', '\x08', '\x0c', '\n', '\r', '\t']

theorem escape_of_notMem {c : Char} (h : c ∉ named) : escape c = if c.toNat < 0x20 then
    ['\\', 'u', '0', '0', hexDigit (c.toNat / 16), hexDigit (c.toNat % 16)] else [c] := by
  simp only [named, List.mem_cons, List.not_mem_nil, or_false, not_or] at h
  unfold escape
  rw [if_neg h.1, if_neg h.2.1, if_neg h.2.2.1, if_neg h.2.2.2.1, if_neg h.2.2.2.2.1, if_neg h.2.2.2.2.2.1,
    if_neg h.2.2.2.2.2.2]

/-- The value of a digit of an escape. -/
def digitValue (c : Char) : Nat := if c.toNat < 58 then c.toNat - 48 else c.toNat - 87

/-- The first character that a text between quotes stands for, and what is behind it. -/
def unescape? : List Char → Option (Char × List Char)
  | '\\' :: 'b' :: rest => some ('\x08', rest)
  | '\\' :: 'f' :: rest => some ('\x0c', rest)
  | '\\' :: 'n' :: rest => some ('\n', rest)
  | '\\' :: 'r' :: rest => some ('\r', rest)
  | '\\' :: 't' :: rest => some ('\t', rest)
  | '\\' :: 'u' :: _ :: _ :: c :: d :: rest => some (Char.ofNat (digitValue c * 16 + digitValue d), rest)
  | '\\' :: c :: rest => some (c, rest)
  | c :: rest => some (c, rest)
  | [] => none

theorem unescape?_escape (c : Char) (rest : List Char) : unescape? (escape c ++ rest) = some (c, rest) := by
  by_cases hnamed : c ∈ named
  · simp only [named, List.mem_cons, List.not_mem_nil, or_false] at hnamed
    rcases hnamed with rfl | rfl | rfl | rfl | rfl | rfl | rfl <;> rfl
  · rw [escape_of_notMem hnamed]
    split
    · rename_i hcontrol
      have hdigits : ∀ n < 0x20, digitValue (hexDigit (n / 16)) * 16 + digitValue (hexDigit (n % 16)) = n := by decide
      show some (Char.ofNat _, rest) = _
      rw [hdigits _ hcontrol, Char.ofNat_toNat]
    · have hbackslash : c ≠ '\\' := fun hc => hnamed (hc ▸ by decide)
      simp [unescape?, hbackslash]

/-- What stands between quotes gives the text back. -/
theorem flatMap_escape_inj {cs ds : List Char} (h : cs.flatMap escape = ds.flatMap escape) : cs = ds := by
  induction cs generalizing ds with
  | nil =>
    cases ds with
    | nil => rfl
    | cons d ds =>
      have hd := unescape?_escape d (ds.flatMap escape)
      rw [← List.flatMap_cons, ← h] at hd
      cases hd
  | cons c cs ih =>
    have hc := unescape?_escape c (cs.flatMap escape)
    rw [← List.flatMap_cons, h] at hc
    cases ds with
    | nil => cases hc
    | cons d ds =>
      rw [List.flatMap_cons, unescape?_escape, Option.some.injEq, Prod.mk.injEq] at hc
      rw [hc.1, ih hc.2.symm]

theorem toList_quote (s : String) : (quote s).toList = '"' :: (s.toList.flatMap escape ++ ['"']) := by
  rw [quote, String.toList_append, String.toList_append, List.append_assoc, String.toList_ofList, String.toList_ofList]
  rfl

/-- The text of a string gives the string back. -/
theorem quote_inj {s t : String} (h : quote s = quote t) : s = t := by
  rw [← String.toList_inj, toList_quote, toList_quote] at h
  exact String.toList_inj.mp (flatMap_escape_inj (List.append_cancel_right (List.cons.inj h).2))

/-- An escape does not end a string. -/
theorem scan?_escape (c : Char) : Place.inside.scan? (escape c) = some .inside := by
  by_cases hnamed : c ∈ named
  · simp only [named, List.mem_cons, List.not_mem_nil, or_false] at hnamed
    rcases hnamed with rfl | rfl | rfl | rfl | rfl | rfl | rfl <;> rfl
  · rw [escape_of_notMem hnamed]
    split
    · rename_i hcontrol
      have hdigits : ∀ n < 0x20, Place.inside.scan? ['\\', 'u', '0', '0', hexDigit (n / 16), hexDigit (n % 16)] =
        some .inside := by decide
      exact hdigits _ hcontrol
    · have hquote : c ≠ '"' := fun hc => hnamed (hc ▸ by decide)
      have hbackslash : c ≠ '\\' := fun hc => hnamed (hc ▸ by decide)
      rw [Place.scan?_cons, Place.next?, if_neg hquote, if_neg hbackslash]
      rfl

theorem scan?_flatMap_escape (cs : List Char) : Place.inside.scan? (cs.flatMap escape) = some .inside := by
  induction cs with
  | nil => rfl
  | cons c rest ih => rw [List.flatMap_cons, Place.scan?_append, scan?_escape, Option.bind_some, ih]

theorem closed_quote (s : String) : Closed (quote s) := by
  unfold Closed
  rw [toList_quote, Place.scan?_cons]
  show Place.inside.scan? _ = _
  rw [Place.scan?_append, scan?_flatMap_escape]
  rfl

/-! ## Numbers -/

/-- Whether a character may stand in the text of a number. -/
def isNumeric (c : Char) : Bool := c.isDigit || ['-', '+', '.', 'e'].contains c

/-- A text has only characters of numbers. -/
def Numeric (s : String) : Prop := s.toList.all isNumeric

theorem numeric_append {s t : String} : Numeric (s ++ t) ↔ Numeric s ∧ Numeric t := by
  unfold Numeric
  rw [String.toList_append, List.all_append, Bool.and_eq_true]

theorem numeric_ofList {cs : List Char} : Numeric (String.ofList cs) ↔ ∀ c ∈ cs, isNumeric c := by
  unfold Numeric
  rw [String.toList_ofList, List.all_eq_true]

theorem numeric_natToString (n : Nat) : Numeric (toString n) := by
  rw [Nat.toString_eq_ofList_toDigits, numeric_ofList]
  intro c hc
  rw [isNumeric, Nat.isDigit_of_mem_toDigits (by decide) (by decide) hc, Bool.true_or]

theorem numeric_intToString (n : Int) : Numeric (toString n) := by
  cases n with
  | ofNat n => exact numeric_natToString n
  | negSucc n => exact numeric_append.mpr ⟨rfl, numeric_natToString (n + 1)⟩

theorem numeric_zeros (n : Nat) : Numeric (String.ofList (List.replicate n '0')) := by
  rw [numeric_ofList]
  intro c hc
  rw [List.eq_of_mem_replicate hc]
  rfl

theorem numeric_signed {s : String} (h : Numeric s ∧ s ≠ "") (negative : Bool) :
    Numeric (if negative then "-" ++ s else s) ∧ (if negative then "-" ++ s else s) ≠ "" := by
  cases negative with
  | false => exact h
  | true => exact ⟨numeric_append.mpr ⟨rfl, h.1⟩, by simp⟩

theorem numeric_floatRender (x : Binary64) : Numeric (x.render floatStyle) ∧ x.render floatStyle ≠ "" := by
  unfold Binary64.render
  obtain ⟨n, k⟩ := x.shortest
  have hdigits := numeric_natToString n
  have hchars : ∀ c ∈ (toString n).toList, isNumeric c := by simpa [Numeric] using hdigits
  refine numeric_signed ?_ x.negative
  split
  · exact ⟨rfl, by decide⟩
  split
  · exact ⟨numeric_append.mpr ⟨numeric_append.mpr ⟨hdigits, numeric_zeros _⟩, rfl⟩, by simp⟩
  split
  · refine ⟨numeric_append.mpr ⟨numeric_append.mpr ⟨?_, rfl⟩, ?_⟩, by simp⟩
    · exact numeric_ofList.mpr fun c hc => hchars c (List.mem_of_mem_take hc)
    · exact numeric_ofList.mpr fun c hc => hchars c (List.mem_of_mem_drop hc)
  split
  · exact ⟨numeric_append.mpr ⟨numeric_append.mpr ⟨rfl, numeric_zeros _⟩, hdigits⟩, by simp⟩
  · refine ⟨numeric_append.mpr ⟨numeric_append.mpr ⟨numeric_append.mpr ⟨?_, rfl⟩, ?_⟩, numeric_intToString _⟩, by simp⟩
    · split
      · rename_i d e rest hcs
        rw [hcs] at hchars
        obtain ⟨hd, hrest⟩ := List.forall_mem_cons.mp hchars
        exact numeric_ofList.mpr (List.forall_mem_cons.mpr ⟨hd, List.forall_mem_cons.mpr ⟨rfl, hrest⟩⟩)
      · exact numeric_ofList.mpr hchars
    · split
      · rfl
      · rfl

theorem numeric_render (n : Number) : Numeric n.render ∧ n.render ≠ "" := by
  cases n with
  | integer n =>
    refine ⟨numeric_intToString n, ?_⟩
    cases n with
    | ofNat n =>
      show toString n ≠ ""
      rw [Nat.toString_eq_ofList_toDigits]
      simp
    | negSucc n =>
      show "-" ++ toString (n + 1) ≠ ""
      simp
  | float x => exact numeric_floatRender x

theorem ne_of_isNumeric {c d : Char} (hc : isNumeric c) (hd : isNumeric d = false) : c ≠ d := by
  rintro rfl
  rw [hc] at hd
  cases hd

/-- A number has no blank, quote or backslash. -/
theorem closed_of_numeric {s : String} (h : Numeric s) : Closed s := by
  unfold Closed
  unfold Numeric at h
  generalize s.toList = cs at h ⊢
  induction cs with
  | nil => rfl
  | cons c rest ih =>
    rw [List.all_cons, Bool.and_eq_true] at h
    have hbad : ¬(c = ' ' ∨ c = '\\') := not_or.mpr ⟨ne_of_isNumeric h.1 rfl, ne_of_isNumeric h.1 rfl⟩
    rw [Place.scan?_cons, Place.next?, if_neg (ne_of_isNumeric h.1 rfl), if_neg hbad]
    exact ih h.2

/-! ## Values -/

theorem closed_compressItems {items : List Json} (h : ∀ v ∈ items, Closed v.compress) :
    Closed (compressItems items) := by
  induction items with
  | nil => rfl
  | cons v rest ih =>
    obtain ⟨hv, hrest⟩ := List.forall_mem_cons.mp h
    exact .append (.append rfl hv) (ih hrest)

theorem closed_compressMembers {members : List (String × Json)} (h : ∀ m ∈ members, Closed m.2.compress) :
    Closed (compressMembers members) := by
  induction members with
  | nil => rfl
  | cons m rest ih =>
    obtain ⟨hv, hrest⟩ := List.forall_mem_cons.mp h
    exact .append (.append (.append (.append rfl (closed_quote m.1)) rfl) hv) (ih hrest)

/-- The compact text of a value has no blank outside of strings, and all strings in it are closed. -/
theorem closed_compress (v : Json) : Closed v.compress := by
  induction v using Json.inductionOn with
  | null => rfl
  | bool b => cases b <;> rfl
  | number n => exact closed_of_numeric (numeric_render n).1
  | string s => exact closed_quote s
  | array items ih =>
    cases items with
    | nil => rfl
    | cons v rest =>
      obtain ⟨hv, hrest⟩ := List.forall_mem_cons.mp ih
      exact .append (.append (.append rfl hv) (closed_compressItems hrest)) rfl
  | object members ih =>
    cases members with
    | nil => rfl
    | cons m rest =>
      obtain ⟨hv, hrest⟩ := List.forall_mem_cons.mp ih
      exact .append (.append (.append (.append (.append rfl (closed_quote m.1)) rfl) hv) (closed_compressMembers hrest))
        rfl

theorem compress_ne_empty (v : Json) : v.compress ≠ "" := by
  cases v with
  | null => decide
  | bool b => cases b <;> decide
  | number n => exact (numeric_render n).2
  | string s => simp [compress, quote]
  | array items => cases items <;> simp [compress]
  | object members => cases members <;> simp [compress]

/-- Only a string has the text of a string. -/
theorem eq_string_of_compress_eq {v : Json} {s : String} (h : v.compress = quote s) : v = .string s := by
  have hlist : v.compress.toList = '"' :: (s.toList.flatMap escape ++ ['"']) := by rw [h, toList_quote]
  cases v with
  | null => cases hlist
  | bool b => cases b <;> cases hlist
  | number n =>
    have hnumeric := (numeric_render n).1
    rw [Numeric, ← compress, hlist] at hnumeric
    cases hnumeric
  | string s' => rw [quote_inj h]
  | array items => cases items <;> simp [compress] at hlist
  | object members => cases members <;> simp [compress] at hlist

/-! ## Lines -/

/-- Whether a character is none of the control characters that end lines and the like. -/
def isPrinted (c : Char) : Bool := 0x20 ≤ c.toNat

/-- No control character stands in a text. -/
def IsLine (s : String) : Prop := s.toList.all isPrinted

theorem isLine_iff {s : String} : IsLine s ↔ ∀ c ∈ s.toList, 0x20 ≤ c.toNat := by
  simp [IsLine, isPrinted]

theorem IsLine.append {s t : String} (hs : IsLine s) (ht : IsLine t) : IsLine (s ++ t) := by
  unfold IsLine
  rw [String.toList_append, List.all_append, Bool.and_eq_true]
  exact ⟨hs, ht⟩

theorem all_escape (c : Char) : (escape c).all isPrinted := by
  by_cases hnamed : c ∈ named
  · simp only [named, List.mem_cons, List.not_mem_nil, or_false] at hnamed
    rcases hnamed with rfl | rfl | rfl | rfl | rfl | rfl | rfl <;> rfl
  rw [escape_of_notMem hnamed]
  split
  · rename_i hcontrol
    have hdigits : ∀ n < 0x20, isPrinted (hexDigit (n / 16)) && isPrinted (hexDigit (n % 16)) := by decide
    have hboth := hdigits _ hcontrol
    rw [Bool.and_eq_true] at hboth
    simp only [List.all_cons, List.all_nil, hboth.1, hboth.2]
    rfl
  · rename_i hcontrol
    simpa [isPrinted] using hcontrol

theorem isLine_quote (s : String) : IsLine (quote s) := by
  unfold IsLine
  rw [toList_quote, List.all_cons, List.all_append, List.all_flatMap, Bool.and_eq_true, Bool.and_eq_true]
  exact ⟨rfl, List.all_eq_true.mpr fun c _ => all_escape c, rfl⟩

theorem isLine_of_numeric {s : String} (h : Numeric s) : IsLine s := by
  refine List.all_eq_true.mpr fun c hc => ?_
  have hnumeric := List.all_eq_true.mp h c hc
  rw [isNumeric, Bool.or_eq_true] at hnumeric
  rcases hnumeric with hdigit | hsign
  · have hle : 48 ≤ c.toNat ∧ c.toNat ≤ 57 := by simpa [Char.isDigit, UInt32.le_iff_toNat_le] using hdigit
    exact decide_eq_true (show 0x20 ≤ c.toNat by omega)
  · have hall : ['-', '+', '.', 'e'].all isPrinted := rfl
    exact List.all_eq_true.mp hall c (List.contains_iff_mem.mp hsign)

theorem isLine_compressItems {items : List Json} (h : ∀ v ∈ items, IsLine v.compress) :
    IsLine (compressItems items) := by
  induction items with
  | nil => rfl
  | cons v rest ih =>
    obtain ⟨hv, hrest⟩ := List.forall_mem_cons.mp h
    exact .append (.append rfl hv) (ih hrest)

theorem isLine_compressMembers {members : List (String × Json)} (h : ∀ m ∈ members, IsLine m.2.compress) :
    IsLine (compressMembers members) := by
  induction members with
  | nil => rfl
  | cons m rest ih =>
    obtain ⟨hm, hrest⟩ := List.forall_mem_cons.mp h
    exact .append (.append (.append (.append rfl (isLine_quote m.1)) rfl) hm) (ih hrest)

/-- The compact text of a value is one line. -/
theorem isLine_compress (v : Json) : IsLine v.compress := by
  induction v using Json.inductionOn with
  | null => rfl
  | bool b => cases b <;> rfl
  | number n => exact isLine_of_numeric (numeric_render n).1
  | string s => exact isLine_quote s
  | array items ih =>
    cases items with
    | nil => rfl
    | cons v rest =>
      obtain ⟨hv, hrest⟩ := List.forall_mem_cons.mp ih
      exact .append (.append (.append rfl hv) (isLine_compressItems hrest)) rfl
  | object members ih =>
    cases members with
    | nil => rfl
    | cons m rest =>
      obtain ⟨hm, hrest⟩ := List.forall_mem_cons.mp ih
      exact .append (.append (.append (.append (.append rfl (isLine_quote m.1)) rfl) hm) (isLine_compressMembers hrest))
        rfl

end SiteProbe.Json
