import SiteProbe.Json.Decode
import SiteProbe.Proofs.Entries

/-!
# Gaps in drafts

A draft with a gap is given by what lies around the gap, from the outside in (`Draft.inside`). If a decoder that
succeeds on what stands in the gap succeeds on something else there, too, then so do the decoders of the arrays, objects
and records around it, and what they give is related alike (`Draft.carries_list`, `Draft.carries_dict`,
`Draft.carries_record`).
-/

namespace SiteProbe

/-! ## Readings that succeed together -/

/-- If one reading succeeds, so does another one, and what they give is related. -/
def Carries {ε α β : Type} (R : α → β → Prop) (x : Except ε α) (y : Except ε β) : Prop :=
  ∀ a, x = .ok a → ∃ b, y = .ok b ∧ R a b

namespace Carries

variable {ε α α' β β' : Type} {R : α → β → Prop} {S : α' → β' → Prop} {x : Except ε α} {y : Except ε β}

theorem pure {a : α} {b : β} (h : R a b) : Carries R (.ok a : Except ε α) (.ok b) := by
  intro a' ha
  obtain rfl := Except.ok.inj ha
  exact ⟨b, rfl, h⟩

theorem refl (x : Except ε α) : Carries Eq x x := fun a ha => ⟨a, ha, rfl⟩

theorem of_error {e : ε} : Carries R (.error e) y := nofun

theorem bind {f : α → Except ε α'} {g : β → Except ε β'} (h : Carries R x y)
    (hnext : ∀ a b, R a b → Carries S (f a) (g b)) : Carries S (x >>= f) (y >>= g) := by
  cases x with
  | error e => exact of_error
  | ok a =>
    obtain ⟨b, rfl, hab⟩ := h a rfl
    exact hnext a b hab

theorem map {f : α → α'} {g : β → β'} (h : Carries R x y) (hfg : ∀ a b, R a b → S (f a) (g b)) :
    Carries S (f <$> x) (g <$> y) := by
  cases x with
  | error e => exact of_error
  | ok a =>
    obtain ⟨b, rfl, hab⟩ := h a rfl
    exact pure (hfg a b hab)

/-- Both go on behind one and the same reading. -/
theorem bind_same {f : α → Except ε α'} {g : α → Except ε β'} (x : Except ε α) (h : ∀ a, Carries S (f a) (g a)) :
    Carries S (x >>= f) (x >>= g) :=
  (refl x).bind fun a _ hab => hab ▸ h a

end Carries

namespace Dict

variable {κ α : Type} [Ord κ] [Std.TransOrd κ] [Std.LawfulEqOrd κ] [DecidableEq κ]

omit [Ord κ] [Std.TransOrd κ] [Std.LawfulEqOrd κ] in
theorem latest?_append_cons (before after : List (κ × α)) (k : κ) (v : α) (j : κ) :
    latest? (before ++ (k, v) :: after) j =
      (latest? after j).or (if j = k then some v else latest? before j) := by
  rw [← List.singleton_append, latest?_append, latest?_append, latest?_singleton, Option.or_assoc]
  by_cases hj : j = k
  · rw [if_pos hj, if_pos hj.symm, Option.some_or]
  · rw [if_neg hj, if_neg (Ne.symm hj), Option.none_or]

/-- Another value under a key makes no difference if there is a later one; otherwise it is put in. -/
theorem ofList_replace (before after : List (κ × α)) (k : κ) (v w : α) :
    ofList (before ++ (k, w) :: after) = ofList (before ++ (k, v) :: after) ∨
      (ofList (before ++ (k, v) :: after)).get? k = some v ∧
        ofList (before ++ (k, w) :: after) = (ofList (before ++ (k, v) :: after)).insert k w := by
  cases hafter : latest? after k with
  | some u =>
    left
    refine ext_get? fun j => ?_
    rw [get?_ofList, get?_ofList, latest?_append_cons, latest?_append_cons]
    by_cases hj : j = k
    · rw [hj, hafter, Option.some_or, Option.some_or]
    · rw [if_neg hj, if_neg hj]
  | none =>
    right
    constructor
    · rw [get?_ofList, latest?_append_cons, hafter, if_pos rfl, Option.none_or]
    · refine ext_get? fun j => ?_
      rw [get?_insert, get?_ofList, get?_ofList, latest?_append_cons, latest?_append_cons]
      by_cases hj : j = k
      · rw [if_pos hj, if_pos hj, hj, hafter, Option.none_or]
      · rw [if_neg hj, if_neg hj, if_neg hj]

end Dict

namespace Json.Draft

/-- An array or an object with a gap in the place of an item or of a member's value. -/
inductive Gap where
  | item (before after : List Draft)
  | value (before : List (Option String × Draft)) (key : String) (after : List (Option String × Draft))

/-- Put a draft into a gap. -/
def Gap.fill (d : Draft) : Gap → Draft
  | .item before after => .array (before ++ d :: after)
  | .value before key after => .object (before ++ (some key, d) :: after)

/-- A draft at a place, which is given by the gaps around it, from the outside in. -/
def inside (d : Draft) : List Gap → Draft
  | [] => d
  | gap :: rest => gap.fill (d.inside rest)

variable {α σ : Type} {R : α → α → Prop} {S : σ → σ → Prop} {old new : Draft} {room : Nat}

/-! ## Arrays and objects -/

/-- Lists that are the same but for what one of them has at an index. -/
def SameBut (R : α → α → Prop) (n : Nat) (as bs : List α) : Prop :=
  ∃ before a b after, before.length = n ∧ as = before ++ a :: after ∧ bs = before ++ b :: after ∧ R a b

theorem carries_mapM {δ ε : Type} {f : δ → Except ε α} {x y : δ} (h : Carries R (f x) (f y)) (before after : List δ) :
    Carries (SameBut R before.length) ((before ++ x :: after).mapM f) ((before ++ y :: after).mapM f) := by
  induction before with
  | nil =>
    rw [List.nil_append, List.nil_append, List.mapM_cons, List.mapM_cons]
    exact h.bind fun a b hab => .bind_same _ fun as => .pure ⟨[], a, b, as, rfl, rfl, rfl, hab⟩
  | cons d before ih =>
    rw [List.cons_append, List.cons_append, List.mapM_cons, List.mapM_cons]
    refine .bind_same _ fun c => ih.bind ?_
    rintro _ _ ⟨front, a, b, behind, hlength, rfl, rfl, hab⟩
    exact .pure ⟨c :: front, a, b, behind, congrArg (· + 1) hlength, rfl, rfl, hab⟩

theorem carries_descend {β γ : Type} {T : β → γ → Prop} {f : Nat → Except Error β} {g : Nat → Except Error γ}
    (h : Carries T (f (room - 1)) (g (room - 1))) : Carries T (descend room >>= f) (descend room >>= g) := by
  unfold descend
  split
  · exact .of_error
  · exact h

theorem carries_list {decode : Nat → Draft → Except Error α}
    (h : Carries R (decode (room - 1) old) (decode (room - 1) new)) (before after : List Draft) :
    Carries (SameBut R before.length) (list decode room ((Gap.item before after).fill old))
      (list decode room ((Gap.item before after).fill new)) :=
  carries_descend (carries_mapM h before after)

/-- Dictionaries that are the same, or the same but for what is under a key. -/
def SameButAt (R : α → α → Prop) (k : String) (d d' : Dict String α) : Prop :=
  d' = d ∨ ∃ a b, d.get? k = some a ∧ R a b ∧ d' = d.insert k b

theorem carries_dict {decode : Nat → Draft → Except Error α}
    (h : Carries R (decode (room - 1) old) (decode (room - 1) new)) (before : List (Option String × Draft))
    (key : String) (after : List (Option String × Draft)) :
    Carries (SameButAt R key) (dict decode room ((Gap.value before key after).fill old))
      (dict decode room ((Gap.value before key after).fill new)) := by
  refine (carries_descend (carries_mapM (R := fun e e' => e.1 = key ∧ e'.1 = key ∧ R e.2 e'.2) ?_ before after)).map ?_
  · exact h.bind fun a b hab => .pure ⟨rfl, rfl, hab⟩
  · rintro _ _ ⟨front, ⟨_, a⟩, ⟨_, b⟩, behind, -, rfl, rfl, rfl, rfl, hab⟩
    rcases Dict.ofList_replace front behind _ a b with hsame | ⟨hget, hinsert⟩
    · exact .inl hsame
    · exact .inr ⟨a, b, hget, hab, hinsert⟩

/-! ## Records -/

section Records

variable {known : String → Bool} {take : σ → String → Draft → Except Error σ} {s s' : σ}

theorem recordMembers_append (before after : List (Option String × Draft)) :
    recordMembers known take s (before ++ after) =
      recordMembers known take s before >>= fun s => recordMembers known take s after := by
  induction before generalizing s with
  | nil => rfl
  | cons m before ih =>
    obtain ⟨_ | k, d⟩ := m
    · rfl
    · rw [List.cons_append, recordMembers, recordMembers]
      split
      · cases htake : take s k d with
        | error e => rfl
        | ok t => exact ih
      · cases hskip : d.skip with
        | error e => rfl
        | ok u => exact ih

/-- What is taken up by the one and by the other keeps them related. -/
theorem carries_recordMembers (hkeep : ∀ s s' k d, S s s' → Carries S (take s k d) (take s' k d)) (h : S s s')
    (members : List (Option String × Draft)) :
    Carries S (recordMembers known take s members) (recordMembers known take s' members) := by
  induction members generalizing s s' with
  | nil => exact .pure h
  | cons m rest ih =>
    obtain ⟨_ | k, d⟩ := m
    · exact .of_error
    · rw [recordMembers, recordMembers]
      split
      · exact (hkeep s s' k d h).bind fun t t' ht => ih ht
      · exact .bind_same _ fun _ => ih h

theorem recordItems_append (names : List String) (before after : List Draft) (h : before.length ≤ names.length) :
    recordItems take s names (before ++ after) =
      recordItems take s names before >>= fun s => recordItems take s (names.drop before.length) after := by
  induction before generalizing s names with
  | nil => simp [recordItems]; rfl
  | cons d before ih =>
    cases names with
    | nil => simp at h
    | cons k ks =>
      rw [List.cons_append, recordItems, recordItems]
      cases htake : take s k d with
      | error e => rfl
      | ok t => exact ih ks (by simpa using h)

theorem carries_recordItems (hkeep : ∀ s s' k d, S s s' → Carries S (take s k d) (take s' k d)) (h : S s s')
    (names : List String) (items : List Draft) :
    Carries S (recordItems take s names items) (recordItems take s' names items) := by
  induction items generalizing s s' names with
  | nil =>
    rw [recordItems, recordItems]
    exact .pure h
  | cons d rest ih =>
    cases names with
    | nil => exact .bind_same _ fun _ => .of_error
    | cons k ks => exact (hkeep s s' k d h).bind fun t t' ht => ih ht ks

end Records

/-- A gap in the place of a record's field, which is given by one of its names or by its index. -/
inductive Gap.IsField (names : List String) (index : Nat) : Gap → Prop
  | value {before after : List (Option String × Draft)} {key : String} (h : key ∈ names) :
    IsField names index (.value before key after)
  | item {before after : List Draft} (h : before.length = index) : IsField names index (.item before after)

/-- If a field is taken up whichever of two drafts it has, with states that are related, and what else is taken up
keeps them related, then the record is read whichever of the drafts its field has. -/
theorem carries_record {name : String} {fields aliases names : List String} {index : Nat}
    {take : Nat → σ → String → Draft → Except Error σ} {start : σ} {gap : Gap} (hgap : gap.IsField names index)
    (hnames : ∀ k ∈ names, k ∈ fields ∨ k ∈ aliases) (hindex : ∃ k ∈ names, fields[index]? = some k)
    (hfield : ∀ s, ∀ k ∈ names, Carries S (take (room - 1) s k old) (take (room - 1) s k new))
    (hkeep : ∀ s s' k d, S s s' → Carries S (take (room - 1) s k d) (take (room - 1) s' k d)) :
    Carries S (record name fields aliases take start room (gap.fill old))
      (record name fields aliases take start room (gap.fill new)) := by
  cases hgap with
  | @value before after key hkey =>
    refine carries_descend ?_
    rw [recordMembers_append, recordMembers_append]
    refine .bind_same _ fun s => ?_
    have hknown : (fields.contains key || aliases.contains key) = true := by simpa using hnames key hkey
    rw [recordMembers, recordMembers, if_pos hknown, if_pos hknown]
    exact (hfield s key hkey).bind fun t t' ht => carries_recordMembers hkeep ht after
  | @item before after hlength =>
    obtain ⟨key, hkey, hfields⟩ := hindex
    obtain ⟨hlt, hget⟩ := List.getElem?_eq_some_iff.mp hfields
    refine carries_descend ?_
    rw [recordItems_append _ _ _ (by omega), recordItems_append _ _ _ (by omega)]
    refine .bind_same _ fun s => ?_
    rw [hlength, List.drop_eq_getElem_cons hlt, hget, recordItems, recordItems]
    exact (hfield s key hkey).bind fun t t' ht => carries_recordItems hkeep ht _ after

end Json.Draft
end SiteProbe
