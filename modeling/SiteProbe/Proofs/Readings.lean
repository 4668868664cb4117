import SiteProbe.Json.Decode
import SiteProbe.Proofs.Entries

/-!
# What decoders give

If whatever a decoder gives has a property, then so has each part of what the decoders of arrays and objects around it
give (`Draft.gives_list`, `Draft.gives_dict`); and a record keeps what each of its fields keeps (`Draft.gives_record`).
-/

namespace SiteProbe

/-! ## Readings that succeed -/

theorem eq_ok_of_toOption {ε α : Type} {x : Except ε α} {a : α} (h : x.toOption = some a) : x = .ok a := by
  cases x with
  | error e => cases h
  | ok b => exact congrArg Except.ok (Option.some.inj h)

/-- Whatever a reading gives has a property. -/
def Gives {ε α : Type} (P : α → Prop) (x : Except ε α) : Prop := ∀ a, x = .ok a → P a

namespace Gives

variable {ε α β : Type} {P : α → Prop} {Q : β → Prop} {x : Except ε α}

theorem pure {a : α} (h : P a) : Gives P (.ok a : Except ε α) := by
  rintro _ ⟨⟩
  exact h

theorem of_error {e : ε} : Gives P (.error e) := nofun

theorem bind {f : α → Except ε β} (h : Gives P x) (hnext : ∀ a, P a → Gives Q (f a)) : Gives Q (x >>= f) := by
  cases x with
  | error e => exact of_error
  | ok a => exact hnext a (h a rfl)

theorem map {f : α → β} (h : Gives P x) (hf : ∀ a, P a → Q (f a)) : Gives Q (f <$> x) := by
  cases x with
  | error e => exact of_error
  | ok a => exact pure (hf a (h a rfl))

theorem mapError {ε' : Type} {f : ε → ε'} (h : Gives P x) : Gives P (x.mapError f) := by
  cases x with
  | error e => exact of_error
  | ok a => exact pure (h a rfl)

/-- Something is given by whatever reading. -/
theorem any (x : Except ε α) : Gives (fun _ => True) x := fun _ _ => trivial

theorem mono {P' : α → Prop} (h : Gives P x) (hmono : ∀ a, P a → P' a) : Gives P' x :=
  fun a ha => hmono a (h a ha)

end Gives

namespace Json

/-- What lies deeper has less room, and is read only if there is any. -/
theorem gives_descend {α : Type} {P : α → Prop} {room : Nat} {f : Nat → Except Error α}
    (h : 1 < room → Gives P (f (room - 1))) : Gives P (descend room >>= f) := by
  unfold descend
  split
  · exact .of_error
  · rename_i hroom
    exact h (Nat.lt_of_not_le hroom)

namespace Draft

variable {α σ : Type} {P : α → Prop} {room : Nat}

theorem gives_mismatch (expected : String) (d : Draft) : Gives P (d.mismatch expected) := by
  unfold mismatch
  split <;> exact .of_error

theorem gives_mapM {δ : Type} {f : δ → Except Error α} {ds : List δ} (h : ∀ d ∈ ds, Gives P (f d)) :
    Gives (fun as => ∀ a ∈ as, P a) (ds.mapM f) := by
  induction ds with
  | nil => exact .pure nofun
  | cons d rest ih =>
    obtain ⟨hd, hrest⟩ := List.forall_mem_cons.mp h
    rw [List.mapM_cons]
    exact hd.bind fun a ha => (ih hrest).bind fun as has => .pure (List.forall_mem_cons.mpr ⟨ha, has⟩)

/-! ## Arrays and objects -/

theorem gives_list {decode : Nat → Draft → Except Error α} (h : ∀ d, Gives P (decode (room - 1) d)) (d : Draft) :
    Gives (fun as => ∀ a ∈ as, P a) (list decode room d) := by
  unfold list
  split
  · exact gives_descend fun _ => gives_mapM fun d _ => h d
  · exact gives_mismatch _ _

theorem gives_entries {decode : Nat → Draft → Except Error α} (h : ∀ d, Gives P (decode (room - 1) d)) (d : Draft) :
    Gives (fun es => ∀ e ∈ es, P e.2) (entries decode room d) := by
  unfold entries
  split
  · refine gives_descend fun _ => gives_mapM fun m _ => ?_
    obtain ⟨_ | k, d⟩ := m
    · exact .of_error
    · exact (h d).bind fun a ha => .pure ha
  · exact gives_mismatch _ _

theorem gives_dict {decode : Nat → Draft → Except Error α} (h : ∀ d, Gives P (decode (room - 1) d)) (d : Draft) :
    Gives (fun dict => ∀ k a, dict.get? k = some a → P a) (dict decode room d) := by
  refine (gives_entries h d).map fun es hes k a ha => ?_
  rw [Dict.get?_ofList] at ha
  exact hes (k, a) (Dict.mem_of_latest? ha)

/-! ## Records -/

section Records

variable {I : σ → Prop} {take : σ → String → Draft → Except Error σ}

theorem gives_recordMembers (hkeep : ∀ s k d, I s → Gives I (take s k d)) {known : String → Bool} {s : σ} (hs : I s)
    (members : List (Option String × Draft)) : Gives I (recordMembers known take s members) := by
  induction members generalizing s with
  | nil => exact .pure hs
  | cons m rest ih =>
    obtain ⟨_ | k, d⟩ := m
    · exact .of_error
    · rw [recordMembers]
      split
      · exact (hkeep s k d hs).bind fun t ht => ih ht
      · exact (Gives.any d.skip).bind fun _ _ => ih hs

theorem gives_recordItems (hkeep : ∀ s k d, I s → Gives I (take s k d)) {s : σ} (hs : I s) (names : List String)
    (items : List Draft) : Gives I (recordItems take s names items) := by
  induction items generalizing s names with
  | nil =>
    rw [recordItems]
    exact .pure hs
  | cons d rest ih =>
    cases names with
    | nil => exact (Gives.any d.skip).bind fun _ _ => .of_error
    | cons k ks => exact (hkeep s k d hs).bind fun t ht => ih ht ks

end Records

/-- What holds at the start of a record and is kept by its fields holds at its end. -/
theorem gives_record {I : σ → Prop} {take : Nat → σ → String → Draft → Except Error σ} {start : σ} (hstart : I start)
    (hkeep : ∀ s k d, I s → Gives I (take (room - 1) s k d)) (name : String) (fields aliases : List String)
    (d : Draft) : Gives I (record name fields aliases take start room d) := by
  unfold record
  split
  · exact gives_descend fun _ => gives_recordMembers hkeep hstart _
  · exact gives_descend fun _ => gives_recordItems hkeep hstart _ _
  · exact gives_mismatch _ _

theorem gives_once {x : Except Error α} (h : Gives P x) (old : Option α) (name : String) :
    Gives (fun new => ∀ a ∈ new, P a) (once old name x) := by
  cases old with
  | some a => exact .of_error
  | none =>
    refine h.map fun a ha => ?_
    rintro _ ⟨⟩
    exact ha

end Draft
end Json
end SiteProbe
