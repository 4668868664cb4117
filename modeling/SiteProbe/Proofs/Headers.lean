import SiteProbe.Page

/-!
# Header fields that are offered

Names are compared in small letters, so that looking a name up depends on no letter case (`sameName_toLower`). Of the
values that are offered under a name the first one stays, also if there was one before (`get?_offer`, `get?_offerAll`).
-/

namespace SiteProbe.Headers

theorem sameName_iff {a b : String} : sameName a b ↔ a.toLower = b.toLower := by
  simp [sameName]

theorem toLower_eq (s : String) : s.toLower = String.ofList (s.toList.map Char.toLower) := by
  rw [← String.toList_inj, String.toList_ofList]
  exact String.toList_map

/-- Names are compared letter by letter. -/
theorem sameName_eq_decide (a b : String) :
    sameName a b = decide (a.toList.map Char.toLower = b.toList.map Char.toLower) := by
  rw [Bool.eq_iff_iff, decide_eq_true_iff, sameName_iff, toLower_eq, toLower_eq, String.ofList_inj]

theorem toLower_toLower (c : Char) : c.toLower.toLower = c.toLower := by
  unfold Char.toLower
  split
  · rename_i h
    rw [dif_neg]
    intro hc
    have h1 : c.val.toNat ≤ 90 := h.2
    have h2 : (c.val + 32).toNat ≤ 90 := hc.2
    have h3 : 65 ≤ c.val.toNat := h.1
    rw [UInt32.toNat_add] at h2
    have h4 : UInt32.toNat 32 = 32 := rfl
    omega
  · rfl

/-- A name in small letters is the same name. -/
theorem sameName_toLower (a b : String) : sameName a.toLower b = sameName a b := by
  have h : a.toLower.toLower = a.toLower := by
    show (a.map Char.toLower).map Char.toLower = a.map Char.toLower
    rw [String.map_map]
    congr 1
    funext c
    exact toLower_toLower c
  unfold sameName
  rw [h]

/-- The value of a name behind more fields. -/
theorem get?_append (hs gs : Headers) (name : String) :
    get? (hs ++ gs) name = (hs.get? name).or (gs.get? name) := by
  unfold get?
  rw [List.find?_append, Option.map_or]

theorem get?_singleton (name value other : String) :
    get? [(name, value)] other = if sameName name other then some value else none := by
  unfold get?
  by_cases h : sameName name other <;> simp [h]

/-- A value that is offered counts if its name has none yet. -/
theorem get?_offer (hs : Headers) (name value other : String) :
    (hs.offer name value).1.get? other = (hs.get? other).or (get? [(name, value)] other) := by
  unfold offer
  split
  · rename_i hsome
    rw [get?_singleton]
    split
    · rename_i hname
      -- `hs` has a value under `name`, and it is the one under `other`
      have hsame : hs.get? other = hs.get? name := by
        unfold get?
        congr 2
        funext h
        rw [Bool.eq_iff_iff, sameName_iff, sameName_iff, sameName_iff.mp hname]
      obtain ⟨v, hv⟩ := Option.isSome_iff_exists.mp hsome
      rw [hsame, hv, Option.some_or]
    · rw [Option.or_none]
  · exact get?_append hs [(name, value)] other

theorem offerAll_cons (hs : Headers) (e : String × String) (rest : List (String × String)) :
    hs.offerAll (e :: rest) = (((hs.offer e.1 e.2).1.offerAll rest).1,
      ((hs.offer e.1 e.2).1.offerAll rest).2 + (hs.offer e.1 e.2).2.toNat) := rfl

/-- Of all values that are offered under a name the first one counts. -/
theorem get?_offerAll (hs : Headers) (es : List (String × String)) (name : String) :
    (hs.offerAll es).1.get? name = (hs.get? name).or (get? es name) := by
  induction es generalizing hs with
  | nil => simp [offerAll, get?]
  | cons e rest ih =>
    rw [offerAll_cons, ih, get?_offer, Option.or_assoc, ← get?_append, List.singleton_append]

end SiteProbe.Headers
