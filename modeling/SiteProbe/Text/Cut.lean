/-!
# Cutting text

A text is cut at the first place where a separator stands (`cut?`), or into the pieces between all places where a
separating character stands (`pieces`).
-/

namespace SiteProbe.Text

/-- What stands before the first separator, and what stands behind it. -/
def cut? (separator : List Char) : List Char → Option (List Char × List Char)
  | [] => if separator.isEmpty then some ([], []) else none
  | c :: rest =>
    if separator.isPrefixOf (c :: rest) then some ([], (c :: rest).drop separator.length)
    else (cut? separator rest).map fun (before, behind) => (c :: before, behind)

/-- The pieces between the places where a separating character stands; there is always one. -/
def pieces (separates : Char → Bool) : List Char → List (List Char)
  | [] => [[]]
  | c :: rest =>
    if separates c then [] :: pieces separates rest
    else
      match pieces separates rest with
      | [] => [[c]]
      | p :: ps => (c :: p) :: ps

/-- Whether a text stands somewhere in another one. -/
def occursIn (needle text : List Char) : Bool := (cut? needle text).isSome

/-- A cut puts nothing in and takes nothing but the separator out. -/
theorem eq_of_cut?_eq_some {separator cs before behind : List Char} (h : cut? separator cs = some (before, behind)) :
    cs = before ++ separator ++ behind := by
  induction cs generalizing before with
  | nil =>
    simp only [cut?] at h
    split at h
    · rename_i hs
      obtain ⟨rfl, rfl⟩ := Prod.mk.inj (Option.some.inj h)
      simpa using hs
    · cases h
  | cons c rest ih =>
    simp only [cut?] at h
    split at h
    · rename_i hp
      obtain ⟨rfl, rfl⟩ := Prod.mk.inj (Option.some.inj h)
      simpa using (List.prefix_iff_eq_append.mp (List.isPrefixOf_iff_prefix.mp hp)).symm
    · obtain ⟨⟨p, q⟩, hp, heq⟩ := Option.map_eq_some_iff.mp h
      obtain ⟨rfl, rfl⟩ := Prod.mk.inj heq
      simp [ih hp]

end SiteProbe.Text
