import Mathlib.Data.List.DropRight
import SiteProbe.Proofs.Host

/-!
# Reading URLs of the web in parts

A text that is read as a URL of the web proper is a head with the scheme, what names the host, and what stands behind
it (`exists_parts_of_parse`). A text with the same head is read as a URL with the same scheme (`Opens`), and if it names
the host in the same way, the two URLs differ behind the host alone (`readHosted_append_iff`).
-/

namespace SiteProbe.Url

theorem takeWhile_of_head? {p : Char → Bool} {cs : List Char} (h : ∀ c ∈ cs.head?, p c = false) :
    cs.takeWhile p = [] ∧ cs.dropWhile p = cs := by
  cases cs with
  | nil => exact ⟨rfl, rfl⟩
  | cons c rest =>
    have hc : ¬p c = true := by simp [h c rfl]
    exact ⟨List.takeWhile_cons_of_neg hc, List.dropWhile_cons_of_neg hc⟩

theorem head?_dropWhile (p : Char → Bool) (cs : List Char) : ∀ c ∈ (cs.dropWhile p).head?, p c = false := by
  intro c hc
  have hnot := List.head?_dropWhile_not p cs
  rwa [hc] at hnot

/-! ## Blanks -/

/-- A blank or control character, which counts neither at the start nor at the end of a text. -/
def isOuter (c : Char) : Bool := c.toNat ≤ 0x20

/-- A tab or a line break, which does not count anywhere. -/
def isBreak (c : Char) : Bool := c = '\t' || c = '\n' || c = '\r'

/-- What counts of a text that goes on. -/
def begun (cs : List Char) : List Char := (cs.dropWhile isOuter).filter (!isBreak ·)

/-- What would count at the end of a text if it went on. -/
def trailing (input : String) : List Char :=
  ((input.toList.dropWhile isOuter).rtakeWhile isOuter).filter (!isBreak ·)

theorem clean_eq (input : String) :
    clean input = ((input.toList.dropWhile isOuter).rdropWhile isOuter).filter (!isBreak ·) := by
  refine List.filter_congr fun c _ => ?_
  simp [isBreak, Bool.and_assoc]

theorem begun_eq (input : String) : begun input.toList = clean input ++ trailing input := by
  rw [clean_eq, trailing, ← List.filter_append, List.rdropWhile_append_rtakeWhile]
  rfl

theorem mem_trailing {input : String} {c : Char} (h : c ∈ trailing input) : isOuter c ∧ isBreak c = false := by
  obtain ⟨hc, hbreak⟩ := List.mem_filter.mp h
  exact ⟨List.mem_rtakeWhile_imp hc, by simpa using hbreak⟩

/-- What counts of a text whose end counts anywhere. -/
theorem clean_of_append {input : String} {front behind : List Char} (h : input.toList = front ++ behind)
    (hbreak : ∀ c ∈ behind, isBreak c = false) (hhead : ∃ c ∈ behind.head?, isOuter c = false)
    (hlast : ∃ c ∈ behind.getLast?, isOuter c = false) : clean input = begun front ++ behind := by
  obtain ⟨c, hc, hcouter⟩ := hhead
  obtain ⟨d, hd, hdouter⟩ := hlast
  have hdrop : (front ++ behind).dropWhile isOuter = front.dropWhile isOuter ++ behind := by
    rw [List.dropWhile_append]
    split
    · rename_i hempty
      rw [List.isEmpty_iff.mp hempty, List.nil_append]
      exact (takeWhile_of_head? fun e he => Option.mem_unique hc he ▸ hcouter).2
    · rfl
  have hend : (front.dropWhile isOuter ++ behind).rdropWhile isOuter = front.dropWhile isOuter ++ behind := by
    refine List.rdropWhile_eq_self_iff.mpr fun hne => ?_
    have hlast := List.getLast?_eq_some_getLast hne
    rw [List.getLast?_append, hd, Option.some_or] at hlast
    rw [← Option.some.inj hlast, hdouter]
    exact Bool.false_ne_true
  have hkeep : behind.filter (!isBreak ·) = behind := List.filter_eq_self.mpr fun e he => by simp [hbreak e he]
  rw [clean_eq, h, hdrop, hend, List.filter_append, hkeep]
  rfl

/-! ## Schemes -/

theorem readSchemeTail?_eq_some {cs scheme rest : List Char} (h : readSchemeTail? cs = some (scheme, rest)) :
    ∃ front, cs = front ++ ':' :: rest ∧
      ∀ rest', readSchemeTail? (front ++ ':' :: rest') = some (scheme, rest') := by
  induction cs generalizing scheme with
  | nil => cases h
  | cons c cs ih =>
    unfold readSchemeTail? at h
    split at h
    · rename_i hc
      cases h
      exact ⟨[], by rw [hc]; rfl, fun rest' => rfl⟩
    · rename_i hc
      split at h
      · rename_i hletter
        obtain ⟨⟨tail, rest₀⟩, htail, heq⟩ := Option.map_eq_some_iff.mp h
        cases heq
        obtain ⟨front, hcs, hread⟩ := ih htail
        refine ⟨c :: front, by rw [hcs]; rfl, fun rest' => ?_⟩
        rw [List.cons_append, readSchemeTail?, if_neg hc, if_pos hletter, hread]
        rfl
      · cases h

/-- What stands in front of what is behind the colon of a scheme. -/
theorem readScheme?_eq_some {cs rest : List Char} {scheme : String} (h : readScheme? cs = some (scheme, rest)) :
    ∃ front, cs = front ++ rest ∧ ∀ rest', readScheme? (front ++ rest') = some (scheme, rest') := by
  unfold readScheme? at h
  split at h
  · cases h
  · rename_i c cs
    split at h
    · rename_i hc
      obtain ⟨⟨letters, rest₀⟩, htail, heq⟩ := Option.map_eq_some_iff.mp h
      cases heq
      obtain ⟨front, hcs, hread⟩ := readSchemeTail?_eq_some htail
      cases front with
      | nil =>
        obtain rfl := (List.cons.inj hcs).1
        exact absurd hc (by decide)
      | cons d front =>
        obtain rfl := (List.cons.inj hcs).1
        refine ⟨c :: front ++ [':'], by rw [hcs]; simp, fun rest' => ?_⟩
        have hread' := hread rest'
        rw [List.append_assoc, List.cons_append]
        rw [List.cons_append] at hread'
        rw [readScheme?, if_pos hc, List.singleton_append, hread']
        rfl
    · cases h

/-- What stands behind the slashes in front of a text. -/
theorem exists_drop_slashes (cs : List Char) : ∃ front, cs = front ++ cs.drop (slashes cs) ∧
    ∀ rest, (∀ c ∈ rest.head?, c ≠ '/' ∧ c ≠ '\\') → (front ++ rest).drop (slashes (front ++ rest)) = rest := by
  let either (c : Char) : Bool := c = '/' || c = '\\'
  have hdrop (front rest : List Char) (hfront : ∀ c ∈ front, either c) (hrest : ∀ c ∈ rest.head?, either c = false) :
      (front ++ rest).drop (slashes (front ++ rest)) = rest := by
    have hslashes : slashes (front ++ rest) = front.length := by
      show ((front ++ rest).takeWhile either).length = _
      rw [List.takeWhile_append_of_pos hfront, (takeWhile_of_head? hrest).1, List.append_nil]
    rw [hslashes, List.drop_left]
  have hsplit := List.takeWhile_append_dropWhile (p := either) (l := cs)
  have hfront : ∀ c ∈ cs.takeWhile either, either c := fun c hc => List.mem_takeWhile_imp hc
  have hcs := hdrop _ _ hfront (head?_dropWhile either cs)
  rw [hsplit] at hcs
  refine ⟨cs.takeWhile either, by rw [hcs, hsplit], fun rest hrest => hdrop _ _ hfront fun c hc => ?_⟩
  simpa [either] using hrest c hc

/-- A text that is read as a URL of the web proper has a host behind its scheme and slashes, and so has a text with the
same scheme and slashes. -/
theorem exists_front_of_parse {input : String} {u : Url} (h : parse input = .ok u) (hu : u.isHttp) :
    ∃ front behind, clean input = front ++ behind ∧ readHosted u.scheme behind = .ok u ∧
      ∀ input' behind', clean input' = front ++ behind' → (∀ c ∈ behind'.head?, c ≠ '/' ∧ c ≠ '\\') →
        parse input' = readHosted u.scheme behind' := by
  cases hscheme : readScheme? (clean input) with
  | none => simp [parse, read, hscheme] at h
  | some found =>
    obtain ⟨scheme, rest⟩ := found
    obtain ⟨name, hname, hread⟩ := readScheme?_eq_some hscheme
    obtain ⟨front, hfront, hdrop⟩ := exists_drop_slashes rest
    simp only [parse, read, hscheme] at h
    obtain rfl := scheme_of_readScheme h
    rw [readScheme_eq_readHosted hu] at h
    refine ⟨name ++ front, rest.drop (slashes rest), by rw [hname, List.append_assoc, ← hfront], h, ?_⟩
    intro input' behind' hinput' hhead'
    have hscheme' : readScheme? (clean input') = some (u.scheme, front ++ behind') := by
      rw [hinput', List.append_assoc, hread]
    simp only [parse, read, hscheme']
    rw [readScheme_eq_readHosted hu, hdrop behind' hhead']

/-! ## Hosts -/

theorem takeHost_append (inside : Bool) (cs : List Char) : (takeHost inside cs).1 ++ (takeHost inside cs).2 = cs := by
  induction cs generalizing inside with
  | nil => rfl
  | cons c rest ih =>
    unfold takeHost
    split
    · rfl
    · exact congrArg (c :: ·) (ih _)

/-- The user of what names a host. -/
def userOf (front : List Char) : List Char := ((cutUser? front).getD ([], front)).1

/-- What names a host, without the user. -/
def placeOf (front : List Char) : List Char := ((cutUser? front).getD ([], front)).2

theorem placeOf_subset (front : List Char) : placeOf front ⊆ front := by
  unfold placeOf cutUser?
  split
  · intro c hc
    exact List.mem_reverse.mp (List.takeWhile_subset _ (List.mem_reverse.mp hc))
  · exact List.Subset.refl front

/-- What names a host, and the parts of it. -/
structure Names (scheme : String) (front : List Char) (a : Authority) : Prop where
  nonempty : (takeHost false (placeOf front)).1 ≠ []
  host : webHost (takeHost false (placeOf front)).1 = .ok a.host
  port : readPort scheme (takeHost false (placeOf front)).2 = .ok (a.port, [])
  user : readUser (userOf front) = (a.username, a.password)
  named : ¬(a.host = .domain "" ∧ (a.username ≠ "" ∨ a.password.isSome))

theorem left_of_readPort {scheme : String} {cs left : List Char} {port : Option Nat}
    (h : readPort scheme cs = .ok (port, left)) : left = (cs.drop 1).dropWhile (· ≠ '\\') := by
  unfold readPort at h
  simp only [bind, Except.bind, pure, Except.pure, throw, throwThe, MonadExceptOf.throw] at h
  split at h
  · cases h
  · split at h
    · cases h
      rfl
    · split at h
      · cases h
      · cases h
        rfl

/-- A port that is read to its end has digits only. -/
theorem isDigit_of_readPort {scheme : String} {cs : List Char} {port : Option Nat}
    (h : readPort scheme cs = .ok (port, [])) : ∀ c ∈ cs.drop 1, c.isDigit := by
  have hall : (cs.drop 1).takeWhile (· ≠ '\\') = cs.drop 1 :=
    List.takeWhile_eq_self_iff.mpr (List.dropWhile_eq_nil_iff.mp (left_of_readPort h).symm)
  unfold readPort at h
  simp only [bind, Except.bind, pure, Except.pure, throw, throwThe, MonadExceptOf.throw, hall] at h
  split at h
  · cases h
  · rename_i hdigits
    simpa using hdigits

variable {scheme : String} {front rest : List Char}

theorem readPort_placeOf (hweb : isWeb scheme) (hfront : ∀ c ∈ front, endsAuthority scheme c = false)
    {port : Option Nat} {left : List Char}
    (h : readPort scheme (takeHost false (placeOf front)).2 = .ok (port, left)) : left = [] := by
  rw [left_of_readPort h, List.dropWhile_eq_nil_iff]
  intro c hc
  have hplace : c ∈ placeOf front := by
    rw [← takeHost_append false (placeOf front)]
    exact List.mem_append_right _ (List.mem_of_mem_drop hc)
  have hends := hfront c (placeOf_subset front hplace)
  refine decide_eq_true ?_
  rintro rfl
  simp [endsAuthority, isSlash, hweb] at hends

/-- What names a host ends where the path starts. -/
theorem readAuthority_append_iff (hweb : isWeb scheme) (hfront : ∀ c ∈ front, endsAuthority scheme c = false)
    (hrest : ∀ c ∈ rest.head?, endsAuthority scheme c) {a : Authority} {left : List Char} :
    readAuthority scheme (front ++ rest) = .ok (a, left) ↔ Names scheme front a ∧ left = rest := by
  have hends : ∀ c ∈ front, !endsAuthority scheme c := fun c hc => by simp [hfront c hc]
  have hstop : ∀ c ∈ rest.head?, (!endsAuthority scheme c) = false := fun c hc => by simp [hrest c hc]
  obtain ⟨htake, hdrop⟩ := takeWhile_of_head? hstop
  unfold readAuthority
  rw [List.takeWhile_append_of_pos hends, List.dropWhile_append_of_pos hends, htake, hdrop, List.append_nil]
  have hcut : (cutUser? front).getD ([], front) = (userOf front, placeOf front) := rfl
  simp only [bind, Except.bind, pure, Except.pure, throw, throwThe, MonadExceptOf.throw, hweb, if_true, Bool.true_and,
    hcut]
  constructor
  · intro h
    split at h
    · cases h
    · split at h
      · cases h
      · rename_i hempty
        split at h
        · cases h
        · rename_i host hhost
          split at h
          · cases h
          · split at h
            · cases h
            · rename_i port hport
              split at h
              · cases h
              · rename_i hnamed
                cases h
                have hleft := readPort_placeOf hweb hfront hport
                exact ⟨⟨by simpa using hempty, hhost, hleft ▸ hport, rfl, by simpa using hnamed⟩, by rw [hleft]; rfl⟩
  · rintro ⟨h, rfl⟩
    have hat : front ≠ ['@'] := by
      rintro rfl
      exact h.nonempty rfl
    have hempty := h.nonempty
    have hnamed := h.named
    rw [if_neg (by simp [hat]), if_neg (by simpa using hempty), h.host]
    simp only [h.port, h.user]
    rw [if_neg (by simp [hempty]), if_neg (by simpa using hnamed)]
    rfl

/-- The URL of a host, and of what stands behind it. -/
def hosted (scheme : String) (a : Authority) (rest : List Char) : Url where
  scheme := scheme
  username := a.username
  password := a.password
  host := some a.host
  port := a.port
  path := readPathAfterHost scheme (cutPath rest).1
  query := (readEnd scheme (cutPath rest).2).1
  fragment := (readEnd scheme (cutPath rest).2).2

theorem readHosted_append_iff (hweb : isWeb scheme) (hfront : ∀ c ∈ front, endsAuthority scheme c = false)
    (hrest : ∀ c ∈ rest.head?, endsAuthority scheme c) {u : Url} :
    readHosted scheme (front ++ rest) = .ok u ↔ ∃ a, Names scheme front a ∧ u = hosted scheme a rest := by
  unfold readHosted
  simp only [bind, Except.bind, pure, Except.pure]
  constructor
  · intro h
    split at h
    · cases h
    · rename_i v hv
      obtain ⟨a, left⟩ := v
      obtain ⟨hnames, rfl⟩ := (readAuthority_append_iff hweb hfront hrest).mp hv
      cases h
      exact ⟨a, hnames, rfl⟩
  · rintro ⟨a, hnames, rfl⟩
    rw [(readAuthority_append_iff hweb hfront hrest).mpr ⟨hnames, rfl⟩]
    rfl

theorem Names.ne_nil {a : Authority} (h : Names scheme front a) : front ≠ [] := by
  rintro rfl
  exact h.nonempty rfl

/-- What names the host of a URL, and what stands behind it. -/
structure Parts (u : Url) (front rest : List Char) (a : Authority) : Prop where
  unended : ∀ c ∈ front, endsAuthority u.scheme c = false
  ended : ∀ c ∈ rest.head?, endsAuthority u.scheme c
  names : Names u.scheme front a
  eq : u = hosted u.scheme a rest

/-- Texts with this head are URLs of the scheme, as what names the host in them and what stands behind it say. -/
def Opens (scheme : String) (head : List Char) : Prop :=
  ∀ input front rest, clean input = head ++ (front ++ rest) → front ≠ [] →
    (∀ c ∈ front, endsAuthority scheme c = false) → (∀ c ∈ rest.head?, endsAuthority scheme c) →
      ∀ u, parse input = .ok u ↔ ∃ a, Names scheme front a ∧ u = hosted scheme a rest

theorem ne_slash_of_not_endsAuthority (hweb : isWeb scheme) {c : Char} (hc : endsAuthority scheme c = false) :
    c ≠ '/' ∧ c ≠ '\\' := by
  constructor <;> rintro rfl <;> simp [endsAuthority, isSlash, hweb] at hc

/-- A text that is read as a URL of the web proper has these parts behind a head with its scheme. -/
theorem exists_parts_of_parse {input : String} {u : Url} (h : parse input = .ok u) (hu : u.isHttp) :
    ∃ head front rest a, clean input = head ++ (front ++ rest) ∧ Opens u.scheme head ∧ Parts u front rest a := by
  obtain ⟨head, behind, hclean, hread, hother⟩ := exists_front_of_parse h hu
  have hweb := isWeb_of_isHttp hu
  let goesOn (c : Char) : Bool := !endsAuthority u.scheme c
  have hsplit := List.takeWhile_append_dropWhile (p := goesOn) (l := behind)
  have hfront : ∀ c ∈ behind.takeWhile goesOn, endsAuthority u.scheme c = false := by
    intro c hc
    simpa [goesOn] using List.mem_takeWhile_imp hc
  have hrest : ∀ c ∈ (behind.dropWhile goesOn).head?, endsAuthority u.scheme c := by
    intro c hc
    simpa [goesOn] using head?_dropWhile goesOn behind c hc
  rw [← hsplit, readHosted_append_iff hweb hfront hrest] at hread
  obtain ⟨a, hnames, heq⟩ := hread
  refine ⟨head, _, _, a, by rw [hclean, hsplit], ?_, ⟨hfront, hrest, hnames, heq⟩⟩
  intro input' front' rest' hclean' hne hfront' hrest' v
  rw [hother input' _ hclean' ?_, readHosted_append_iff hweb hfront' hrest']
  intro c hc
  rw [List.head?_append_of_ne_nil _ hne] at hc
  exact ne_slash_of_not_endsAuthority hweb (hfront' c (List.mem_of_head? hc))

end SiteProbe.Url
