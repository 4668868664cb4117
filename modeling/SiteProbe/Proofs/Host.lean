import SiteProbe.Proofs.Readings
import SiteProbe.Web.Fetch

/-!
# Hosts of URLs of the web

The schemes of the web always have a host: a text that is read as a URL of the web proper has one, and its text is not
empty (`hostText?_of_parse`).
-/

namespace SiteProbe.Url

theorem Ipv4.render_ne_empty (a : Nat) : Ipv4.render a ≠ "" := by
  simp [Ipv4.render]

theorem Ipv6.render_ne_empty (ps : List Nat) : Ipv6.render ps ≠ "" := by
  unfold Ipv6.render
  dsimp only
  split <;> simp

/-- A host of a scheme of the web has a text. -/
theorem text_ne_empty_of_webHost {cs : List Char} {h : Host} (hh : webHost cs = .ok h) : h.text ≠ "" := by
  unfold webHost at hh
  simp only [bind, Except.bind, pure, Except.pure, throw, throwThe, MonadExceptOf.throw] at hh
  split at hh
  · split at hh
    · cases hh
    · split at hh
      · cases hh
        exact Ipv6.render_ne_empty _
      · cases hh
  · split at hh
    · rename_i domain _
      split at hh
      · cases hh
      · rename_i hne
        split at hh
        · split at hh
          · cases hh
            exact Ipv4.render_ne_empty _
          · cases hh
        · cases hh
          simpa [Host.text] using hne
    · cases hh

/-- What stands before the path has a host of the web if the scheme is one of the web. -/
theorem webHost_of_readAuthority {scheme : String} {cs rest : List Char} {a : Authority} (hs : isWeb scheme = true)
    (h : readAuthority scheme cs = .ok (a, rest)) : ∃ hostChars, webHost hostChars = .ok a.host := by
  unfold readAuthority at h
  simp only [bind, Except.bind, pure, Except.pure, throw, throwThe, MonadExceptOf.throw, hs, if_true] at h
  split at h
  · cases h
  · split at h
    · cases h
    · split at h
      · cases h
      · rename_i host hhost
        split at h
        · cases h
        · split at h
          · cases h
          · split at h
            · cases h
            · cases h
              exact ⟨_, hhost⟩

/-- A URL of the web has a host with a text. -/
theorem hostText?_of_readHosted {scheme : String} {cs : List Char} {u : Url} (hs : isWeb scheme = true)
    (h : readHosted scheme cs = .ok u) : ∃ text, u.hostText? = some text := by
  unfold readHosted at h
  simp only [bind, Except.bind, pure, Except.pure] at h
  split at h
  · cases h
  · rename_i v hv
    obtain ⟨hostChars, hhost⟩ := webHost_of_readAuthority hs hv
    cases h
    exact ⟨v.1.host.text, by simp [hostText?, text_ne_empty_of_webHost hhost]⟩

theorem scheme_of_readHosted {scheme : String} {cs : List Char} {u : Url} (h : readHosted scheme cs = .ok u) :
    u.scheme = scheme := by
  unfold readHosted at h
  simp only [bind, Except.bind, pure, Except.pure] at h
  split at h
  · cases h
  · cases h
    rfl

theorem scheme_of_readFile {cs : List Char} {u : Url} (h : readFile cs = .ok u) : u.scheme = "file" := by
  unfold readFile at h
  simp only [bind, Except.bind, pure, Except.pure] at h
  split at h
  · cases h
    rfl
  · split at h
    · cases h
    · cases h
      rfl

theorem isWeb_of_isHttp {u : Url} (h : u.isHttp = true) : isWeb u.scheme = true := by
  simp only [isHttp, Bool.or_eq_true, decide_eq_true_eq] at h
  rcases h with h | h <;> rw [h] <;> rfl

theorem scheme_of_readScheme {scheme : String} {cs : List Char} {u : Url} (h : readScheme none scheme cs = .ok u) :
    u.scheme = scheme := by
  unfold readScheme at h
  split at h
  · rename_i hfile
    rw [hfile]
    split at h <;> exact scheme_of_readFile h
  · split at h
    · exact scheme_of_readHosted h
    · split at h
      · exact scheme_of_readHosted h
      · cases h
        rfl

/-- A URL of the web proper has its host behind its scheme and slashes. -/
theorem readScheme_eq_readHosted {u : Url} (hu : u.isHttp = true) (cs : List Char) :
    readScheme none u.scheme cs = readHosted u.scheme (cs.drop (slashes cs)) := by
  have hfile : u.scheme ≠ "file" := by
    intro hfile
    simp [isHttp, hfile] at hu
  rw [readScheme, if_neg hfile, if_pos (isWeb_of_isHttp hu)]

/-- A text that is read as a URL of the web proper has a host with a text. -/
theorem hostText?_of_parse {input : String} {u : Url} (h : parse input = .ok u) (hu : u.isHttp = true) :
    ∃ text, u.hostText? = some text := by
  cases hscheme : readScheme? (clean input) with
  | none => simp [parse, read, hscheme] at h
  | some found =>
    obtain ⟨scheme, rest⟩ := found
    simp only [parse, read, hscheme] at h
    obtain rfl := scheme_of_readScheme h
    rw [readScheme_eq_readHosted hu] at h
    exact hostText?_of_readHosted (isWeb_of_isHttp hu) h

/-- The root of a site. -/
def sampleRoot : Url := ⟨"http", "", none, some (.domain "a.test"), none, .segments [""], none, none⟩

theorem parse_sampleRoot : parse "http://a.test/" = .ok sampleRoot := eq_ok_of_toOption (by decide +kernel)

/-- Two URLs have one host if both have one and the texts differ in letter case only. -/
theorem sameHost_iff {u v : Url} :
    u.sameHost v ↔ ∃ a b, u.hostText? = some a ∧ v.hostText? = some b ∧ a.toLower = b.toLower := by
  unfold sameHost
  cases u.hostText? <;> cases v.hostText? <;> simp

theorem isHttp_of_isSendable {u : Url} (h : u.isSendable = true) : u.isHttp = true := by
  unfold isSendable at h
  simp only [Bool.and_eq_true] at h
  exact h.1.1

end SiteProbe.Url
