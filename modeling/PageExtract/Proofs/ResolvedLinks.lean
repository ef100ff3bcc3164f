import PageExtract.Page
import PageExtract.Proofs.ReadUrls

/-!
Links made absolute. What a link resolves to is read on its own as the URL that the link stands for
on its page, if it doesn't name the host of the page or is absolute to begin with. A link that names
the host is kept as it is, and one without a scheme isn't absolute then.
-/

set_option autoImplicit false

namespace PageExtract

open Url

namespace Url

/-- The link is absolute: it has a scheme, with two slashes after it if that is the scheme of the
base, which makes the link relative otherwise. -/
def isAbsolute (base : Url) (link : List Char) : Bool :=
  match scheme? (cleaned link) with
  | none => false
  | some (scheme, rest) =>
    scheme != base.scheme || 2 ≤ (rest.takeWhile fun c => c == '/' || c == '\\').length

/-- An absolute link is read without the base as it is with it. -/
theorem readWith_of_isAbsolute {base : Url} (server : kindOf base.scheme = .server) {link : List Char}
    (absolute : isAbsolute base link = true) : readWith none link = readWith (some base) link := by
  have no_file : (base.scheme == "file") = false := by
    rw [beq_eq_false_iff_ne]
    intro same
    rw [same] at server
    exact absurd server (by decide)
  unfold isAbsolute at absolute
  split at absolute
  · cases absolute
  · rename_i scheme rest found
    have apart : ¬((rest.takeWhile fun c => c == '/' || c == '\\').length < 2 ∧
        base.scheme = scheme) := by
      rintro ⟨few, same⟩
      simp only [same, bne_self_eq_false, Bool.false_or, decide_eq_true_eq] at absolute
      omega
    simp only [readWith, found, afterScheme, Option.filter_none, Option.filter_some, no_file,
      Bool.false_eq_true, ↓reduceIte]
    rw [if_neg apart]

theorem read_of_no_scheme {link : String} (bare : scheme? (cleaned link.toList) = none) :
    Url.read link = .error .relativeWithoutBase := by
  simp only [Url.read, readWith, bare]

end Url

namespace Page

variable {p : Page} {url href : String} {u : Url}

theorem resolve_of_namesHost (named : p.namesHost (Text.trimmed href).toList = true) :
    p.resolve href = Text.trimmed href := by
  simp only [resolve, named, ↓reduceIte]

theorem resolve_of_join (unnamed : p.namesHost (Text.trimmed href).toList = false)
    (joined : p.origin.join (Text.trimmed href) = .ok u) : p.resolve href = u.text := by
  simp only [resolve, unnamed, joined, Bool.false_eq_true, ↓reduceIte]

/-- The origin of a page is itself a URL that was read on its own. -/
theorem read_origin (page : Page.read url = .ok p) :
    ∃ text, readWith none text = .ok p.origin := by
  simp only [Page.read] at page
  split at page
  · rename_i u read
    cases page
    simp only [ofUrl, originOf]
    split
    · exact ⟨_, read⟩
    · rename_i origin _
      split
      · rename_i o same
        exact ⟨origin, same⟩
      · exact ⟨_, read⟩
  · cases page

theorem isBase_origin (page : Page.read url = .ok p)
    (web : p.origin.scheme = "http" ∨ p.origin.scheme = "https") : IsBase p.origin := by
  obtain ⟨text, read⟩ := read_origin page
  refine ⟨readWith_written (fun b none_given => by cases none_given) read, ?_⟩
  rcases web with http | https
  · rw [http]
    rfl
  · rw [https]
    rfl

/-- A link without a scheme that names the host is kept, and can't be read on its own. -/
theorem read_resolve_of_namesHost (named : p.namesHost (Text.trimmed href).toList = true)
    (bare : scheme? (cleaned (Text.trimmed href).toList) = none) :
    Url.read (p.resolve href) = .error .relativeWithoutBase := by
  rw [resolve_of_namesHost named, read_of_no_scheme bare]

/-- What a link resolves to is read on its own as the URL that the link is read as on its page, if it
doesn't name the host of the page or is absolute. -/
theorem read_resolve (page : Page.read url = .ok p)
    (web : p.origin.scheme = "http" ∨ p.origin.scheme = "https")
    (joined : p.origin.join (Text.trimmed href) = .ok u)
    (kept : p.namesHost (Text.trimmed href).toList = true →
      isAbsolute p.origin (Text.trimmed href).toList = true)
    (written : p.namesHost (Text.trimmed href).toList = false → pathStands u = true) :
    Url.read (p.resolve href) = .ok u := by
  have base := isBase_origin page web
  cases named : p.namesHost (Text.trimmed href).toList with
  | true =>
      rw [resolve_of_namesHost named, Url.read, readWith_of_isAbsolute base.server (kept named)]
      exact joined
  | false =>
      have bases : ∀ b, some p.origin = some b → IsBase b := by
        intro b same
        cases same
        exact base
      rw [resolve_of_join named joined, read_text (readWith_written bases joined) (written named)]

/-- The URL `http://h/`. -/
def hostUrl : Url :=
  ⟨"http", some ⟨[], [], .name ['h'], none⟩, .segments [[]], none, none⟩

/-- The URL `http://h/b?c`. -/
def linkedUrl : Url :=
  ⟨"http", some ⟨[], [], .name ['h'], none⟩, .segments [['b']], some ['c'], none⟩

theorem read_hostUrl : Page.read "http://h/" = .ok (ofUrl hostUrl) := by
  have text : "http://h/".toList = ['h', 't', 't', 'p', ':', '/', '/', 'h', '/'] := rfl
  have address : Url.read "http://h/" = .ok hostUrl := by
    rw [Url.read, text]
    rfl
  rw [Page.read, address]

/-- A link that doesn't name the host, and one that does and is absolute. -/
theorem read_resolve_hostUrl :
    (Page.read "http://h/" = .ok (ofUrl hostUrl) ∧ (ofUrl hostUrl).origin.scheme = "http") ∧
    ((ofUrl hostUrl).origin.join (Text.trimmed " b?c ") = .ok linkedUrl ∧
      (ofUrl hostUrl).namesHost (Text.trimmed " b?c ").toList = false ∧
      pathStands linkedUrl = true ∧
      Url.read ((ofUrl hostUrl).resolve " b?c ") = .ok linkedUrl) ∧
    (ofUrl hostUrl).origin.join (Text.trimmed "http://h/b?c") = .ok linkedUrl ∧
      (ofUrl hostUrl).namesHost (Text.trimmed "http://h/b?c").toList = true ∧
      isAbsolute (ofUrl hostUrl).origin (Text.trimmed "http://h/b?c").toList = true ∧
      Url.read ((ofUrl hostUrl).resolve "http://h/b?c") = .ok linkedUrl := by
  have web : (ofUrl hostUrl).origin.scheme = "http" := rfl
  have relative : (ofUrl hostUrl).origin.join (Text.trimmed " b?c ") = .ok linkedUrl := rfl
  have unnamed : (ofUrl hostUrl).namesHost (Text.trimmed " b?c ").toList = false := rfl
  have stands : pathStands linkedUrl = true := rfl
  have text : (Text.trimmed "http://h/b?c").toList =
      ['h', 't', 't', 'p', ':', '/', '/', 'h', '/', 'b', '?', 'c'] := by
    rw [Text.trimmed, String.toList_ofList]
    rfl
  have joined : (ofUrl hostUrl).origin.join (Text.trimmed "http://h/b?c") = .ok linkedUrl := by
    rw [Url.join, text]
    rfl
  have named : (ofUrl hostUrl).namesHost (Text.trimmed "http://h/b?c").toList = true := by
    rw [text]
    rfl
  have absolute : isAbsolute (ofUrl hostUrl).origin (Text.trimmed "http://h/b?c").toList = true := by
    rw [text]
    rfl
  refine ⟨⟨read_hostUrl, web⟩, ⟨relative, unnamed, stands, ?_⟩, joined, named, absolute, ?_⟩
  · exact read_resolve read_hostUrl (.inl web) relative
      (fun held => by rw [unnamed] at held; cases held) fun _ => stands
  · exact read_resolve read_hostUrl (.inl web) joined (fun _ => absolute)
      fun held => by rw [named] at held; cases held

/-- The link `/h` names the host in its path: it is kept, and is no URL on its own. -/
theorem resolve_keeps_path_hostUrl :
    Page.read "http://h/" = .ok (ofUrl hostUrl) ∧ (ofUrl hostUrl).origin.scheme = "http" ∧
      (ofUrl hostUrl).origin.join (Text.trimmed "/h") =
        .ok { hostUrl with path := .segments [['h']] } ∧
      (ofUrl hostUrl).resolve "/h" = "/h" ∧
      Url.read ((ofUrl hostUrl).resolve "/h") = .error .relativeWithoutBase :=
  ⟨read_hostUrl, rfl, rfl, rfl, read_resolve_of_namesHost rfl rfl⟩

end Page

end PageExtract
