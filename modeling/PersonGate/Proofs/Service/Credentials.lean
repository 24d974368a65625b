import PersonGate.Proofs.Auth.NormalForm
import PersonGate.Proofs.Service.Decision
/-!
# Which token a request carries

The token is in the value of the first `Authorization` header (`FirstValue`), written there after
the scheme and a space with any blanks around it (`Carries`). The tokens that can be carried at all
are the visible ones without blanks at their ends, blanks inside or not (`exists_carries_iff`).
Writing and reading meet there: a token that was made from a text, written with the scheme in any
case and more spaces and tabs around it, is read as it is (`BearerToken.carries`).

The headline is `credentials_exact`.
-/
namespace PersonGate
open Http

/-! ## The first header with a name -/

/-- The value is that of the first header whose name passes. -/
def FirstValue (named : Text → Prop) (headers : List Header) (value : Text) : Prop :=
  ∃ before name after, headers = before ++ ⟨name, value⟩ :: after ∧ named name ∧
    ∀ other ∈ before, ¬named other.name

theorem find?_header_eq_some_iff (test : Text → Bool) {named : Text → Prop}
    (htest : ∀ name, test name = true ↔ named name) {headers : List Header} {value : Text} :
    (headers.find? fun header => test header.name).map Header.value = some value ↔
      FirstValue named headers value := by
  simp only [Option.map_eq_some_iff, List.find?_eq_some_iff_append, Bool.not_eq_true',
    ← Bool.not_eq_true, htest]
  constructor
  · rintro ⟨header, ⟨hnamed, before, after, hheaders, hbefore⟩, rfl⟩
    exact ⟨before, header.name, after, hheaders, hnamed, hbefore⟩
  · rintro ⟨before, name, after, hheaders, hnamed, hbefore⟩
    exact ⟨⟨name, value⟩, ⟨hnamed, before, after, hheaders, hbefore⟩, rfl⟩

theorem Http.Request.headerValue?_eq_some_iff {request : Request} {name value : Text} :
    request.headerValue? name = some value ↔ FirstValue (· = name) request.headers value :=
  find?_header_eq_some_iff (fun other => other == name) fun _ => beq_iff_eq

/-- Header names of a draft are written in any case. -/
theorem Http.RequestDraft.authorization?_eq_some_iff {draft : RequestDraft} {value : Text} :
    draft.authorization? = some value ↔
      FirstValue (fun name => name.map Char.toLower = "authorization".toList) draft.headers
        value :=
  find?_header_eq_some_iff (fun name => name.map Char.toLower == Request.authorizationName)
    fun _ => beq_iff_eq

/-! ## The token in a value -/

/-- The text can be read: it is all tabs and visible ASCII. -/
def Readable (t : Text) : Prop := ∀ c ∈ t, c = '\t' ∨ 0x20 ≤ c.toNat ∧ c.toNat ≤ 0x7E

/-- A text of spaces and tabs. -/
def Padding (t : Text) : Prop := ∀ c ∈ t, c = ' ' ∨ c = '\t'

instance (t : Text) : Decidable (Readable t) :=
  List.decidableBAll (fun c => c = '\t' ∨ 0x20 ≤ c.toNat ∧ c.toNat ≤ 0x7E) t

instance (t : Text) : Decidable (Padding t) :=
  List.decidableBAll (fun c => c = ' ' ∨ c = '\t') t

/-- A value carries a token behind a scheme and the first space. -/
structure Carries (value scheme rest token : Text) : Prop where
  readable : Readable value
  value_eq : value = scheme ++ ' ' :: rest
  no_space : ' ' ∉ scheme
  scheme_eq : scheme.map Char.toLower = "bearer".toList
  token_eq : token = Text.trim rest
  token_ne : token ≠ []

theorem Readable.append {a b : Text} (ha : Readable a) (hb : Readable b) : Readable (a ++ b) :=
  fun c hc => (List.mem_append.1 hc).elim (ha c) (hb c)

theorem Padding.readable {t : Text} (h : Padding t) : Readable t := by
  intro c hc
  rcases h c hc with rfl | rfl
  · exact .inr (by decide)
  · exact .inl rfl

theorem Padding.blank {t : Text} (h : Padding t) : Text.Blank t := by
  intro c hc
  rcases h c hc with rfl | rfl <;> decide

/-- A character whose lower case is a small letter is visible. -/
theorem visible_of_toLower {c : Char} (h : c.toLower ∈ "bearer".toList) :
    0x20 < c.toNat ∧ c.toNat ≤ 0x7E := by
  have hletter : ∀ d ∈ "bearer".toList, 0x20 < d.toNat ∧ d.toNat ≤ 0x7E := by simp
  by_cases hupper : c.val ≥ 'A'.val ∧ c.val ≤ 'Z'.val
  · obtain ⟨hlow, hhigh⟩ : 65 ≤ c.toNat ∧ c.toNat ≤ 90 := hupper
    omega
  · have hself : c.toLower = c := dif_neg hupper
    exact hletter c (hself ▸ h)

theorem visible_scheme {scheme : Text} (h : scheme.map Char.toLower = "bearer".toList) :
    ∀ c ∈ scheme, 0x20 < c.toNat ∧ c.toNat ≤ 0x7E :=
  fun _ hc => visible_of_toLower (h ▸ List.mem_map_of_mem hc)

theorem readable_scheme {scheme : Text} (h : scheme.map Char.toLower = "bearer".toList) :
    Readable scheme :=
  fun c hc => .inr ((visible_scheme h c hc).imp_left Nat.le_of_lt)

theorem space_not_mem_scheme {scheme : Text} (h : scheme.map Char.toLower = "bearer".toList) :
    ' ' ∉ scheme :=
  fun hmem => absurd (visible_scheme h ' ' hmem).1 (by decide)

theorem presents_iff {value token : Text} :
    Presents value token ↔ ∃ scheme rest, Carries value scheme rest token := by
  constructor
  · rintro ⟨hread, scheme, rest, hvalue, hscheme, htoken, hne⟩
    exact ⟨scheme, rest, hread, hvalue, space_not_mem_scheme hscheme, hscheme, htoken, hne⟩
  · rintro ⟨scheme, rest, hread, hvalue, -, hscheme, htoken, hne⟩
    exact ⟨hread, scheme, rest, hvalue, hscheme, htoken, hne⟩

theorem requestToken?_iff_carries {request : Request} {token : Text} :
    requestToken? request = some token ↔
      ∃ value, FirstValue (· = "authorization".toList) request.headers value ∧
        ∃ scheme rest, Carries value scheme rest token := by
  simp only [requestToken?, Option.bind_eq_bind, Option.bind_eq_some_iff, bearerToken?_eq_some_iff,
    Request.headerValue?_eq_some_iff, presents_iff]
  rfl

/-! ## Tokens that can be carried -/

/-- What is left of the blanks around a text can still be read. -/
theorem Readable.trim {t : Text} (h : Readable t) : Readable (Text.trim t) :=
  fun c hc => h c (Text.mem_of_mem_trim hc)

theorem Carries.token_readable {value scheme rest token : Text}
    (h : Carries value scheme rest token) : Readable token := by
  rw [h.token_eq]
  refine Readable.trim fun c hc => h.readable c ?_
  rw [h.value_eq]
  exact List.mem_append_right scheme (List.mem_cons_of_mem ' ' hc)

/-- Any scheme and any padding carry a token without blanks at its ends. -/
theorem carries_padded {token : Text} (hread : Readable token) (htrim : Text.trim token = token)
    (hne : token ≠ []) {scheme : Text} (hscheme : scheme.map Char.toLower = "bearer".toList)
    {before after : Text} (hbefore : Padding before) (hafter : Padding after) :
    Carries (scheme ++ ' ' :: (before ++ token ++ after)) scheme (before ++ token ++ after)
      token where
  readable := by
    have hspace : Readable [' '] := Padding.readable (by decide)
    have hrest : Readable (before ++ token ++ after) :=
      (hbefore.readable.append hread).append hafter.readable
    exact (readable_scheme hscheme).append (hspace.append hrest)
  value_eq := rfl
  no_space := space_not_mem_scheme hscheme
  scheme_eq := hscheme
  token_eq := by
    rw [Text.trim_append_blank hafter.blank, Text.trim_blank_append hbefore.blank, htrim]
  token_ne := hne

/-- A client writes the token behind one space. -/
theorem carries_plain {token : Text} (hread : Readable token) (htrim : Text.trim token = token)
    (hne : token ≠ []) : Carries (BearerToken.scheme ++ token) "Bearer".toList token token := by
  have hscheme : "Bearer".toList.map Char.toLower = "bearer".toList := by decide
  have hnothing : Padding [] := by decide
  have hcarries := carries_padded hread htrim hne hscheme hnothing hnothing
  rwa [List.nil_append, List.append_nil] at hcarries

theorem exists_carries_iff {token : Text} :
    (∃ value scheme rest, Carries value scheme rest token) ↔
      token ≠ [] ∧ Text.trim token = token ∧ Readable token := by
  constructor
  · rintro ⟨value, scheme, rest, h⟩
    exact ⟨h.token_ne, by rw [h.token_eq, Text.trim_trim], h.token_readable⟩
  · rintro ⟨hne, htrim, hread⟩
    exact ⟨_, _, _, carries_plain hread htrim hne⟩

namespace BearerToken

theorem carries {raw : Text} {token : BearerToken} (h : ofText raw = .ok token)
    (hread : Readable token.secret) {scheme : Text}
    (hscheme : scheme.map Char.toLower = "bearer".toList) {before after : Text}
    (hbefore : Padding before) (hafter : Padding after) :
    Carries (scheme ++ ' ' :: (before ++ token.secret ++ after)) scheme
      (before ++ token.secret ++ after) token.secret :=
  have hsecret := ofText_secret h
  carries_padded hread hsecret.2.1 hsecret.1 hscheme hbefore hafter

end BearerToken

/-- **The credentials of a request are read by their grammar.** A request carries a token just if
the value of its first `Authorization` header is tabs and visible ASCII only, and is the word
`bearer` in any case, a space, and the token with any blanks around it; header names of a draft may
be in any case. The tokens that can be carried are those of tabs and visible ASCII that are not
empty and have no blanks at their ends, while spaces and tabs may be inside. A bearer token that can
be read is what a value carries that writes it after the scheme in any case and a space, with any
spaces and tabs around it; above all, the value that the token itself writes carries it. -/
theorem credentials_exact :
    (∀ request token, requestToken? request = some token ↔
      ∃ value, FirstValue (· = "authorization".toList) request.headers value ∧
        ∃ scheme rest, Carries value scheme rest token) ∧
    (∀ draft request, Request.ofDraft? draft = some request →
      ∀ token, requestToken? request = some token ↔
        ∃ value, FirstValue (fun name => name.map Char.toLower = "authorization".toList)
            draft.headers value ∧
          ∃ scheme rest, Carries value scheme rest token) ∧
    (∀ token, (∃ request, requestToken? request = some token) ↔
      token ≠ [] ∧ Text.trim token = token ∧ Readable token) ∧
    (∀ first last gap, Text.isBlank first = false → Text.isBlank last = false →
      Readable [first, last] → Padding gap →
      ∃ request, requestToken? request = some (first :: gap ++ [last])) ∧
    ∀ raw token, BearerToken.ofText raw = .ok token → Readable token.secret →
      BearerToken.ofText token.secret = .ok token ∧
      ∀ request : Request,
        (∀ scheme before after, scheme.map Char.toLower = "bearer".toList → Padding before →
          Padding after →
          FirstValue (· = "authorization".toList) request.headers
            (scheme ++ ' ' :: (before ++ token.secret ++ after)) →
          requestToken? request = some token.secret) ∧
        (FirstValue (· = "authorization".toList) request.headers token.authorization →
          requestToken? request = some token.secret) := by
  have himage : ∀ token, (∃ request, requestToken? request = some token) ↔
      token ≠ [] ∧ Text.trim token = token ∧ Readable token := by
    intro token
    rw [← exists_carries_iff]
    constructor
    · rintro ⟨request, h⟩
      obtain ⟨value, -, scheme, rest, hcarries⟩ := requestToken?_iff_carries.1 h
      exact ⟨value, scheme, rest, hcarries⟩
    · rintro ⟨value, scheme, rest, hcarries⟩
      refine ⟨⟨.get, [], [⟨"authorization".toList, value⟩], []⟩, ?_⟩
      exact requestToken?_iff_carries.2 ⟨value, ⟨[], _, [], rfl, rfl, by simp⟩, scheme, rest, hcarries⟩
  refine ⟨fun _ _ => requestToken?_iff_carries, fun draft request hdraft token => ?_, himage, ?_, ?_⟩
  · rw [requestToken?_eq_some_iff hdraft]
    simp only [RequestDraft.authorization?_eq_some_iff, presents_iff]
  · intro first last gap hfirst hlast hread hgap
    rw [himage]
    refine ⟨by simp, Text.trim_eq_self _ (by simpa using hfirst) ?_, ?_⟩
    · intro c hc
      rw [List.getLast?_concat, Option.some.injEq] at hc
      exact hc ▸ hlast
    · have hinside : Readable (first :: gap) :=
        Readable.append (a := [first]) (fun c hc => hread c (by simp_all)) hgap.readable
      exact hinside.append fun c hc => hread c (by simp_all)
  · intro raw token htoken hread
    have hsecret := BearerToken.ofText_secret htoken
    refine ⟨hsecret.2.2, fun request => ⟨?_, fun hvalue => ?_⟩⟩
    · intro scheme before after hscheme hbefore hafter hvalue
      exact requestToken?_iff_carries.2
        ⟨_, hvalue, _, _, BearerToken.carries htoken hread hscheme hbefore hafter⟩
    · exact requestToken?_iff_carries.2
        ⟨_, hvalue, _, _, carries_plain hread hsecret.2.1 hsecret.1⟩

/-- The first of two headers counts, its scheme is in an odd case, tabs and spaces are around the
token, and those inside the token stay. -/
theorem credentials_exact_padded :
    let token : BearerToken := ⟨"a\t b".toList⟩
    let request : Request := ⟨.put, "/person".toList,
      [⟨"accept".toList, "*".toList⟩, ⟨"authorization".toList, "bEARER \t a\t b\t ".toList⟩,
        ⟨"authorization".toList, "Bearer other".toList⟩], []⟩
    BearerToken.ofText "\n a\t b ".toList = .ok token ∧ requestToken? request = some token.secret := by
  intro token request
  have htoken : BearerToken.ofText "\n a\t b ".toList = .ok token := by decide
  have hfirst : FirstValue (· = "authorization".toList) request.headers
      ("bEARER".toList ++ ' ' :: ("\t ".toList ++ token.secret ++ "\t ".toList)) :=
    ⟨[⟨"accept".toList, "*".toList⟩], _, [⟨"authorization".toList, "Bearer other".toList⟩], rfl, rfl,
      by decide⟩
  obtain ⟨-, hread⟩ := credentials_exact.2.2.2.2 _ token htoken (by decide)
  exact ⟨htoken, (hread request).1 _ _ _ (by decide) (by decide) (by decide) hfirst⟩

end PersonGate
