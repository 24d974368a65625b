import PersonGate.Auth.Token
import PersonGate.Proofs.Text.Padded
/-!
# The text of a bearer token

The token in a text is the part that starts and ends with a character other than white space and has
nothing but white space around it (`ofText_eq_ok_iff_solid`). A text has such a part just if it is
not all white space, and the part is the token in itself (`ofText_secret`), so tokens are normal
forms: what is around them in a text is lost, and all the rest is kept.

The headline is `ofText_exact`.
-/
namespace PersonGate.BearerToken
open Text

/-- The text starts and ends with a character that is not white space. -/
structure Solid (t : Text) : Prop where
  head : ∃ c, t.head? = some c ∧ c.toNat ∉ whiteSpace
  last : ∃ c, t.getLast? = some c ∧ c.toNat ∉ whiteSpace

theorem solid_iff {t : Text} :
    Solid t ↔ t ≠ [] ∧ (∀ c, t.head? = some c → isBlank c = false) ∧
      ∀ c, t.getLast? = some c → isBlank c = false := by
  simp only [isBlank_eq_false_iff]
  constructor
  · rintro ⟨⟨first, hfirst, hsolid⟩, ⟨last, hlast, hend⟩⟩
    refine ⟨fun hnil => ?_, fun c hc => ?_, fun c hc => ?_⟩
    · rw [hnil] at hfirst
      cases hfirst
    · rwa [← Option.some.inj (hfirst.symm.trans hc)]
    · rwa [← Option.some.inj (hlast.symm.trans hc)]
  · rintro ⟨hne, hhead, hlast⟩
    exact ⟨⟨_, List.head?_eq_some_head hne, hhead _ (List.head?_eq_some_head hne)⟩,
      _, List.getLast?_eq_some_getLast hne, hlast _ (List.getLast?_eq_some_getLast hne)⟩

theorem ofText_eq_ok_iff_solid {raw : Text} {token : BearerToken} :
    ofText raw = .ok token ↔ Solid token.secret ∧ Padded token.secret raw := by
  rw [ofText_eq_ok_iff, solid_iff, eq_comm]
  constructor
  · rintro ⟨htrim, hne⟩
    obtain ⟨hpad, hends⟩ := trim_eq_iff.1 htrim
    exact ⟨⟨htrim ▸ hne, hends⟩, hpad⟩
  · rintro ⟨⟨hne, hends⟩, hpad⟩
    have htrim := trim_eq_iff.2 ⟨hpad, hends⟩
    exact ⟨htrim, htrim ▸ hne⟩

theorem exists_ofText_iff {raw : Text} :
    (∃ token, ofText raw = .ok token) ↔ ∃ c ∈ raw, c.toNat ∉ whiteSpace := by
  simp only [← isBlank_iff]
  cases htoken : ofText raw with
  | error e =>
    have hblank := (ofText_eq_error_iff.1 htoken).2
    simpa using hblank
  | ok token =>
    have hsome : ¬∀ c ∈ raw, isBlank c = true := by
      rw [← trim_eq_nil_iff]
      exact (ofText_eq_ok_iff.1 htoken).2
    simpa using hsome

/-- A token that was made from a text has no blanks at its ends, and is made of itself. -/
theorem ofText_secret {raw : Text} {token : BearerToken} (h : ofText raw = .ok token) :
    token.secret ≠ [] ∧ trim token.secret = token.secret ∧ ofText token.secret = .ok token := by
  obtain ⟨hsecret, hne⟩ := ofText_eq_ok_iff.1 h
  have htrim : trim token.secret = token.secret := by rw [hsecret, trim_trim]
  have hsecret_ne : token.secret ≠ [] := hsecret ▸ hne
  exact ⟨hsecret_ne, htrim, ofText_eq_ok_iff.2 ⟨htrim.symm, by rwa [htrim]⟩⟩

theorem eq_iff_authorization_eq {s t : BearerToken} : s = t ↔ s.authorization = t.authorization :=
  ⟨congrArg authorization, authorization_injective⟩

/-- Two texts hold the same token just if they differ in white space at their ends only. -/
theorem eq_iff_padded {a b : Text} {s t : BearerToken} (ha : ofText a = .ok s)
    (hb : ofText b = .ok t) : s = t ↔ ∃ core, Padded core a ∧ Padded core b := by
  rw [← trim_eq_trim_iff, ← (ofText_eq_ok_iff.1 ha).1, ← (ofText_eq_ok_iff.1 hb).1]
  cases s
  cases t
  rw [mk.injEq]

/-- **A bearer token is a normal form.** White space is the 25 characters that Unicode gives this
property. A text has a token just if it has a character of another kind; otherwise the error says
that the token is empty. The token is the part of the text that starts and ends with such a
character and has white space alone around it, and the text of a token has that token again. Of two
texts with tokens, the tokens are the same just if the values of the `Authorization` header are, and
just if the texts differ in the white space at their ends alone. -/
theorem ofText_exact :
    (∀ c, isBlank c = true ↔ c.toNat ∈ whiteSpace) ∧
    (∀ raw, (∃ token, ofText raw = .ok token) ↔ ∃ c ∈ raw, c.toNat ∉ whiteSpace) ∧
    (∀ raw e, ofText raw = .error e ↔ e = .empty ∧ ∀ c ∈ raw, c.toNat ∈ whiteSpace) ∧
    (∀ raw token, ofText raw = .ok token ↔ Solid token.secret ∧ Padded token.secret raw) ∧
    (∀ raw token, ofText raw = .ok token → ofText token.secret = .ok token) ∧
    ∀ a b s t, ofText a = .ok s → ofText b = .ok t →
      (s = t ↔ s.authorization = t.authorization) ∧
      (s = t ↔ ∃ core, Padded core a ∧ Padded core b) := by
  refine ⟨fun _ => isBlank_iff, fun _ => exists_ofText_iff, fun raw e => ?_,
    fun _ _ => ofText_eq_ok_iff_solid, fun raw token h => (ofText_secret h).2.2,
    fun a b s t ha hb => ⟨eq_iff_authorization_eq, eq_iff_padded ha hb⟩⟩
  simp only [← isBlank_iff]
  exact ofText_eq_error_iff

/-- White space may change at the ends of a text, and not inside. -/
theorem ofText_exact_spaced :
    let token : BearerToken := ⟨"a \tb".toList⟩
    ofText "\u3000a \tb\n".toList = .ok token ∧ ofText token.secret = .ok token ∧
      (∃ core, Padded core "\u3000a \tb\n".toList ∧ Padded core " a \tb".toList) ∧
      ¬∃ core, Padded core "\u3000a \tb\n".toList ∧ Padded core "a b".toList := by
  intro token
  have htoken : ofText "\u3000a \tb\n".toList = .ok token := ofText_eq_ok_iff.2 (by decide)
  obtain ⟨-, -, -, -, hself, hsame⟩ := ofText_exact
  refine ⟨htoken, hself _ _ htoken, ?_, ?_⟩
  · exact (hsame _ _ token token htoken (ofText_eq_ok_iff.2 (by decide))).2.1 rfl
  · rw [← (hsame _ _ token ⟨"a b".toList⟩ htoken (ofText_eq_ok_iff.2 (by decide))).2]
    decide

end PersonGate.BearerToken
