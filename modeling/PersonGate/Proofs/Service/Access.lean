import Mathlib.Data.List.Induction
import PersonGate.Proofs.Auth.NormalForm
import PersonGate.Service.Handler
/-!
# Who gets in

Of the grants for a token the last one counts (`Grant.LastFor`), and its roles alone decide
(`judge_some_ofGrants`). A token that a client put in a header is read there as it is, or not at all
(`bearerToken?_authorization`).
-/
namespace PersonGate

/-- The grant is in the list, for this token, and no later one is. -/
def Grant.LastFor (grants : List Grant) (token : Text) (grant : Grant) : Prop :=
  ∃ before after, grants = before ++ grant :: after ∧ grant.token = token ∧
    ∀ later ∈ after, later.token ≠ token

namespace AccessTable

theorem roles?_insert (table : AccessTable) (grant : Grant) (token : Text) :
    (table.insert grant).roles? token =
      if grant.token = token then some grant.roles.eraseDups else table.roles? token := by
  by_cases h : token = grant.token
  · subst h
    simp [insert, roles?]
  · rw [if_neg (Ne.symm h)]
    have hb : (token == grant.token) = false := by simpa using h
    simp only [insert, roles?, List.lookup_cons, hb]
    exact Environment.lookup_filter_ne h table.entries

theorem roles?_ofGrants (grants : List Grant) (token : Text) :
    (ofGrants grants).roles? token =
      (grants.reverse.find? fun grant => grant.token = token).map fun grant =>
        grant.roles.eraseDups := by
  induction grants using List.reverseRecOn with
  | nil => rfl
  | append_singleton rest grant ih =>
    have hlast : ofGrants (rest ++ [grant]) = (ofGrants rest).insert grant := by
      simp [ofGrants, List.foldl_append]
    rw [hlast, roles?_insert, ih, List.reverse_append, List.reverse_singleton,
      List.singleton_append, List.find?_cons]
    by_cases h : grant.token = token <;> simp [h]

end AccessTable

theorem Grant.find?_reverse_eq_some_iff {grants : List Grant} {token : Text} {grant : Grant} :
    grants.reverse.find? (fun grant => grant.token = token) = some grant ↔
      LastFor grants token grant := by
  rw [List.find?_eq_some_iff_append]
  constructor
  · rintro ⟨htoken, after, before, hsplit, hafter⟩
    refine ⟨before.reverse, after.reverse, ?_, by simpa using htoken, ?_⟩
    · rw [← List.reverse_reverse grants, hsplit]
      simp
    · intro later hlater
      simpa using hafter later (List.mem_reverse.1 hlater)
  · rintro ⟨before, after, rfl, htoken, hafter⟩
    refine ⟨by simpa using htoken, after.reverse, before.reverse, by simp, ?_⟩
    intro later hlater
    simpa using hafter later (List.mem_reverse.1 hlater)

theorem Grant.LastFor.mem {grants : List Grant} {token : Text} {grant : Grant}
    (h : LastFor grants token grant) : grant ∈ grants ∧ grant.token = token := by
  obtain ⟨before, after, rfl, htoken, -⟩ := h
  exact ⟨by simp, htoken⟩

theorem Grant.LastFor.unique {grants : List Grant} {token : Text} {grant other : Grant}
    (h : LastFor grants token grant) (hother : LastFor grants token other) : other = grant := by
  rw [← find?_reverse_eq_some_iff] at h hother
  exact Option.some.inj (hother.symm.trans h)

namespace AccessTable

theorem roles?_eq_none_iff {grants : List Grant} {token : Text} :
    (ofGrants grants).roles? token = none ↔ ∀ grant ∈ grants, grant.token ≠ token := by
  simp [roles?_ofGrants]

theorem roles?_eq_some_iff {grants : List Grant} {token : Text} {roles : List Text} :
    (ofGrants grants).roles? token = some roles ↔
      ∃ grant, Grant.LastFor grants token grant ∧ grant.roles.eraseDups = roles := by
  simp only [roles?_ofGrants, Option.map_eq_some_iff, Grant.find?_reverse_eq_some_iff]

variable (grants : List Grant) (action : PersonAction)

/-- A token either is no grant's, or the last grant for it decides. -/
theorem judge_some_ofGrants (token : Text) :
    ((∀ grant ∈ grants, grant.token ≠ token) ∧
        (ofGrants grants).judge (some token) action = .unauthorized) ∨
      ∃ grant, Grant.LastFor grants token grant ∧
        (∀ other, Grant.LastFor grants token other → other = grant) ∧
        (ofGrants grants).judge (some token) action =
          if action.requiredRole.name.toList ∈ grant.roles then .allowed else .forbidden := by
  simp only [judge, Option.bind_eq_bind, Option.bind_some]
  cases hroles : (ofGrants grants).roles? token with
  | none => exact .inl ⟨roles?_eq_none_iff.1 hroles, rfl⟩
  | some roles =>
    obtain ⟨grant, hlast, rfl⟩ := roles?_eq_some_iff.1 hroles
    refine .inr ⟨grant, hlast, fun other => hlast.unique, ?_⟩
    simp only [List.mem_eraseDups]

variable {token? : Option Text}

theorem judge_eq_unauthorized_iff :
    (ofGrants grants).judge token? action = .unauthorized ↔
      ¬∃ token, token? = some token ∧ ∃ grant ∈ grants, grant.token = token := by
  cases token? with
  | none => simp [judge]
  | some token =>
    simp only [Option.some.injEq, exists_eq_left']
    rcases judge_some_ofGrants grants action token with ⟨hnone, hjudge⟩ | ⟨grant, hlast, -, hjudge⟩
    · exact ⟨fun _ ⟨grant, hmem, he⟩ => hnone grant hmem he, fun _ => hjudge⟩
    · refine ⟨fun h => ?_, fun h => absurd ⟨grant, hlast.mem⟩ h⟩
      rw [hjudge] at h
      split at h <;> cases h

/-- Whoever is known is judged by the roles of the last grant for the token. -/
theorem judge_eq_iff {verdict : Verdict} {p : Grant → Prop}
    (hverdict : ∀ grant : Grant, (if action.requiredRole.name.toList ∈ grant.roles then Verdict.allowed
      else .forbidden) = verdict ↔ p grant) (hknown : verdict ≠ .unauthorized) :
    (ofGrants grants).judge token? action = verdict ↔
      ∃ token grant, token? = some token ∧ Grant.LastFor grants token grant ∧ p grant := by
  cases token? with
  | none => simpa [judge] using hknown.symm
  | some token =>
    simp only [Option.some.injEq]
    rcases judge_some_ofGrants grants action token with ⟨hnone, hjudge⟩ |
      ⟨grant, hlast, honly, hjudge⟩
    · refine ⟨fun h => absurd (hjudge.symm.trans h).symm hknown, ?_⟩
      rintro ⟨_, grant, rfl, hlast, -⟩
      exact absurd hlast.mem.2 (hnone grant hlast.mem.1)
    · rw [hjudge, hverdict]
      refine ⟨fun h => ⟨token, grant, rfl, hlast, h⟩, ?_⟩
      rintro ⟨_, other, rfl, hother, h⟩
      exact honly other hother ▸ h

/-- An action is allowed just by the last grant for the token. -/
theorem judge_ofGrants (token : Text) :
    (ofGrants grants).judge (some token) action = .allowed ↔
      ∃ grant, Grant.LastFor grants token grant ∧
        action.requiredRole.name.toList ∈ grant.roles := by
  rw [judge_eq_iff grants action (p := fun grant =>
    action.requiredRole.name.toList ∈ grant.roles) (fun grant => by simp) (by decide)]
  simp

end AccessTable

/-! ## Tokens in headers -/

theorem all_isReadable_iff {t : Text} :
    t.all Http.isReadable = true ↔ ∀ c ∈ t, c = '\t' ∨ 0x20 ≤ c.toNat ∧ c.toNat ≤ 0x7E := by
  rw [List.all_eq_true]
  refine forall_congr' fun c => imp_congr_right fun _ => ?_
  rw [Http.isReadable, Bool.or_eq_true, beq_iff_eq, Bool.and_eq_true, decide_eq_true_eq,
    decide_eq_true_eq, Nat.lt_succ_iff]

/-- The token of a header that a client wrote is read as it is, unless a character of it cannot be
read. -/
theorem bearerToken?_authorization {token : BearerToken} {raw : Text}
    (h : BearerToken.ofText raw = .ok token) :
    bearerToken? token.authorization =
      if token.secret.all Http.isReadable then some token.secret else none := by
  obtain ⟨hne, htrim, -⟩ := BearerToken.ofText_secret h
  have hcut : Text.cut? ' ' token.authorization = some (['B', 'e', 'a', 'r', 'e', 'r'],
      token.secret) := by
    rw [Text.cut?_eq_some_iff]
    exact ⟨by decide, rfl⟩
  have hscheme : BearerToken.scheme.all Http.isReadable = true := by decide
  have hall : token.authorization.all Http.isReadable = token.secret.all Http.isReadable := by
    rw [BearerToken.authorization, List.all_append, hscheme, Bool.true_and]
  rw [bearerToken?, Http.readable?, hall]
  split
  · have hname : ['B', 'e', 'a', 'r', 'e', 'r'].map Char.toLower = bearerScheme := by decide
    simp only [Option.bind_eq_bind, Option.bind_some, hcut, htrim, hname]
    rw [if_pos ⟨trivial, hne⟩]
  · rfl

end PersonGate
