import Mathlib.Data.List.Nodup
import PersonGate.Proofs.Service.Access
/-!
# Whose roles count

The table of a list of grants is looked up as if one asked for the last grant of the token
(`Holds`). So a token's roles depend on the grants for that token alone (`roles?_filter`), and the
table of two lists in a row asks the second one first (`roles?_append`). Roles that an earlier grant
gave are gone if the last one does not give them too, and grants for different tokens may stand in
any order (`roles?_perm`).

The headline is `roles_exact`.
-/
namespace PersonGate
namespace AccessTable
variable {g h : List Grant} {token : Text}

theorem nodup_eraseDups (roles : List Text) : roles.eraseDups.Nodup := by
  cases roles with
  | nil => simp
  | cons role rest =>
    rw [List.eraseDups_cons, List.nodup_cons]
    refine ⟨?_, nodup_eraseDups _⟩
    rw [List.mem_eraseDups]
    simp
termination_by roles.length
decreasing_by exact Nat.lt_succ_of_le (List.length_filter_le _ _)

/-- What a token holds by a list of grants: nothing if none is for it, else the roles of the last
one, each once. -/
def Holds (grants : List Grant) (token : Text) : Option (List Text) → Prop
  | none => ∀ grant ∈ grants, grant.token ≠ token
  | some roles => ∃ grant, Grant.LastFor grants token grant ∧ roles.Nodup ∧
      ∀ role, role ∈ roles ↔ role ∈ grant.roles

theorem holds_roles? (grants : List Grant) (token : Text) :
    Holds grants token ((ofGrants grants).roles? token) := by
  cases hroles : (ofGrants grants).roles? token with
  | none => exact roles?_eq_none_iff.1 hroles
  | some roles =>
    obtain ⟨grant, hlast, rfl⟩ := roles?_eq_some_iff.1 hroles
    exact ⟨grant, hlast, nodup_eraseDups _, fun role => List.mem_eraseDups⟩

/-- The second list is asked first. -/
theorem roles?_append (g h : List Grant) (token : Text) :
    (ofGrants (g ++ h)).roles? token =
      ((ofGrants h).roles? token).or ((ofGrants g).roles? token) := by
  rw [roles?_ofGrants, roles?_ofGrants, roles?_ofGrants, List.reverse_append, List.find?_append,
    Option.map_or]

/-- Only the grants for the token have a part in what it holds. -/
theorem roles?_filter (g : List Grant) (token : Text) :
    (ofGrants (g.filter fun grant => grant.token = token)).roles? token =
      (ofGrants g).roles? token := by
  rw [roles?_ofGrants, roles?_ofGrants, ← List.filter_reverse, List.find?_filter]
  simp

theorem roles?_congr
    (heq : (g.filter fun grant => grant.token = token) = h.filter fun grant => grant.token = token) :
    (ofGrants g).roles? token = (ofGrants h).roles? token := by
  rw [← roles?_filter g, heq, roles?_filter]

theorem roles?_append_of_others (hother : ∀ grant ∈ h, grant.token ≠ token) :
    (ofGrants (g ++ h)).roles? token = (ofGrants g).roles? token := by
  rw [roles?_append, roles?_eq_none_iff.2 hother, Option.none_or]

/-- Of grants with different tokens at most one is for the token. -/
theorem length_filter_token_le (hdistinct : (g.map Grant.token).Nodup) (token : Text) :
    (g.filter fun grant => grant.token = token).length ≤ 1 := by
  have hcount := List.nodup_iff_count_le_one.1 hdistinct token
  rw [← List.countP_eq_length_filter]
  simpa only [List.count, List.countP_map, Function.comp_def, beq_eq_decide] using hcount

/-- Where no token has two grants their order does not matter. -/
theorem roles?_perm (hperm : g.Perm h) (hdistinct : (g.map Grant.token).Nodup) (token : Text) :
    (ofGrants g).roles? token = (ofGrants h).roles? token := by
  apply roles?_congr
  have hkept := hperm.filter fun grant => grant.token = token
  have hlength := length_filter_token_le hdistinct token
  generalize (g.filter fun grant => grant.token = token) = kept at hkept hlength
  match kept with
  | [] => exact hkept.nil_eq
  | [grant] => exact hkept.singleton_eq
  | _ :: _ :: _ => simp at hlength

/-- **The last grant for a token counts, and no two add up.** A token is in the table of a list of
grants just if one of them is for it, and then it has the roles of the last one, each once. The table
of two lists in a row gives what the second list gives, and only a token that the second knows
nothing of is looked up in the first; so grants for other tokens change nothing when they are put
behind, while a later grant takes away whatever role it does not give itself. Grants for different
tokens may be put in any order. -/
theorem roles_exact :
    (∀ grants token, Holds grants token ((ofGrants grants).roles? token)) ∧
    (∀ grants token, (ofGrants grants).roles? token = none ↔
      ∀ grant ∈ grants, grant.token ≠ token) ∧
    (∀ g h token, (ofGrants (g ++ h)).roles? token =
      ((ofGrants h).roles? token).or ((ofGrants g).roles? token)) ∧
    (∀ g h token, (∀ grant ∈ h, grant.token ≠ token) →
      (ofGrants (g ++ h)).roles? token = (ofGrants g).roles? token) ∧
    (∀ before later after, (∀ grant ∈ after, grant.token ≠ later.token) →
      ∃ roles, (ofGrants (before ++ later :: after)).roles? later.token = some roles ∧
        ∀ role, role ∈ roles ↔ role ∈ later.roles) ∧
    ∀ g h, g.Perm h → (g.map Grant.token).Nodup →
      ∀ token, (ofGrants g).roles? token = (ofGrants h).roles? token := by
  refine ⟨holds_roles?, fun _ _ => roles?_eq_none_iff, roles?_append,
    fun _ _ _ => roles?_append_of_others, fun before later after hafter => ?_,
    fun _ _ => roles?_perm⟩
  have hlast : Grant.LastFor (before ++ later :: after) later.token later :=
    ⟨before, after, rfl, rfl, hafter⟩
  exact ⟨_, roles?_eq_some_iff.2 ⟨later, hlast, rfl⟩, fun role => List.mem_eraseDups⟩

/-- A role is taken back by a second grant, which a third one for another token leaves alone; the
order of grants for two tokens does not matter. -/
theorem roles_exact_revoked :
    let first : Grant := ⟨['t'], [['a'], ['b']]⟩
    let second : Grant := ⟨['t'], [['b'], ['b']]⟩
    let other : Grant := ⟨['u'], [['a']]⟩
    (∃ roles, (ofGrants ([first] ++ second :: [other])).roles? ['t'] = some roles ∧ ['a'] ∉ roles) ∧
      (ofGrants ([first] ++ [other])).roles? ['t'] = (ofGrants [first]).roles? ['t'] ∧
      (ofGrants [first, other]).roles? ['t'] = (ofGrants [other, first]).roles? ['t'] := by
  intro first second other
  obtain ⟨-, -, -, hothers, hlater, hperm⟩ := roles_exact
  obtain ⟨roles, hroles, hset⟩ := hlater [first] second [other] (by decide)
  refine ⟨⟨roles, hroles, ?_⟩, hothers _ _ _ (by decide), hperm _ _ (.swap _ _ _) (by decide) _⟩
  rw [hset]
  decide

end AccessTable
end PersonGate
