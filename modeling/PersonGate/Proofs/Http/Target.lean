import PersonGate.Http.Uri
/-!
# A query has no part in the path

A target can be cut off at its first question mark or number sign: what is left is a target as well,
and leads to the same path (`target?_upTo`).
-/
namespace PersonGate

theorem Text.upTo_append_cons (stop : Char → Bool) {c : Char} (hc : stop c = true) (a b : Text) :
    upTo stop (a ++ c :: b) = ((upTo stop a).1, (upTo stop a).2 ++ c :: b) := by
  induction a with
  | nil => simp [upTo, hc]
  | cons d rest ih =>
    simp only [upTo, Prod.mk.injEq] at ih
    by_cases hd : stop d = true
    · simp [upTo, hd]
    · simp [upTo, hd, ih]

namespace Http.Uri

/-- Does the character end a path? -/
def endsPath (c : Char) : Bool := c == '?' || c == '#'

theorem byteLength_le (a b : Text) : byteLength a ≤ byteLength (a ++ b) := by
  have hgrow : ∀ (b : Text) (n : Nat), n ≤ b.foldl (fun n c => n + c.utf8Size) n := by
    intro b
    induction b with
    | nil => exact Nat.le_refl
    | cons c rest ih => exact fun n => Nat.le_trans (Nat.le_add_right _ _) (ih _)
  rw [byteLength, byteLength, List.foldl_append]
  exact hgrow b _

theorem scheme?_eq_some_iff {t scheme rest : Text} :
    scheme? t = some (scheme, rest) ↔ t.takeWhile isSchemeChar = scheme ∧
      t.dropWhile isSchemeChar = ':' :: '/' :: '/' :: rest := by
  unfold scheme?
  split
  · rename_i after hdrop
    rw [hdrop]
    simp
  · rename_i hnone
    exact ⟨fun h => (by cases h), fun h => absurd h.2 (hnone _)⟩

/-! ## What stands behind a path -/

section
variable {a b : Text} {c : Char} (hc : endsPath c = true)
include hc

theorem path?_append_cons (ha : ∀ d ∈ a, endsPath d = false) {path : Text}
    (h : path? (a ++ c :: b) = some path) : path? a = some path := by
  have hcut : Text.upTo (fun d => d == '?' || d == '#') (a ++ c :: b) = (a, c :: b) :=
    Text.upTo_eq ha hc b
  have hself : Text.upTo (fun d => d == '?' || d == '#') a = (a, []) := Text.upTo_eq_self ha
  have hchars : a.all isPathChar = true := by
    cases hall : a.all isPathChar with
    | true => rfl
    | false => simp [path?, hcut, hall] at h
  simp only [path?, hcut, hchars, Bool.true_and, Option.ite_none_right_eq_some] at h
  simpa [path?, hself, hchars] using h.2

theorem authority?_append_cons {authority rest : Text}
    (h : authority? (a ++ c :: b) = some (authority, rest)) :
    ∃ before, rest = before ++ c :: b ∧ authority? a = some (authority, before) ∧
      a = authority ++ before := by
  have hstop : (c == '/' || c == '?' || c == '#') = true := by
    rw [Bool.or_assoc, Bool.or_eq_true]
    exact .inr hc
  have hcut := Text.upTo_append_cons (fun d => d == '/' || d == '?' || d == '#') hstop a b
  have hwhole := Text.upTo_append (fun d => d == '/' || d == '?' || d == '#') a
  simp only [authority?, hcut, Option.bind_eq_bind] at h
  obtain ⟨scan, hscan, h⟩ := Option.bind_eq_some_iff.1 h
  split at h
  · rename_i haccepts
    cases h
    refine ⟨_, rfl, ?_, hwhole.symm⟩
    simp only [authority?, Option.bind_eq_bind, hscan, Option.bind_some]
    rw [if_pos haccepts]
  · cases h

theorem scheme?_append_cons {scheme rest : Text}
    (h : scheme? (a ++ c :: b) = some (scheme, rest)) :
    ∃ before, rest = before ++ c :: b ∧ scheme? a = some (scheme, before) ∧
      a = scheme ++ ':' :: '/' :: '/' :: before := by
  have hmarks : c ≠ '/' ∧ c ≠ ':' ∧ isSchemeChar c = false := by
    rw [endsPath, Bool.or_eq_true, beq_iff_eq, beq_iff_eq] at hc
    rcases hc with rfl | rfl <;> decide
  have hcut := Text.upTo_append_cons (fun d => !isSchemeChar d) (c := c)
    (by rw [hmarks.2.2]; rfl) a b
  simp only [Text.upTo, Bool.not_not, Prod.mk.injEq] at hcut
  obtain ⟨htake, hdrop⟩ := scheme?_eq_some_iff.1 h
  rw [hcut.1] at htake
  rw [hcut.2] at hdrop
  have hwhole : a.takeWhile isSchemeChar ++ a.dropWhile isSchemeChar = a :=
    List.takeWhile_append_dropWhile
  -- the mark is none of the three characters behind the scheme, so these are all in front of it
  obtain ⟨before, hbefore, hrest⟩ : ∃ before, a.dropWhile isSchemeChar =
      ':' :: '/' :: '/' :: before ∧ rest = before ++ c :: b := by
    generalize a.dropWhile (fun d => isSchemeChar d) = behind at hdrop
    rcases behind with _ | ⟨x, _ | ⟨y, _ | ⟨z, before⟩⟩⟩
    · exact absurd (List.cons.inj hdrop).1 hmarks.2.1
    · exact absurd (List.cons.inj (List.cons.inj hdrop).2).1 hmarks.1
    · exact absurd (List.cons.inj (List.cons.inj (List.cons.inj hdrop).2).2).1 hmarks.1
    · simp only [List.cons_append, List.cons.injEq] at hdrop
      obtain ⟨rfl, rfl, rfl, rfl⟩ := hdrop
      exact ⟨before, rfl, rfl⟩
  exact ⟨before, hrest, scheme?_eq_some_iff.2 ⟨htake, hbefore⟩, by rw [← htake, ← hbefore, hwhole]⟩

/-- A whole address with something behind its path has a scheme. -/
theorem fullPath?_append_cons (ha : ∀ d ∈ a, endsPath d = false) {path : Text}
    (h : fullPath? (a ++ c :: b) = some path) :
    fullPath? a = some path ∧ ∃ scheme before, a = scheme ++ ':' :: '/' :: '/' :: before := by
  unfold fullPath? at h
  split at h
  · rename_i scheme afterScheme hscheme
    obtain ⟨behind, rfl, hself, hshape⟩ := scheme?_append_cons hc hscheme
    split at h
    · cases h
    · rename_i hlength
      split at h
      · rename_i authority rest hauthority
        obtain ⟨before, rfl, hown, hbehind⟩ := authority?_append_cons hc hauthority
        split at h
        · cases h
        · rename_i hempty
          have hbefore : ∀ d ∈ before, endsPath d = false := fun d hd =>
            ha d (by rw [hshape, hbehind]; simp [hd])
          refine ⟨?_, scheme, behind, hshape⟩
          rw [fullPath?, hself]
          simp only [hown]
          rw [if_neg hlength, if_neg hempty, path?_append_cons hc hbefore h]
      · cases h
  · split at h
    · rename_i authority hauthority
      obtain ⟨before, hnil, -, -⟩ := authority?_append_cons hc hauthority
      simp at hnil
    · cases h
end

/-- A target that was cut off in front of its query or fragment leads to the same path. -/
theorem target?_upTo {t path : Text} (h : target? t = some path) :
    target? (Text.upTo endsPath t).1 = some path := by
  have hwhole := Text.upTo_append endsPath t
  have ha : ∀ d ∈ (Text.upTo endsPath t).1, endsPath d = false := by
    intro d hd
    simpa using List.all_eq_true.1 List.all_takeWhile d hd
  have hrest : (Text.upTo endsPath t).2 = [] ∨
      ∃ c b, (Text.upTo endsPath t).2 = c :: b ∧ endsPath c = true := by
    cases hdrop : (Text.upTo endsPath t).2 with
    | nil => exact .inl rfl
    | cons c b =>
      have := List.head?_dropWhile_not (fun d => !endsPath d) t
      rw [show t.dropWhile (fun d => !endsPath d) = c :: b from hdrop] at this
      exact .inr ⟨c, b, rfl, by simpa using this⟩
  generalize (Text.upTo endsPath t).1 = a at *
  rcases hrest with hnil | ⟨c, b, hcons, hc⟩
  · rw [hnil, List.append_nil] at hwhole
    rwa [hwhole]
  · rw [hcons] at hwhole
    subst hwhole
    have hbytes := byteLength_le a (c :: b)
    unfold target? at h ⊢
    have hlong : ¬maxBytes < byteLength (a ++ c :: b) := by
      intro hlt
      rw [if_pos hlt] at h
      cases h
    rw [if_neg hlong] at h
    rw [if_neg fun hlt => hlong (Nat.lt_of_lt_of_le hlt hbytes)]
    split at h
    · cases h
    · rename_i hstar
      rcases List.append_eq_singleton_iff.1 hstar with ⟨-, hmark⟩ | ⟨-, hnil⟩
      · rw [(List.cons.inj hmark).1] at hc
        simp [endsPath] at hc
      · cases hnil
    · rename_i rest hslash
      cases a with
      | nil =>
        obtain rfl := (List.cons.inj hslash).1
        simp [endsPath] at hc
      | cons d more =>
        obtain rfl := (List.cons.inj hslash).1
        exact path?_append_cons hc ha h
    · rename_i hslash
      obtain ⟨hfull, scheme, before, hshape⟩ := fullPath?_append_cons hc ha h
      split
      · simp at hshape
      · exact absurd (congrArg List.length hshape) (by simp; omega)
      · exact absurd rfl (hslash _)
      · exact hfull

end Http.Uri
end PersonGate
