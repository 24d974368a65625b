import PersonGate.Proofs.Config.Settings
/-!
# Grants in parts, and the first bad one

A text of grants can be read in parts that are cut at any of its commas: `Grant.both` puts two
readings together, the error of the first part before that of the second, and `parse_append` says
that reading the joined text comes to the same. The entries of a text are its only row of texts
without commas (`IsRow`, `isRow_iff`), so what is refused, and which of the entries is reported, can
be said of them. What stands after the first malformed entry has no part in the outcome
(`parse_join_of_malformed`).

The headline is `parse_leftmost`.
-/
namespace PersonGate

namespace Text

theorem join_append {before after : List Text} (hbefore : before ≠ []) (hafter : after ≠ [])
    (sep : Char) : join sep (before ++ after) = join sep before ++ sep :: join sep after := by
  induction before with
  | nil => exact absurd rfl hbefore
  | cons a rest ih =>
    cases rest with
    | nil =>
      cases after with
      | nil => exact absurd rfl hafter
      | cons b more => simp [join]
    | cons b more =>
      rw [List.cons_append, List.cons_append, join_cons_cons, ← List.cons_append, ih (by simp),
        join_cons_cons, List.append_assoc]
      rfl

end Text

namespace Grant
open Text

/-! ## Two readings -/

/-- Two readings together: the first error, or the grants of both. -/
def both : Except ConfigError (List Grant) → Except ConfigError (List Grant) →
    Except ConfigError (List Grant)
  | .error e, _ => .error e
  | .ok _, .error e => .error e
  | .ok first, .ok second => .ok (first ++ second)

theorem both_nil (result : Except ConfigError (List Grant)) : both (.ok []) result = result := by
  cases result <;> rfl

/-- To read one entry more in front is to put its grant, or its error, in front. -/
theorem both_cons (grant : Grant) (first second : Except ConfigError (List Grant)) :
    both (both (.ok [grant]) first) second = both (.ok [grant]) (both first second) := by
  cases first <;> cases second <;> rfl

theorem ofEntries_cons (entry : Text) (rest : List Text) :
    ofEntries (entry :: rest) =
      both ((ofEntry entry).map fun grant => [grant]) (ofEntries rest) := by
  rw [ofEntries]
  cases ofEntry entry with
  | error e => rfl
  | ok grant => cases ofEntries rest <;> rfl

theorem ofEntries_append (a b : List Text) :
    ofEntries (a ++ b) = both (ofEntries a) (ofEntries b) := by
  induction a with
  | nil => exact (both_nil _).symm
  | cons entry rest ih =>
    rw [List.cons_append, ofEntries_cons, ofEntries_cons, ih]
    cases ofEntry entry with
    | error e => rfl
    | ok grant => exact (both_cons grant _ _).symm

theorem parse_append (a b : Text) : parse (a ++ ',' :: b) = both (parse a) (parse b) := by
  rw [parse, entries_append, ofEntries_append]
  rfl

/-! ## The row of entries -/

/-- The text is these entries, none of which has a comma, with a comma between each two. -/
structure IsRow (t : Text) (row : List Text) : Prop where
  ne_nil : row ≠ []
  no_comma : ∀ entry ∈ row, ',' ∉ entry
  text_eq : t = join ',' row

/-- A text is one row and no other. -/
theorem isRow_iff {t : Text} {row : List Text} : IsRow t row ↔ row = split ',' t := by
  constructor
  · rintro ⟨hne, hcomma, rfl⟩
    exact (split_join hne hcomma).symm
  · rintro rfl
    exact ⟨split_ne_nil ',' t, fun _ => not_mem_of_mem_split, (join_split ',' t).symm⟩

theorem IsRow.parse_eq_error_iff {t : Text} {row : List Text} (h : IsRow t row) {e : ConfigError} :
    parse t = .error e ↔ ∃ entry, FirstMalformed row entry ∧ e = ⟨settingKey, trim entry⟩ := by
  rw [Grant.parse_eq_error_iff, isRow_iff.1 h]

theorem IsRow.fails_iff {t : Text} {row : List Text} (h : IsRow t row) :
    (∃ e, parse t = .error e) ↔ ∃ entry ∈ row, Malformed entry := by
  rw [← exists_firstMalformed_iff]
  simp only [h.parse_eq_error_iff]
  exact ⟨fun ⟨_, entry, hentry, _⟩ => ⟨entry, hentry⟩,
    fun ⟨entry, hentry⟩ => ⟨_, entry, hentry, rfl⟩⟩

/-- A malformed entry is one that is left after trimming and refused. -/
theorem malformed_iff {entry : Text} :
    Malformed entry ↔ trim entry ≠ [] ∧ (ofEntry (trim entry)).isOk = false := by
  rw [ne_eq, trim_eq_nil_iff]
  constructor
  · intro h
    rw [(ofEntry_trim_eq_error_iff h.1).2 ⟨h, rfl⟩]
    exact ⟨h.1, rfl⟩
  · rintro ⟨hsolid, h⟩
    cases hentry : ofEntry (trim entry) with
    | error e => exact ((ofEntry_trim_eq_error_iff hsolid).1 hentry).1
    | ok grant =>
      rw [hentry] at h
      cases h

instance (entry : Text) : Decidable (Malformed entry) := decidable_of_iff _ malformed_iff.symm

/-- The first malformed entry decides the outcome, whatever is written after it. -/
theorem parse_join_of_malformed {before : List Text} {entry : Text}
    (hcomma : ∀ other ∈ before ++ [entry], ',' ∉ other)
    (hbefore : ∀ other ∈ before, ¬Malformed other) (hentry : Malformed entry) (after : List Text) :
    parse (join ',' (before ++ entry :: after)) = .error ⟨settingKey, trim entry⟩ := by
  have hrow : IsRow (join ',' (before ++ [entry])) (before ++ [entry]) :=
    ⟨by simp, hcomma, rfl⟩
  have hfirst : parse (join ',' (before ++ [entry])) = .error ⟨settingKey, trim entry⟩ :=
    hrow.parse_eq_error_iff.2 ⟨entry, ⟨before, [], rfl, hbefore, hentry⟩, rfl⟩
  cases after with
  | nil => exact hfirst
  | cons next more =>
    rw [List.append_cons, join_append (by simp) (by simp), parse_append, hfirst]
    rfl

/-- **A text of grants reads as its parts do, and its first malformed entry is its error.** Where a
comma joins two texts the reading is the error of the first, or else the error of the second, or
else the grants of both. A text is one row of entries without commas. It is refused just if one of
them is malformed, which is to say that it is not blank and has no `=`, or only blanks before its
first one; the error then names the setting and holds the first malformed entry without the blanks
around it. That is so whatever entries come after that one, and no grants are given then. -/
theorem parse_leftmost :
    (∀ a b, parse (a ++ ',' :: b) =
      match parse a with
      | .error e => .error e
      | .ok first =>
        match parse b with
        | .error e => .error e
        | .ok second => .ok (first ++ second)) ∧
    (∀ t, ∃ row, (∀ other, IsRow t other ↔ other = row) ∧
      ((∃ e, parse t = .error e) ↔ ∃ entry ∈ row, Malformed entry) ∧
      ((∃ grants, parse t = .ok grants) ↔ ∀ entry ∈ row, ¬Malformed entry) ∧
      ∀ e, parse t = .error e ↔
        ∃ entry, FirstMalformed row entry ∧ e = ⟨"AAS_DEMO_TOKENS", trim entry⟩) ∧
    ∀ before entry, (∀ other ∈ before ++ [entry], ',' ∉ other) →
      (∀ other ∈ before, ¬Malformed other) → Malformed entry →
      ∀ after, parse (join ',' (before ++ entry :: after)) =
        .error ⟨"AAS_DEMO_TOKENS", trim entry⟩ := by
  refine ⟨fun a b => ?_, fun t => ?_, fun before entry => parse_join_of_malformed⟩
  · rw [parse_append]
    cases parse a with
    | error e => rfl
    | ok first => cases parse b <;> rfl
  · have hrow : IsRow t (split ',' t) := isRow_iff.2 rfl
    refine ⟨split ',' t, fun other => isRow_iff, hrow.fails_iff, ?_,
      fun e => hrow.parse_eq_error_iff⟩
    have hread : (∃ grants, parse t = .ok grants) ↔ ¬∃ e, parse t = .error e := by
      cases parse t <;> simp
    rw [hread, hrow.fails_iff]
    simp only [not_exists, not_and]

/-- A blank token is reported before the entry without `=` that follows it, and the good entries
around them are not given. -/
theorem parse_leftmost_blank_token :
    parse " a=r,, \t= x ,b,c=".toList = .error ⟨"AAS_DEMO_TOKENS", "= x".toList⟩ :=
  parse_leftmost.2.2 [" a=r".toList, []] " \t= x ".toList (by decide) (by decide) (by decide)
    ["b".toList, "c=".toList]

end Grant
end PersonGate
