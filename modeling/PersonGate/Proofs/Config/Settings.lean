import PersonGate.Config.Service
import PersonGate.Proofs.Config.GrantText
/-!
# Which settings the service takes

A port is written as a number in digits below 65536 (`unsigned?_trim_eq_some_iff`). A text of grants
is refused exactly when one of its entries is malformed, and the first such entry is reported
(`parse_eq_error_iff`). `Reads` is what a look-up of both settings gives: the port is read before
the grants, so a bad port is what is reported if both are bad (`ofLookup_eq_iff`).
-/
namespace PersonGate

namespace Text

/-- The text writes the number in digits, perhaps with a plus sign, and with any blanks around. -/
def WritesNumber (n : Nat) (t : Text) : Prop :=
  ∃ core digits, Padded core t ∧ (core = digits ∨ core = '+' :: digits) ∧ digits ≠ [] ∧
    (∀ c ∈ digits, c.isDigit) ∧ digitsValue digits = n

theorem isBlank_of_isDigit {c : Char} (h : c.isDigit = true) : isBlank c = false := by
  obtain ⟨hlow, hhigh⟩ : 48 ≤ c.toNat ∧ c.toNat ≤ 57 := Char.isDigit_iff_toNat.1 h
  simp only [isBlank, Bool.or_eq_false_iff, Bool.and_eq_false_iff, decide_eq_false_iff_not,
    beq_eq_false_iff_ne]
  omega

/-- With blanks around it a number is read just if it is written and not too large. -/
theorem unsigned?_trim_eq_some_iff {bound : Nat} {t : Text} {n : Fin bound} :
    unsigned? bound (trim t) = some n ↔ WritesNumber n t := by
  rw [unsigned?_eq_some_iff]
  constructor
  · rintro ⟨hne, hdigits, hvalue⟩
    exact ⟨trim t, dropPlus (trim t), padded_trim t, eq_dropPlus_or _, hne, hdigits, hvalue⟩
  · rintro ⟨core, digits, hpad, hcore, hne, hdigits, hvalue⟩
    have hdrop : dropPlus core = digits := by
      rcases hcore with rfl | rfl
      · exact dropPlus_of_digits hdigits
      · rfl
    have hsolid : ∀ c ∈ core, isBlank c = false := by
      intro c hc
      rcases hcore with rfl | rfl
      · exact isBlank_of_isDigit (hdigits c hc)
      · rcases List.mem_cons.1 hc with rfl | hc
        · decide
        · exact isBlank_of_isDigit (hdigits c hc)
    rw [hpad.trim_eq, trim_of_no_blank hsolid, hdrop]
    exact ⟨hne, hdigits, hvalue⟩

end Text

/-! ## Malformed grants -/

namespace Grant
open Text

/-- The entry is not blank, and it has no `=` or nothing but blanks before its first. -/
def Malformed (entry : Text) : Prop :=
  ¬Blank entry ∧
    ('=' ∉ entry ∨ ∃ before after, entry = before ++ '=' :: after ∧ Blank before)

/-- Of these entries it is the first one that is malformed. -/
def FirstMalformed (entries : List Text) (entry : Text) : Prop :=
  ∃ before after, entries = before ++ entry :: after ∧ (∀ other ∈ before, ¬Malformed other) ∧
    Malformed entry

theorem firstMalformed_cons_of_malformed {first : Text} (h : Malformed first) (rest : List Text)
    {entry : Text} : FirstMalformed (first :: rest) entry ↔ entry = first := by
  constructor
  · rintro ⟨before, after, heq, hbefore, -⟩
    cases before with
    | nil =>
      cases heq
      rfl
    | cons other more =>
      cases heq
      exact absurd h (hbefore first List.mem_cons_self)
  · rintro rfl
    exact ⟨[], rest, rfl, by simp, h⟩

theorem firstMalformed_cons_of_not {first : Text} (h : ¬Malformed first) (rest : List Text)
    {entry : Text} : FirstMalformed (first :: rest) entry ↔ FirstMalformed rest entry := by
  constructor
  · rintro ⟨before, after, heq, hbefore, hentry⟩
    cases before with
    | nil =>
      cases heq
      exact absurd hentry h
    | cons other more =>
      cases heq
      exact ⟨more, after, rfl, fun other ho => hbefore other (List.mem_cons_of_mem _ ho), hentry⟩
  · rintro ⟨before, after, rfl, hbefore, hentry⟩
    exact ⟨first :: before, after, rfl, by simpa using ⟨h, hbefore⟩, hentry⟩

/-- If some entry is malformed then one of them is the first. -/
theorem exists_firstMalformed_iff {entries : List Text} :
    (∃ entry, FirstMalformed entries entry) ↔ ∃ entry ∈ entries, Malformed entry := by
  constructor
  · rintro ⟨entry, before, after, rfl, -, hentry⟩
    exact ⟨entry, by simp, hentry⟩
  · rintro ⟨entry, hmem, hentry⟩
    induction entries with
    | nil => cases hmem
    | cons first rest ih =>
      by_cases hfirst : Malformed first
      · exact ⟨first, (firstMalformed_cons_of_malformed hfirst rest).2 rfl⟩
      · rcases List.mem_cons.1 hmem with rfl | hmem
        · exact absurd hentry hfirst
        · obtain ⟨found, hfound⟩ := ih hmem
          exact ⟨found, (firstMalformed_cons_of_not hfirst rest).2 hfound⟩

/-- A token of blanks is one before the first `=` of the entry. -/
theorem blank_before_iff {entry token roles : Text}
    (hcut : cut? '=' (trim entry) = some (token, roles)) :
    (∃ before after, entry = before ++ '=' :: after ∧ Blank before) ↔ Blank token := by
  obtain ⟨hequals, hsplit⟩ := cut?_eq_some_iff.1 hcut
  obtain ⟨front, back, hfront, hback, hentry⟩ := padded_trim entry
  have hwhole : entry = (front ++ token) ++ '=' :: (roles ++ back) := by
    rw [hentry, hsplit]
    simp
  have hfirst : '=' ∉ front ++ token := by
    rw [List.mem_append, not_or]
    exact ⟨hfront.not_mem (by decide), hequals⟩
  constructor
  · rintro ⟨before, after, heq, hblank⟩ c hc
    -- the first `=` is at one place, whatever is said to stand before it
    have hsame : some (before, after) = some (front ++ token, roles ++ back) :=
      (cut?_eq_some_iff.2 ⟨hblank.not_mem (by decide), heq⟩).symm.trans
        (cut?_eq_some_iff.2 ⟨hfirst, hwhole⟩)
    obtain ⟨rfl, -⟩ := Prod.mk.inj (Option.some.inj hsame)
    exact hblank c (List.mem_append_right front hc)
  · intro hblank
    refine ⟨front ++ token, roles ++ back, hwhole, fun c hc => ?_⟩
    exact (List.mem_append.1 hc).elim (hfront c) (hblank c)

/-- An entry is refused just if it is malformed, and reported as it is. -/
theorem ofEntry_trim_eq_error_iff {entry : Text} (hsolid : ¬Blank entry) {e : ConfigError} :
    ofEntry (trim entry) = .error e ↔ Malformed entry ∧ e = ⟨settingKey, trim entry⟩ := by
  rw [Malformed, and_iff_right hsolid, ofEntry]
  cases hcut : cut? '=' (trim entry) with
  | none =>
    have hnone : '=' ∉ entry := by
      rw [← mem_trim_iff (by decide)]
      exact cut?_eq_none_iff.1 hcut
    simp only [hnone, not_false_eq_true, true_or, true_and, Except.error.injEq]
    exact eq_comm
  | some parts =>
    obtain ⟨token, roles⟩ := parts
    have hmem : '=' ∈ entry := by
      rw [← mem_trim_iff (by decide), (cut?_eq_some_iff.1 hcut).2]
      simp
    have htoken : trim token = [] ↔ Blank token := trim_eq_nil_iff token
    simp only [hmem, not_true_eq_false, false_or, blank_before_iff hcut, ← htoken]
    split
    · rename_i hblank
      simp only [hblank, true_and, Except.error.injEq]
      exact eq_comm
    · rename_i hne
      simp [hne]

theorem ofEntries_eq_error_iff {pieces : List Text} {e : ConfigError} :
    ofEntries (trimmed pieces) = .error e ↔
      ∃ entry, FirstMalformed pieces entry ∧ e = ⟨settingKey, trim entry⟩ := by
  induction pieces with
  | nil =>
    constructor
    · intro h
      cases h
    · rintro ⟨entry, ⟨before, after, hnil, -⟩, -⟩
      simp at hnil
  | cons piece rest ih =>
    by_cases hblank : Blank piece
    · have hfine : ¬Malformed piece := fun h => h.1 hblank
      rw [trimmed_cons_blank hblank, ih]
      simp only [firstMalformed_cons_of_not hfine]
    · have hsolid : trim piece ≠ [] := mt (trim_eq_nil_iff piece).1 hblank
      rw [trimmed_cons hsolid, ofEntries]
      cases hentry : ofEntry (trim piece) with
      | error cause =>
        obtain ⟨hbad, rfl⟩ := (ofEntry_trim_eq_error_iff hblank).1 hentry
        simp only [firstMalformed_cons_of_malformed hbad, exists_eq_left, Except.error.injEq]
        exact eq_comm
      | ok grant =>
        have hfine : ¬Malformed piece := by
          intro hbad
          have herror := (ofEntry_trim_eq_error_iff hblank).2 ⟨hbad, rfl⟩
          rw [hentry] at herror
          cases herror
        simp only [firstMalformed_cons_of_not hfine, ← ih]
        cases ofEntries (trimmed rest) <;> simp

/-- A text of grants is refused just if some entry is malformed, and the first is reported. -/
theorem parse_eq_error_iff {t : Text} {e : ConfigError} :
    parse t = .error e ↔
      ∃ entry, FirstMalformed (split ',' t) entry ∧ e = ⟨settingKey, trim entry⟩ :=
  ofEntries_eq_error_iff

/-- A text writes no grants just if there are only blanks between its commas. -/
theorem parse_eq_ok_nil_iff {t : Text} :
    parse t = .ok [] ↔ ∀ entry ∈ split ',' t, Blank entry := by
  have hnil : ∀ entries, ofEntries entries = .ok [] ↔ entries = [] := by
    intro entries
    cases entries with
    | nil => simp [ofEntries]
    | cons entry rest =>
      rw [ofEntries]
      cases ofEntry entry with
      | error cause => simp
      | ok grant => cases ofEntries rest <;> simp
  rw [parse, hnil, entries, List.filter_eq_nil_iff, List.forall_mem_map]
  refine forall₂_congr fun entry _ => ?_
  rw [decide_eq_true_eq, Decidable.not_not]
  exact trim_eq_nil_iff entry

end Grant

/-! ## Both settings -/

namespace ServiceConfig
open Text

/-- The port that a setting gives: the one that it writes, or the default if it is not set. -/
def GivesPort : Option Text → Fin 65536 → Prop
  | none, port => port = defaultPort
  | some raw, port => WritesNumber port raw

/-- The grants that a setting gives: those that it writes, or none if it is not set. -/
def GivesGrants : Option Text → List Grant → Prop
  | none, grants => grants = []
  | some raw, grants => Grant.parse raw = .ok grants

/-- What a look-up of the two settings gives. A bad port is reported as it is set, bad grants by
their first malformed entry, and only if the port is good. -/
inductive Reads (lookup : Text → Option Text) : Except ConfigError ServiceConfig → Prop
  | badPort {raw : Text} (hset : lookup portKey.toList = some raw)
    (hbad : ∀ port : Fin 65536, ¬WritesNumber port raw) : Reads lookup (.error ⟨portKey, raw⟩)
  | badGrants {port : Fin 65536} (hport : GivesPort (lookup portKey.toList) port) {raw entry : Text}
    (hset : lookup Grant.settingKey.toList = some raw)
    (hbad : Grant.FirstMalformed (split ',' raw) entry) :
    Reads lookup (.error ⟨Grant.settingKey, trim entry⟩)
  | good {port : Fin 65536} (hport : GivesPort (lookup portKey.toList) port) {grants : List Grant}
    (hgrants : GivesGrants (lookup Grant.settingKey.toList) grants) :
    Reads lookup (.ok ⟨port, grants⟩)

theorem readPort_eq_ok_iff {setting : Option Text} {port : Fin 65536} :
    readPort setting = .ok port ↔ GivesPort setting port := by
  cases setting with
  | none => simp [readPort, GivesPort, eq_comm]
  | some raw =>
    rw [readPort, GivesPort, ← unsigned?_trim_eq_some_iff]
    cases unsigned? 65536 (trim raw) <;> simp

theorem readPort_eq_error_iff {setting : Option Text} {e : ConfigError} :
    readPort setting = .error e ↔ ∃ raw, setting = some raw ∧
      (∀ port : Fin 65536, ¬WritesNumber port raw) ∧ e = ⟨portKey, raw⟩ := by
  cases setting with
  | none => simp [readPort]
  | some raw =>
    simp only [readPort, Option.some.injEq, exists_eq_left', ← unsigned?_trim_eq_some_iff]
    cases unsigned? 65536 (trim raw) <;> simp [eq_comm]

theorem readGrants_eq_ok_iff {setting : Option Text} {grants : List Grant} :
    readGrants setting = .ok grants ↔ GivesGrants setting grants := by
  cases setting with
  | none => simp [readGrants, GivesGrants, eq_comm]
  | some raw => rfl

theorem readGrants_eq_error_iff {setting : Option Text} {e : ConfigError} :
    readGrants setting = .error e ↔ ∃ raw entry, setting = some raw ∧
      Grant.FirstMalformed (split ',' raw) entry ∧ e = ⟨Grant.settingKey, trim entry⟩ := by
  cases setting with
  | none => simp [readGrants]
  | some raw => simp [readGrants, Grant.parse_eq_error_iff]

/-- A look-up gives what it is said to give, and nothing else. -/
theorem ofLookup_eq_iff {lookup : Text → Option Text} {result : Except ConfigError ServiceConfig} :
    ofLookup lookup = result ↔ Reads lookup result := by
  constructor
  · rintro rfl
    unfold ofLookup
    split
    · rename_i e hport
      obtain ⟨raw, hset, hbad, rfl⟩ := readPort_eq_error_iff.1 hport
      exact .badPort hset hbad
    · rename_i port hport
      rw [readPort_eq_ok_iff] at hport
      split
      · rename_i e hgrants
        obtain ⟨raw, entry, hset, hbad, rfl⟩ := readGrants_eq_error_iff.1 hgrants
        exact .badGrants hport hset hbad
      · rename_i grants hgrants
        exact .good hport (readGrants_eq_ok_iff.1 hgrants)
  · intro h
    cases h with
    | badPort hset hbad => rw [ofLookup, readPort_eq_error_iff.2 ⟨_, hset, hbad, rfl⟩]
    | badGrants hport hset hbad =>
      rw [ofLookup, readPort_eq_ok_iff.2 hport,
        readGrants_eq_error_iff.2 ⟨_, _, hset, hbad, rfl⟩]
    | good hport hgrants =>
      rw [ofLookup, readPort_eq_ok_iff.2 hport, readGrants_eq_ok_iff.2 hgrants]

end ServiceConfig
end PersonGate
