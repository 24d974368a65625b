import Mathlib.Data.List.Induction
import Mathlib.Data.Nat.Digits.Defs
import PersonGate.Proofs.Config.Settings
/-!
# Which ports are accepted

A port is written as a numeral: ASCII digits that count in base ten, perhaps with one plus sign in
front (`Numeral`). The numerals of a number are its own digits behind any zeros
(`numeral_iff_toDigits`), so there is one for every number, and what decides is whether the number
is at most 65535. A register of that size comes to the same, read digit by digit and given up at the
first step that does not fit (`register?_eq`): what has overflowed once stays too large.

The headline is `lookup_exact`.
-/
namespace PersonGate

namespace Text

/-! ## Numerals -/

/-- What may stand in front of the digits of a number. -/
def IsSign (t : Text) : Prop := t = [] ∨ t = ['+']

/-- The text is digits from `0` to `9`, at least one. -/
def IsDigits (t : Text) : Prop := t ≠ [] ∧ ∀ c ∈ t, '0' ≤ c ∧ c ≤ '9'

/-- The text writes the number in base ten, the last digit counting ones. -/
def Numeral (n : Nat) (t : Text) : Prop :=
  ∃ sign digits, IsSign sign ∧ IsDigits digits ∧ t = sign ++ digits ∧
    n = Nat.ofDigits 10 (digits.reverse.map fun c => c.toNat - '0'.toNat)

theorem isDigits_iff {t : Text} : IsDigits t ↔ t ≠ [] ∧ ∀ c ∈ t, c.isDigit :=
  and_congr_right fun _ => forall₂_congr fun _ _ => Char.isDigit_iff_toNat.symm

theorem IsSign.dropPlus_append {sign digits : Text} (hsign : IsSign sign)
    (hdigits : IsDigits digits) : dropPlus (sign ++ digits) = digits := by
  rcases hsign with rfl | rfl
  · exact dropPlus_of_digits (isDigits_iff.1 hdigits).2
  · rfl

theorem digitsValue_concat (t : Text) (c : Char) :
    digitsValue (t ++ [c]) = 10 * digitsValue t + (c.toNat - '0'.toNat) := by
  rw [digitsValue, List.foldl_append]
  rfl

theorem digitsValue_eq_ofDigits (t : Text) :
    digitsValue t = Nat.ofDigits 10 (t.reverse.map fun c => c.toNat - '0'.toNat) := by
  induction t using List.reverseRecOn with
  | nil => rfl
  | append_singleton init c ih =>
    rw [digitsValue_concat, ih, List.reverse_append, List.reverse_singleton,
      List.singleton_append, List.map_cons, Nat.ofDigits_cons, Nat.add_comm]

theorem numeral_iff {n : Nat} {t : Text} :
    Numeral n t ↔ IsDigits (dropPlus t) ∧ digitsValue (dropPlus t) = n := by
  constructor
  · rintro ⟨sign, digits, hsign, hdigits, rfl, rfl⟩
    rw [hsign.dropPlus_append hdigits]
    exact ⟨hdigits, digitsValue_eq_ofDigits digits⟩
  · rintro ⟨hdigits, rfl⟩
    have hvalue := digitsValue_eq_ofDigits (dropPlus t)
    rcases eq_dropPlus_or t with heq | heq
    · exact ⟨[], dropPlus t, .inl rfl, hdigits, heq, hvalue⟩
    · exact ⟨['+'], dropPlus t, .inr rfl, hdigits, heq, hvalue⟩

theorem unsigned?_eq_some_iff_numeral {bound : Nat} {t : Text} {n : Fin bound} :
    unsigned? bound t = some n ↔ Numeral n t := by
  rw [unsigned?_eq_some_iff, numeral_iff, isDigits_iff, and_assoc]

/-- A number with any blanks around it is a numeral without them. -/
theorem writesNumber_iff {n : Nat} {t : Text} : WritesNumber n t ↔ Numeral n (trim t) := by
  rw [← unsigned?_trim_eq_some_iff (n := ⟨n, n.lt_succ_self⟩), unsigned?_eq_some_iff_numeral]

/-! ## The digits of a number -/

theorem digitChar_digit {c : Char} (h : c.isDigit = true) :
    c.toNat - '0'.toNat < 10 ∧ Nat.digitChar (c.toNat - '0'.toNat) = c := by
  obtain ⟨hlow, hhigh⟩ : 48 ≤ c.toNat ∧ c.toNat ≤ 57 := Char.isDigit_iff_toNat.1 h
  have hlt : c.toNat - 48 < 10 := by omega
  refine ⟨hlt, Char.toNat_inj.1 ?_⟩
  exact (Nat.toNat_digitChar_of_lt_ten hlt).trans (by omega)

/-- Digits are the digits of their number, but for zeros in front. -/
theorem exists_zeros_toDigits {digits : Text} (hne : digits ≠ []) (h : ∀ c ∈ digits, c.isDigit) :
    ∃ zeros, digits = List.replicate zeros '0' ++ Nat.toDigits 10 (digitsValue digits) := by
  -- by the last digit, as a number is made of its tens and its ones
  induction digits using List.reverseRecOn with
  | nil => exact absurd rfl hne
  | append_singleton init c ih =>
    obtain ⟨hlt, hchar⟩ := digitChar_digit (h c (by simp))
    have hlast : Nat.toDigits 10 (c.toNat - '0'.toNat) = [c] := by
      rw [Nat.toDigits_of_lt_base hlt, hchar]
    rw [digitsValue_concat]
    by_cases hinit : init = []
    · have hzero : 10 * digitsValue init = 0 := by rw [hinit]; rfl
      exact ⟨0, by rw [hzero, Nat.zero_add, hlast, hinit]; rfl⟩
    · obtain ⟨zeros, hzeros⟩ := ih hinit fun d hd => h d (by simp [hd])
      rcases Nat.eq_zero_or_pos (digitsValue init) with hzero | hpos
      · -- the number so far is one more zero
        refine ⟨zeros + 1, ?_⟩
        rw [hzero] at hzeros ⊢
        rw [Nat.mul_zero, Nat.zero_add, hlast, List.replicate_succ', hzeros]
        rfl
      · refine ⟨zeros, ?_⟩
        rw [← Nat.toDigits_append_toDigits (by decide) hpos hlt, hlast, ← List.append_assoc,
          ← hzeros]

theorem digitsValue_zeros_toDigits (zeros n : Nat) :
    digitsValue (List.replicate zeros '0' ++ Nat.toDigits 10 n) = n := by
  change Nat.ofDigitChars 10 (List.replicate zeros '0' ++ Nat.toDigits 10 n) 0 = n
  rw [Nat.ofDigitChars_append, Nat.ofDigitChars_replicate_zero, Nat.mul_zero]
  exact Nat.ofDigitChars_toDigits (by decide) (by decide)

/-- The numerals of a number are its digits behind any zeros, signed or not. -/
theorem numeral_iff_toDigits {n : Nat} {t : Text} :
    Numeral n t ↔ ∃ sign zeros, IsSign sign ∧
      t = sign ++ List.replicate zeros '0' ++ Nat.toDigits 10 n := by
  constructor
  · rintro ⟨sign, digits, hsign, hdigits, rfl, hvalue⟩
    rw [← digitsValue_eq_ofDigits] at hvalue
    rw [isDigits_iff] at hdigits
    obtain ⟨zeros, hzeros⟩ := exists_zeros_toDigits hdigits.1 hdigits.2
    exact ⟨sign, zeros, hsign, by rw [List.append_assoc, hvalue, ← hzeros]⟩
  · rintro ⟨sign, zeros, hsign, rfl⟩
    refine ⟨sign, _, hsign, isDigits_iff.2 ⟨by simp, fun c hc => ?_⟩, List.append_assoc .., ?_⟩
    · rcases List.mem_append.1 hc with hc | hc
      · rw [List.eq_of_mem_replicate hc]
        rfl
      · exact Nat.isDigit_of_mem_toDigits (by decide) (by decide) hc
    · rw [← digitsValue_eq_ofDigits]
      exact (digitsValue_zeros_toDigits zeros n).symm

/-! ## A register -/

/-- The number, if a register for numbers below the bound holds it. -/
def fits? (bound n : Nat) : Option Nat := if n < bound then some n else none

/-- The register after one more digit; it must hold the tens as well as the sum. -/
def shiftIn? (bound n : Nat) (c : Char) : Option Nat :=
  (fits? bound (10 * n)).bind fun tens => fits? bound (tens + (c.toNat - '0'.toNat))

/-- The number of the digits, read from the left in a register. -/
def register? (bound : Nat) (digits : Text) : Option Nat := digits.foldlM (shiftIn? bound) 0

theorem shiftIn?_eq (bound n : Nat) (c : Char) :
    shiftIn? bound n c = fits? bound (10 * n + (c.toNat - '0'.toNat)) := by
  unfold shiftIn? fits?
  generalize c.toNat - '0'.toNat = digit
  by_cases htens : 10 * n < bound
  · simp [htens]
  · have hsum : ¬10 * n + digit < bound := by omega
    simp [htens, hsum]

/-- What has overflowed once stays too large, so the register is as good as the number itself. -/
theorem foldlM_shiftIn? {bound n : Nat} (h : n < bound) (digits : Text) :
    digits.foldlM (shiftIn? bound) n = fits? bound (Nat.ofDigitChars 10 digits n) := by
  induction digits generalizing n with
  | nil => simp [fits?, h]
  | cons c rest ih =>
    rw [List.foldlM_cons, shiftIn?_eq, Nat.ofDigitChars_cons]
    generalize 10 * n + (c.toNat - '0'.toNat) = next
    by_cases hnext : next < bound
    · simp only [fits?, hnext, if_true]
      exact ih hnext
    · have hgrows : next ≤ Nat.ofDigitChars 10 rest next := by
        rw [Nat.ofDigitChars_eq_ofDigitChars_zero]
        have := Nat.le_mul_of_pos_left next (Nat.pow_pos (n := rest.length) (by decide : 0 < 10))
        omega
      have hlarge : ¬Nat.ofDigitChars 10 rest next < bound := by omega
      simp [fits?, hnext, hlarge]

theorem register?_eq {bound : Nat} (hbound : 0 < bound) (digits : Text) :
    register? bound digits = fits? bound (digitsValue digits) :=
  foldlM_shiftIn? hbound digits

end Text

/-! ## Both settings -/

namespace ServiceConfig
open Text

/-- The port of a setting: 9003 if it is not set, or the number that it writes if a port can have
it. -/
def PortOf : Option Text → Nat → Prop
  | none, n => n = 9003
  | some raw, n => Numeral n (trim raw) ∧ n ≤ 65535

theorem givesPort_iff {setting : Option Text} {port : Fin 65536} :
    GivesPort setting port ↔ PortOf setting port := by
  cases setting with
  | none => exact Fin.ext_iff
  | some raw =>
    have hport : port.val ≤ 65535 := by omega
    rw [GivesPort, PortOf, writesNumber_iff, and_iff_left hport]

theorem PortOf.lt {setting : Option Text} {n : Nat} (h : PortOf setting n) : n < 65536 := by
  cases setting with
  | none => exact h ▸ (by decide)
  | some raw => exact Nat.lt_succ_of_le h.2

theorem exists_givesPort_iff {setting : Option Text} :
    (∃ port, GivesPort setting port) ↔ ∃ n, PortOf setting n := by
  simp only [givesPort_iff]
  exact ⟨fun ⟨port, h⟩ => ⟨port, h⟩, fun ⟨n, h⟩ => ⟨⟨n, h.lt⟩, h⟩⟩

/-- Digits give a port just if a register of sixteen bits can read them. -/
theorem portOf_iff_register? {raw sign digits : Text} (hsign : IsSign sign)
    (hdigits : IsDigits digits) (htrim : trim raw = sign ++ digits) {n : Nat} :
    PortOf (some raw) n ↔ register? 65536 digits = some n := by
  rw [PortOf, htrim, numeral_iff, hsign.dropPlus_append hdigits, and_iff_right hdigits,
    register?_eq (by decide), fits?, Option.ite_none_right_eq_some, Option.some.injEq]
  constructor
  · rintro ⟨rfl, hle⟩
    exact ⟨Nat.lt_succ_of_le hle, rfl⟩
  · rintro ⟨hlt, rfl⟩
    exact ⟨rfl, Nat.le_of_lt_succ hlt⟩

/-- Two look-ups that agree on the two settings are the same to the service. -/
theorem ofLookup_congr {lookup other : Text → Option Text}
    (hport : other portKey.toList = lookup portKey.toList)
    (hgrants : other Grant.settingKey.toList = lookup Grant.settingKey.toList) :
    ofLookup other = ofLookup lookup := by
  rw [ofLookup, ofLookup, hport, hgrants]

theorem ofLookup_eq_ok_iff {lookup : Text → Option Text} {n : Nat} {grants : List Grant} :
    (∃ config, ofLookup lookup = .ok config ∧ config.port.val = n ∧ config.grants = grants) ↔
      PortOf (lookup portKey.toList) n ∧ GivesGrants (lookup Grant.settingKey.toList) grants := by
  constructor
  · rintro ⟨config, hconfig, rfl, rfl⟩
    cases ofLookup_eq_iff.1 hconfig with
    | good hport hgrants => exact ⟨givesPort_iff.1 hport, hgrants⟩
  · rintro ⟨hport, hgrants⟩
    have hn : n < 65536 := hport.lt
    have hgives : GivesPort (lookup portKey.toList) ⟨n, hn⟩ := givesPort_iff.2 hport
    exact ⟨⟨⟨n, hn⟩, grants⟩, ofLookup_eq_iff.2 (.good hgives hgrants), rfl, rfl⟩

theorem ofLookup_eq_error_iff {lookup : Text → Option Text} {e : ConfigError} :
    ofLookup lookup = .error e ↔
      (∃ raw, lookup portKey.toList = some raw ∧ (∀ n, ¬PortOf (lookup portKey.toList) n) ∧
        e = ⟨portKey, raw⟩) ∨
      (∃ n, PortOf (lookup portKey.toList) n) ∧ ∃ raw entry,
        lookup Grant.settingKey.toList = some raw ∧ Grant.FirstMalformed (split ',' raw) entry ∧
          e = ⟨Grant.settingKey, trim entry⟩ := by
  rw [ofLookup_eq_iff, ← not_exists, ← exists_givesPort_iff]
  constructor
  · intro h
    cases h with
    | badPort hset hbad =>
      refine .inl ⟨_, hset, fun ⟨port, hport⟩ => ?_, rfl⟩
      rw [hset] at hport
      exact hbad port hport
    | badGrants hport hset hbad => exact .inr ⟨⟨_, hport⟩, _, _, hset, hbad, rfl⟩
  · rintro (⟨raw, hset, hbad, rfl⟩ | ⟨⟨port, hport⟩, raw, entry, hset, hbad, rfl⟩)
    · refine .badPort hset fun port hport => hbad ⟨port, ?_⟩
      rw [hset]
      exact hport
    · exact .badGrants hport hset hbad

/-- **Ports are read exactly, and before the grants.** A look-up gives a configuration with a port
and grants just if these are what its two settings give. The port is 9003 if it is not set; else its
text, once trimmed, must be a numeral for it: the number's own digits behind any zeros and perhaps a
plus sign. No number above 65535 is taken, however long its text; a register of sixteen bits that
reads the digits in turn takes and refuses the same ones. A text that gives no port is reported as it
is set, blanks included, whatever the other setting holds. Only a look-up that gives a port can fail
by its grants, and then their first malformed entry is reported. No other setting has a part in
this. -/
theorem lookup_exact (lookup : Text → Option Text) :
    let port? := lookup "AAS_PORT".toList
    let grants? := lookup "AAS_DEMO_TOKENS".toList
    (∀ n grants,
      (∃ config, ofLookup lookup = .ok config ∧ config.port.val = n ∧ config.grants = grants) ↔
        PortOf port? n ∧ GivesGrants grants? grants) ∧
    (∀ e, ofLookup lookup = .error e ↔
      (∃ raw, port? = some raw ∧ (∀ n, ¬PortOf port? n) ∧ e = ⟨"AAS_PORT", raw⟩) ∨
      (∃ n, PortOf port? n) ∧ ∃ raw entry, grants? = some raw ∧
        Grant.FirstMalformed (split ',' raw) entry ∧ e = ⟨"AAS_DEMO_TOKENS", trim entry⟩) ∧
    (∀ raw, port? = some raw →
      (∀ n, PortOf port? n ↔ n ≤ 65535 ∧ ∃ sign zeros, IsSign sign ∧
        trim raw = sign ++ List.replicate zeros '0' ++ Nat.toDigits 10 n) ∧
      (∀ sign digits, IsSign sign → IsDigits digits → trim raw = sign ++ digits →
        ∀ n, PortOf port? n ↔ register? 65536 digits = some n) ∧
      ((∀ n, ¬PortOf port? n) → ∀ other : Text → Option Text,
        other "AAS_PORT".toList = some raw → ofLookup other = .error ⟨"AAS_PORT", raw⟩)) ∧
    ∀ other, other "AAS_PORT".toList = port? → other "AAS_DEMO_TOKENS".toList = grants? →
      ofLookup other = ofLookup lookup := by
  intro port? grants?
  refine ⟨fun n grants => ofLookup_eq_ok_iff, fun e => ofLookup_eq_error_iff, ?_,
    fun other => ofLookup_congr⟩
  intro raw hraw
  rw [hraw]
  refine ⟨fun n => ?_, fun sign digits hsign hdigits htrim n => ?_, fun hbad other hother => ?_⟩
  · rw [PortOf, numeral_iff_toDigits, and_comm]
  · rw [portOf_iff_register? hsign hdigits htrim]
  · refine ofLookup_eq_error_iff.2 (.inl ⟨raw, hother, ?_, rfl⟩)
    rw [show other portKey.toList = some raw from hother]
    exact hbad

/-- One more than the last port is refused behind a sign and zeros, and reported with its blanks
before the bad grants are looked at. -/
theorem lookup_exact_overflow :
    let raw := " +0065536\n".toList
    let settings := [("AAS_PORT".toList, raw), ("AAS_DEMO_TOKENS".toList, "alpha".toList)]
    let lookup (key : Text) := settings.lookup key
    let other (key : Text) := (("HOME".toList, []) :: settings).lookup key
    (∀ n, ¬PortOf (some raw) n) ∧ ofLookup lookup = .error ⟨"AAS_PORT", raw⟩ ∧
      ofLookup other = ofLookup lookup := by
  intro raw settings lookup other
  have hport : lookup "AAS_PORT".toList = some raw := by decide
  obtain ⟨-, -, hset, hsame⟩ := lookup_exact lookup
  obtain ⟨-, hregister, hrefused⟩ := hset raw hport
  have hdigits : IsDigits "0065536".toList := isDigits_iff.2 ⟨by decide, List.all_eq_true.1 rfl⟩
  have hfull : register? 65536 "0065536".toList = none := by decide
  have hbad : ∀ n, ¬PortOf (some raw) n := by
    intro n hn
    have hread := (hregister ['+'] _ (.inr rfl) hdigits (by decide) n).1 (hport ▸ hn)
    rw [hfull] at hread
    cases hread
  exact ⟨hbad, hrefused (hport ▸ hbad) lookup hport, hsame other (by decide) (by decide)⟩

end ServiceConfig
end PersonGate
