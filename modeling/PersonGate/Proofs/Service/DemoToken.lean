import Mathlib.Data.Nat.Digits.Defs
import PersonGate.Client.Exchange
import PersonGate.Proofs.Text.Padded
import PersonGate.Service.Launch
/-!
# Tokens that the service makes up

The service makes a token of random bytes by writing each in hexadecimal, with a zero in front where
one digit would do (`writeHex_eq`). No byte is lost by that: every text of lower-case digits that has
an even length comes from just one row of bytes (`exists_encodeHex_iff`). Digits need no care
wherever a token may stand, be it a header or a list of grants.

The headline is `demoToken_exact`.
-/
namespace PersonGate

namespace Text

/-! ## Writing bytes one after the other -/

/-- The number in base sixteen, with zeros in front up to the width. -/
def paddedHex (width n : Nat) : Text := (Nat.toDigits 16 n).leftpad width '0'

/-- What was written and the bytes behind it, each as two digits. -/
def writeHex (written : Text) (bytes : List UInt8) : Text :=
  bytes.foldl (fun written b => written ++ paddedHex 2 b.toNat) written

theorem toDigits_eq_hexDigit {n : Nat} (h : n < 16) : Nat.toDigits 16 n = [hexDigit n] := by
  have hsame : ∀ n < 16, Nat.digitChar n = hexDigit n := by decide
  rw [Nat.toDigits_of_lt_base h, hsame n h]

theorem paddedHex_two {n : Nat} (h : n < 256) :
    paddedHex 2 n = [hexDigit (n / 16), hexDigit (n % 16)] := by
  have hlow : n % 16 < 16 := Nat.mod_lt _ (by decide)
  rcases Nat.eq_zero_or_pos (n / 16) with hzero | hpos
  · -- one digit, and the zero is the padding
    have hn : n % 16 = n := by omega
    rw [hzero, hn, paddedHex, toDigits_eq_hexDigit (hn ▸ hlow)]
    rfl
  · have hdigits : Nat.toDigits 16 n = [hexDigit (n / 16), hexDigit (n % 16)] := by
      rw [← toDigits_eq_hexDigit hlow, ← List.singleton_append,
        ← toDigits_eq_hexDigit (by omega : n / 16 < 16),
        Nat.toDigits_append_toDigits (by decide) hpos hlow, Nat.div_add_mod]
    rw [paddedHex, hdigits]
    rfl

theorem encodeHex_eq_flatMap (bytes : List UInt8) :
    encodeHex bytes = bytes.flatMap fun b => paddedHex 2 b.toNat := by
  induction bytes with
  | nil => rfl
  | cons b rest ih =>
    rw [encodeHex, ih, List.flatMap_cons, paddedHex_two b.toNat_lt]
    rfl

theorem writeHex_eq (written : Text) (bytes : List UInt8) :
    writeHex written bytes = written ++ encodeHex bytes := by
  rw [writeHex, List.foldl_append_eq_append, encodeHex_eq_flatMap, List.flatMap_def]

/-! ## Texts that bytes write -/

theorem encodeHex_pair {high low : Nat} (hhigh : high < 16) (hlow : low < 16)
    (bytes : List UInt8) :
    encodeHex (UInt8.ofNat (16 * high + low) :: bytes) =
      hexDigit high :: hexDigit low :: encodeHex bytes := by
  have hbyte : (UInt8.ofNat (16 * high + low)).toNat = 16 * high + low :=
    UInt8.toNat_ofNat_of_lt' (show 16 * high + low < 256 by omega)
  have hdiv : (16 * high + low) / 16 = high := by omega
  have hmod : (16 * high + low) % 16 = low := by omega
  rw [encodeHex, hbyte, hdiv, hmod]

/-- Digits in pairs are what some row of bytes writes. -/
theorem exists_encodeHex_iff {n : Nat} {t : Text} :
    (∃ bytes : List UInt8, bytes.length = n ∧ encodeHex bytes = t) ↔
      t.length = 2 * n ∧ ∀ c ∈ t, c ∈ hexDigits := by
  constructor
  · rintro ⟨bytes, rfl, rfl⟩
    exact ⟨length_encodeHex bytes, fun c => mem_encodeHex⟩
  · rintro ⟨hlength, hdigits⟩
    induction n generalizing t with
    | zero => exact ⟨[], rfl, (List.length_eq_zero_iff.1 hlength).symm⟩
    | succ n ih =>
      match t, hlength with
      | high :: low :: rest, hlength =>
        simp only [List.forall_mem_cons] at hdigits
        obtain ⟨h, hh, rfl⟩ := mem_hexDigits_iff.1 hdigits.1
        obtain ⟨l, hl, rfl⟩ := mem_hexDigits_iff.1 hdigits.2.1
        rw [List.length_cons, List.length_cons] at hlength
        obtain ⟨bytes, hbytes, rfl⟩ := ih (by omega) hdigits.2.2
        exact ⟨_, congrArg (· + 1) hbytes, encodeHex_pair hh hl bytes⟩

end Text

/-! ## Tokens -/

namespace Service
open Text Http

theorem isBlank_hexDigit : ∀ n < 16, isBlank (hexDigit n) = false := by decide

theorem isSendable_hexDigit : ∀ n < 16, isSendable (hexDigit n) = true := by decide

theorem not_mem_demoToken {c : Char} (h : c ∉ hexDigits) (random : List UInt8) :
    c ∉ demoToken random :=
  fun hmem => h (mem_encodeHex hmem)

theorem trim_demoToken (random : List UInt8) : trim (demoToken random) = demoToken random := by
  apply trim_of_no_blank
  intro c hc
  obtain ⟨n, hn, rfl⟩ := mem_hexDigits_iff.1 (mem_encodeHex hc)
  exact isBlank_hexDigit n hn

theorem isSendable_demoToken {random : List UInt8} {c : Char} (h : c ∈ demoToken random) :
    isSendable c = true := by
  obtain ⟨n, hn, rfl⟩ := mem_hexDigits_iff.1 (mem_encodeHex h)
  exact isSendable_hexDigit n hn

/-- The header with a made-up token is sent as it is. -/
theorem header?_demoToken (random : List UInt8) :
    let header : Header :=
      ⟨Request.authorizationName, BearerToken.authorization ⟨demoToken random⟩⟩
    Request.header? header = some header := by
  intro header
  have hname : isHeaderName Request.authorizationName = true := by decide
  have hvalue : header.value.all isSendable = true := by
    rw [all_isSendable_authorization]
    exact List.all_eq_true.2 fun _ => isSendable_demoToken
  exact if_pos (Bool.and_eq_true_iff.2 ⟨hname, hvalue⟩)

theorem ofText_demoToken {random : List UInt8} (h : random ≠ []) :
    BearerToken.ofText (demoToken random) = .ok ⟨demoToken random⟩ := by
  have hpos : 0 < (demoToken random).length := by
    rw [demoToken, length_encodeHex]
    exact Nat.mul_pos (by decide) (List.length_pos_iff.2 h)
  rw [BearerToken.ofText_eq_ok_iff, trim_demoToken]
  exact ⟨rfl, List.length_pos_iff.1 hpos⟩

/-- **A made-up token tells its bytes, and is safe wherever a token may stand.** It is made by
writing the bytes one after the other, each in base sixteen and with a zero in front of a single
digit. So it has twice as many characters as there are bytes, all of them lower-case digits, and
reading the pairs gives the bytes back. Tokens are the same just if their bytes are, and those of 32
bytes are all the texts of 64 digits. A token has no blanks to be trimmed and none of the separators
of a list of grants, it may stand in a header, where it is sent without a change, and unless it is
empty it is a bearer token as it is. -/
theorem demoToken_exact :
    (∀ written random, writeHex written random = written ++ demoToken random) ∧
    (∀ random, (demoToken random).length = 2 * random.length ∧
      (∀ c ∈ demoToken random, c ∈ "0123456789abcdef".toList) ∧
      decodeHex? (demoToken random) = some random) ∧
    (∀ a b, demoToken a = demoToken b ↔ a = b) ∧
    (∀ t, (∃ random, random.length = demoTokenBytes ∧ demoToken random = t) ↔
      t.length = 64 ∧ ∀ c ∈ t, c ∈ "0123456789abcdef".toList) ∧
    ∀ random, let token := demoToken random
      let header : Header := ⟨Request.authorizationName, BearerToken.authorization ⟨token⟩⟩
      trim token = token ∧ (∀ c ∈ token, isSendable c = true) ∧
      Request.header? header = some header ∧ ',' ∉ token ∧ '=' ∉ token ∧ '|' ∉ token ∧
      (random ≠ [] → BearerToken.ofText token = .ok ⟨token⟩) := by
  refine ⟨writeHex_eq, fun random => ?_, fun a b => ?_, fun t => exists_encodeHex_iff,
    fun random => ?_⟩
  · exact ⟨length_encodeHex random, fun c => mem_encodeHex, decodeHex?_encodeHex random⟩
  · exact ⟨encodeHex_injective, congrArg demoToken⟩
  · exact ⟨trim_demoToken random, fun c => isSendable_demoToken, header?_demoToken random,
      not_mem_demoToken (by decide) random, not_mem_demoToken (by decide) random,
      not_mem_demoToken (by decide) random, ofText_demoToken⟩

/-- With single digits these bytes would have one text in common. -/
theorem demoToken_exact_padded :
    let random : List UInt8 := [1, 16]
    let other : List UInt8 := [17, 0]
    demoToken random = "0110".toList ∧ demoToken random ≠ demoToken other ∧
      random ≠ [] ∧ BearerToken.ofText (demoToken random) = .ok ⟨demoToken random⟩ ∧
      '1' ∈ demoToken random ∧ isSendable '1' = true ∧ '1' ∈ "0123456789abcdef".toList := by
  intro random other
  obtain ⟨-, hdigits, hsame, -, hsafe⟩ := demoToken_exact
  obtain ⟨-, hsendable, -, -, -, -, hbearer⟩ := hsafe random
  have hne : random ≠ [] := by decide
  have hmem : '1' ∈ demoToken random := by decide
  refine ⟨by decide, ?_, hne, hbearer hne, hmem, hsendable _ hmem, (hdigits random).2.1 _ hmem⟩
  rw [ne_eq, hsame]
  decide

end Service
end PersonGate
