import PersonGate.Text.Blank
/-!
# Lower-case hexadecimal

Each byte is written as two digits `0`–`9`, `a`–`f`, the high half first (`mem_encodeHex`). Reading
the pairs back gives the bytes (`decodeHex?_encodeHex`), so different bytes have different texts.
-/
namespace PersonGate.Text

/-- The digits in ascending order. -/
def hexDigits : Text := "0123456789abcdef".toList

/-- The digit for a value below sixteen. -/
def hexDigit (n : Nat) : Char :=
  if n < 10 then Char.ofNat ('0'.toNat + n) else Char.ofNat ('a'.toNat + (n - 10))

/-- The value of a lower-case hexadecimal digit. -/
def hexValue? (c : Char) : Option Nat :=
  if '0' ≤ c ∧ c ≤ '9' then some (c.toNat - '0'.toNat)
  else if 'a' ≤ c ∧ c ≤ 'f' then some (c.toNat - 'a'.toNat + 10)
  else none

/-- Two digits for every byte. -/
def encodeHex : List UInt8 → Text
  | [] => []
  | b :: rest => hexDigit (b.toNat / 16) :: hexDigit (b.toNat % 16) :: encodeHex rest

/-- The bytes that pairs of digits write. -/
def decodeHex? : Text → Option (List UInt8)
  | [] => some []
  | [_] => none
  | high :: low :: rest => do
    let h ← hexValue? high
    let l ← hexValue? low
    let bytes ← decodeHex? rest
    return UInt8.ofNat (16 * h + l) :: bytes

theorem hexValue?_hexDigit : ∀ n < 16, hexValue? (hexDigit n) = some n := by decide

theorem mem_hexDigits_iff {c : Char} : c ∈ hexDigits ↔ ∃ n < 16, hexDigit n = c := by
  have hdigits : hexDigits = (List.range 16).map hexDigit := by decide
  simp only [hdigits, List.mem_map, List.mem_range]

theorem hexDigit_mem {n : Nat} (h : n < 16) : hexDigit n ∈ hexDigits :=
  mem_hexDigits_iff.2 ⟨n, h, rfl⟩

theorem mem_encodeHex {bytes : List UInt8} {c : Char} (h : c ∈ encodeHex bytes) :
    c ∈ hexDigits := by
  induction bytes with
  | nil => simp [encodeHex] at h
  | cons b rest ih =>
    have hb := b.toNat_lt
    simp only [encodeHex, List.mem_cons] at h
    rcases h with rfl | rfl | h
    · exact hexDigit_mem (by omega)
    · exact hexDigit_mem (by omega)
    · exact ih h

theorem length_encodeHex (bytes : List UInt8) : (encodeHex bytes).length = 2 * bytes.length := by
  induction bytes with
  | nil => rfl
  | cons b r ih => simp [encodeHex, ih]; omega

theorem decodeHex?_encodeHex (bytes : List UInt8) : decodeHex? (encodeHex bytes) = some bytes := by
  induction bytes with
  | nil => rfl
  | cons b r ih =>
    have hb := b.toNat_lt
    have hh := hexValue?_hexDigit (b.toNat / 16) (by omega)
    have hl := hexValue?_hexDigit (b.toNat % 16) (by omega)
    have hv : UInt8.ofNat (16 * (b.toNat / 16) + b.toNat % 16) = b := by
      rw [Nat.div_add_mod]; exact UInt8.ofNat_toNat
    simp only [encodeHex, decodeHex?, hh, hl, ih, hv, bind, Option.bind, pure]

theorem encodeHex_injective {a b : List UInt8} (h : encodeHex a = encodeHex b) : a = b := by
  have hread := decodeHex?_encodeHex a
  rw [h, decodeHex?_encodeHex] at hread
  exact (Option.some.inj hread).symm

end PersonGate.Text
