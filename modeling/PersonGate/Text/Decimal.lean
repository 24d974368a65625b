import PersonGate.Text.Blank
/-!
# Unsigned decimal numbers

A number is written as an optional plus sign and one or more ASCII digits, leading zeros allowed,
and nothing else: no blanks, no minus sign, no separators. `unsigned?` reads one below a bound and
refuses a larger one; it never wraps (`unsigned?_eq_some_iff`).
-/
namespace PersonGate.Text

/-- The number that a text of digits writes. -/
def digitsValue (t : Text) : Nat := t.foldl (fun n c => 10 * n + (c.toNat - '0'.toNat)) 0

/-- The text without one leading plus sign. -/
def dropPlus : Text → Text
  | '+' :: rest => rest
  | t => t

/-- The number below `bound` that the text writes. -/
def unsigned? (bound : Nat) (t : Text) : Option (Fin bound) :=
  let digits := dropPlus t
  if digits ≠ [] ∧ digits.all Char.isDigit then
    if h : digitsValue digits < bound then some ⟨digitsValue digits, h⟩ else none
  else none

theorem unsigned?_eq_some_iff {bound : Nat} {t : Text} {n : Fin bound} :
    unsigned? bound t = some n ↔
      dropPlus t ≠ [] ∧ (∀ c ∈ dropPlus t, c.isDigit) ∧ digitsValue (dropPlus t) = n := by
  unfold unsigned?
  simp only [List.all_eq_true]
  split
  · rename_i h
    split
    · simp [h.1, Fin.ext_iff]; exact fun _ => h.2
    · rename_i hb
      simp only [reduceCtorEq, false_iff]
      rintro ⟨-, -, hv⟩
      exact hb (hv ▸ n.isLt)
  · rename_i h
    simp only [reduceCtorEq, false_iff]
    rintro ⟨h1, h2, -⟩
    exact h ⟨h1, h2⟩

/-- Nothing but a sign is dropped. -/
theorem eq_dropPlus_or (t : Text) : t = dropPlus t ∨ t = '+' :: dropPlus t := by
  unfold dropPlus
  split
  · exact .inr rfl
  · exact .inl rfl

/-- No digit is a sign. -/
theorem dropPlus_of_digits {t : Text} (h : ∀ c ∈ t, c.isDigit) : dropPlus t = t := by
  unfold dropPlus
  split
  · exact absurd (h '+' List.mem_cons_self) (by decide)
  · rfl

/-- A number that is written in digits is read back. -/
theorem unsigned?_toDigits {bound : Nat} (n : Fin bound) :
    unsigned? bound (Nat.toDigits 10 n) = some n := by
  have hdigits : ∀ c ∈ Nat.toDigits 10 n, c.isDigit :=
    fun c hc => Nat.isDigit_of_mem_toDigits (by decide) (by decide) hc
  rw [unsigned?_eq_some_iff, dropPlus_of_digits hdigits]
  exact ⟨Nat.toDigits_ne_nil, hdigits, Nat.ofDigitChars_toDigits (by decide) (by decide)⟩

end PersonGate.Text
