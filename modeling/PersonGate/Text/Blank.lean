/-!
# Blank characters and trimming

Text is a list of Unicode scalar values. A blank is a character with Unicode's `White_Space`
property; `trim` takes the blanks off both ends and leaves the middle alone. What remains starts
and ends with a character that is no blank (`head_trim`, `getLast_trim`), trimming again changes
nothing (`trim_trim`), and nothing remains exactly of a text of blanks (`trim_eq_nil_iff`).
-/
namespace PersonGate

/-- A text: its Unicode scalar values in order. -/
abbrev Text := List Char

namespace Text

/-- The characters with Unicode's `White_Space` property. -/
def isBlank (c : Char) : Bool :=
  let n := c.toNat
  (0x09 ≤ n && n ≤ 0x0D) || n == 0x20 || n == 0x85 || n == 0xA0 || n == 0x1680
    || (0x2000 ≤ n && n ≤ 0x200A) || n == 0x2028 || n == 0x2029 || n == 0x202F || n == 0x205F
    || n == 0x3000

/-- The text without the characters at its end that satisfy `p`. -/
def dropEnd (p : Char → Bool) (t : Text) : Text := (t.reverse.dropWhile p).reverse

/-- The text without its leading blanks. -/
def trimStart (t : Text) : Text := t.dropWhile isBlank

/-- The text without its trailing blanks. -/
def trimEnd (t : Text) : Text := dropEnd isBlank t

/-- The text without the blanks at both ends. -/
def trim (t : Text) : Text := trimEnd (trimStart t)

theorem dropWhile_nil_iff (p : Char → Bool) (t : Text) :
    t.dropWhile p = [] ↔ ∀ c ∈ t, p c = true := by
  induction t with
  | nil => simp
  | cons c r ih => by_cases h : p c <;> simp [List.dropWhile, h, ih]

/-! ## What `dropEnd` leaves and what it takes -/

@[simp] theorem dropEnd_nil (p : Char → Bool) : dropEnd p [] = [] := rfl

/-- Nothing is lost: the text is what remains followed by the characters taken. -/
theorem dropEnd_append_takeWhile (p : Char → Bool) (t : Text) :
    dropEnd p t ++ (t.reverse.takeWhile p).reverse = t := by
  rw [dropEnd, ← List.reverse_append, List.takeWhile_append_dropWhile, List.reverse_reverse]

theorem dropEnd_eq_nil_iff (p : Char → Bool) (t : Text) :
    dropEnd p t = [] ↔ ∀ c ∈ t, p c = true := by
  rw [dropEnd, List.reverse_eq_nil_iff, dropWhile_nil_iff]
  simp

/-- What remains ends with a character that stays. -/
theorem getLast_dropEnd (p : Char → Bool) (t : Text) {c : Char}
    (h : (dropEnd p t).getLast? = some c) : p c = false := by
  rw [dropEnd, List.getLast?_reverse] at h
  have := List.head?_dropWhile_not p t.reverse
  rw [h] at this
  simpa using this

/-- Removing what is at the end already leaves the text alone. -/
theorem dropEnd_eq_self (p : Char → Bool) (t : Text)
    (h : ∀ c, t.getLast? = some c → p c = false) : dropEnd p t = t := by
  cases hr : t.reverse with
  | nil => simp [dropEnd, List.reverse_eq_nil_iff.1 hr]
  | cons c r =>
    have hc : p c = false := h c (by rw [← List.head?_reverse, hr]; rfl)
    rw [dropEnd, hr, List.dropWhile_cons_of_neg (by simp [hc]), ← hr, List.reverse_reverse]

theorem dropEnd_dropEnd (p : Char → Bool) (t : Text) :
    dropEnd p (dropEnd p t) = dropEnd p t :=
  dropEnd_eq_self p _ fun _ h => getLast_dropEnd p t h

theorem head_dropEnd (p : Char → Bool) (t : Text) (h : dropEnd p t ≠ []) :
    (dropEnd p t).head? = t.head? := by
  conv => rhs; rw [← dropEnd_append_takeWhile p t]
  cases hd : dropEnd p t with
  | nil => exact absurd hd h
  | cons c r => rfl

/-! ## Trimming -/

theorem head_trim (t : Text) {c : Char} (h : (trim t).head? = some c) : isBlank c = false := by
  have hne : trim t ≠ [] := by intro he; simp [he] at h
  rw [trim, trimEnd, head_dropEnd _ _ hne] at h
  have := List.head?_dropWhile_not isBlank t
  rw [← trimStart, h] at this
  simpa using this

theorem getLast_trim (t : Text) {c : Char} (h : (trim t).getLast? = some c) :
    isBlank c = false :=
  getLast_dropEnd isBlank _ h

/-- A text that starts and ends with no blank is trimmed already. -/
theorem trim_eq_self (t : Text) (hs : ∀ c, t.head? = some c → isBlank c = false)
    (he : ∀ c, t.getLast? = some c → isBlank c = false) : trim t = t := by
  have hstart : trimStart t = t := by
    cases t with
    | nil => rfl
    | cons c r => exact List.dropWhile_cons_of_neg (by simp [hs c rfl])
  rw [trim, hstart]
  exact dropEnd_eq_self isBlank t he

theorem trim_trim (t : Text) : trim (trim t) = trim t :=
  trim_eq_self _ (fun _ h => head_trim t h) fun _ h => getLast_trim t h

theorem trim_eq_nil_iff (t : Text) : trim t = [] ↔ ∀ c ∈ t, isBlank c = true := by
  rw [trim, trimEnd, dropEnd_eq_nil_iff]
  constructor
  · intro h c hc
    rw [← List.takeWhile_append_dropWhile (p := isBlank) (l := t), List.mem_append] at hc
    exact hc.elim (List.all_eq_true.1 List.all_takeWhile c) (h c)
  · intro h c hc
    exact h c ((List.dropWhile_sublist _).mem hc)

end Text
end PersonGate
