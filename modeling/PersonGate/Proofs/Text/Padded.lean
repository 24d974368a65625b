import PersonGate.Text.Blank
/-!
# Blanks around a text

The blanks are the 25 code points with Unicode's property `White_Space` (`isBlank_iff`). `Padded`
relates a text to the same text with any blanks around it; trimming takes them off again
(`Padded.trim_eq`), and what it leaves is the only part that has blanks around it and none at its
own ends (`trim_eq_iff`). So two texts are trimmed to the same just if they differ in nothing but
blanks at their ends (`trim_eq_trim_iff`).
-/
namespace PersonGate.Text

/-- The code points with Unicode's property `White_Space`. -/
def whiteSpace : List Nat :=
  [0x0009, 0x000A, 0x000B, 0x000C, 0x000D, 0x0020, 0x0085, 0x00A0, 0x1680, 0x2000, 0x2001, 0x2002,
    0x2003, 0x2004, 0x2005, 0x2006, 0x2007, 0x2008, 0x2009, 0x200A, 0x2028, 0x2029, 0x202F, 0x205F,
    0x3000]

theorem isBlank_iff {c : Char} : isBlank c = true ↔ c.toNat ∈ whiteSpace := by
  unfold isBlank
  generalize c.toNat = n
  have hcontrols : 0x09 ≤ n ∧ n ≤ 0x0D ↔ n ∈ [0x09, 0x0A, 0x0B, 0x0C, 0x0D] := by
    simp only [List.mem_cons, List.not_mem_nil, or_false]
    omega
  have hquads : 0x2000 ≤ n ∧ n ≤ 0x200A ↔ n ∈ List.range' 0x2000 11 := by
    rw [List.mem_range'_1]
    omega
  simp only [Bool.or_eq_true, Bool.and_eq_true, decide_eq_true_eq, beq_iff_eq, hcontrols, hquads]
  simp only [whiteSpace, List.range', List.mem_cons, List.not_mem_nil, or_false, or_assoc]

theorem isBlank_eq_false_iff {c : Char} : isBlank c = false ↔ c.toNat ∉ whiteSpace := by
  rw [← isBlank_iff, Bool.not_eq_true]

/-- Invisible is not blank: neither is the zero width space nor the byte order mark. -/
example : isBlank '\u200b' = false ∧ isBlank '\ufeff' = false := by decide

/-- A text of blanks. -/
def Blank (t : Text) : Prop := ∀ c ∈ t, isBlank c = true

/-- The second text is the first one with any blanks around it. -/
def Padded (core t : Text) : Prop :=
  ∃ before after, Blank before ∧ Blank after ∧ t = before ++ core ++ after

theorem Blank.not_mem {t : Text} (h : Blank t) {c : Char} (hc : isBlank c = false) : c ∉ t :=
  fun hmem => by simp [h c hmem] at hc

theorem trim_of_blank {t : Text} (h : Blank t) : trim t = [] := (trim_eq_nil_iff t).2 h

theorem dropEnd_append_blank {p : Char → Bool} {b : Text} (h : ∀ c ∈ b, p c = true) (t : Text) :
    dropEnd p (t ++ b) = dropEnd p t := by
  rw [dropEnd, List.reverse_append, List.dropWhile_append_of_pos (by simpa using h)]
  rfl

/-- Nothing goes at the end beyond a character that stays. -/
theorem dropEnd_append_cons {p : Char → Bool} {c : Char} (hc : p c = false) (a b : Text) :
    dropEnd p (a ++ c :: b) = a ++ c :: dropEnd p b := by
  have hstay : (c :: a.reverse).dropWhile p = c :: a.reverse :=
    List.dropWhile_cons_of_neg (by simp [hc])
  have hsplit : (a ++ c :: b).reverse = b.reverse ++ c :: a.reverse := by simp
  rw [dropEnd, dropEnd, hsplit, List.dropWhile_append, hstay]
  split
  · rename_i hnil
    simp [List.isEmpty_iff.1 hnil]
  · simp

theorem trim_append_blank {b : Text} (h : Blank b) (t : Text) : trim (t ++ b) = trim t := by
  by_cases ht : Blank t
  · have hall : Blank (t ++ b) := fun c hc => (List.mem_append.1 hc).elim (ht c) (h c)
    rw [trim_of_blank hall, trim_of_blank ht]
  · have hstart : trimStart (t ++ b) = trimStart t ++ b := by
      obtain ⟨c, hmem, hc⟩ : ∃ c ∈ t, isBlank c = false := by
        simpa [Blank] using ht
      obtain ⟨d, hd⟩ : ∃ d, d ∈ t.dropWhile isBlank := by
        refine List.exists_mem_of_ne_nil _ fun hnil => ?_
        simp [(dropWhile_nil_iff isBlank t).1 hnil c hmem] at hc
      rw [trimStart, trimStart, List.dropWhile_append, if_neg]
      simpa [List.isEmpty_iff] using List.ne_nil_of_mem hd
    rw [trim, hstart, trimEnd, dropEnd_append_blank h]
    rfl

theorem trim_blank_append {b : Text} (h : Blank b) (t : Text) : trim (b ++ t) = trim t := by
  rw [trim, trimStart, List.dropWhile_append_of_pos h]
  rfl

theorem Padded.trim_eq {core t : Text} (h : Padded core t) : trim t = trim core := by
  obtain ⟨before, after, hb, ha, rfl⟩ := h
  rw [trim_append_blank ha, trim_blank_append hb]

theorem padded_trim (t : Text) : Padded (trim t) t := by
  refine ⟨t.takeWhile isBlank, ((trimStart t).reverse.takeWhile isBlank).reverse, ?_, ?_, ?_⟩
  · exact fun c hc => List.all_eq_true.1 List.all_takeWhile c hc
  · exact fun c hc => List.all_eq_true.1 List.all_takeWhile c (List.mem_reverse.1 hc)
  · rw [List.append_assoc, trim, trimEnd, dropEnd_append_takeWhile, trimStart,
      List.takeWhile_append_dropWhile]

theorem mem_of_mem_trim {t : Text} {c : Char} (h : c ∈ trim t) : c ∈ t := by
  obtain ⟨before, after, -, -, he⟩ := padded_trim t
  rw [he]
  simp [h]

theorem padded_self (t : Text) : Padded t t := ⟨[], [], by simp [Blank], by simp [Blank], by simp⟩

/-- Where there are no blanks nothing is trimmed. -/
theorem trim_of_no_blank {t : Text} (h : ∀ c ∈ t, isBlank c = false) : trim t = t := by
  apply trim_eq_self
  · exact fun c hc => h c (List.mem_of_head? hc)
  · exact fun c hc => h c (List.mem_of_getLast? hc)

theorem mem_trim_iff {t : Text} {c : Char} (hc : isBlank c = false) : c ∈ trim t ↔ c ∈ t := by
  refine ⟨mem_of_mem_trim, fun hmem => ?_⟩
  obtain ⟨before, after, hb, ha, heq⟩ := padded_trim t
  rw [heq, List.mem_append, List.mem_append] at hmem
  rcases hmem with (hmem | hmem) | hmem
  · exact absurd hmem (hb.not_mem hc)
  · exact hmem
  · exact absurd hmem (ha.not_mem hc)

/-- What trimming leaves is the one part with blanks around it and none at its own ends. -/
theorem trim_eq_iff {core t : Text} :
    trim t = core ↔ Padded core t ∧ (∀ c, core.head? = some c → isBlank c = false) ∧
      ∀ c, core.getLast? = some c → isBlank c = false := by
  constructor
  · rintro rfl
    exact ⟨padded_trim t, fun c => head_trim t, fun c => getLast_trim t⟩
  · rintro ⟨hpad, hhead, hlast⟩
    rw [hpad.trim_eq, trim_eq_self core hhead hlast]

theorem trim_eq_trim_iff {a b : Text} : trim a = trim b ↔ ∃ core, Padded core a ∧ Padded core b := by
  constructor
  · intro h
    exact ⟨trim a, padded_trim a, h ▸ padded_trim b⟩
  · rintro ⟨core, ha, hb⟩
    rw [ha.trim_eq, hb.trim_eq]

end PersonGate.Text
