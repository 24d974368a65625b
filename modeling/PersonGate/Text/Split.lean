import PersonGate.Text.Blank
/-!
# Cutting text at a separator

`split` cuts at every occurrence of a character and `cut?` at the first one; `upTo` cuts in front of
the first character of a kind. A split has one piece more than the text has separators, no piece
holds one, and pieces of joined texts are the pieces of the parts (`split_append`). `cut?` finds the
part before the first separator and the rest after it (`cut?_eq_some_iff`).
-/
namespace PersonGate.Text

/-- The pieces between the occurrences of `sep`, empty ones included. -/
def split (sep : Char) : Text → List Text
  | [] => [[]]
  | c :: rest =>
    if c = sep then [] :: split sep rest
    else match split sep rest with
      | [] => [[c]]
      | piece :: pieces => (c :: piece) :: pieces

/-- The text before the first `sep` and the text after it, if there is one. -/
def cut? (sep : Char) : Text → Option (Text × Text)
  | [] => none
  | c :: rest =>
    if c = sep then some ([], rest)
    else (cut? sep rest).map fun parts => (c :: parts.1, parts.2)

/-- The text in front of the first character that satisfies `stop`, and the rest from there on. -/
def upTo (stop : Char → Bool) (t : Text) : Text × Text :=
  (t.takeWhile fun c => !stop c, t.dropWhile fun c => !stop c)

/-- Nothing is lost. -/
theorem upTo_append (stop : Char → Bool) (t : Text) : (upTo stop t).1 ++ (upTo stop t).2 = t :=
  List.takeWhile_append_dropWhile

theorem upTo_eq {stop : Char → Bool} {t : Text} (ht : ∀ c ∈ t, stop c = false) {c : Char}
    (hc : stop c = true) (rest : Text) : upTo stop (t ++ c :: rest) = (t, c :: rest) := by
  have hpass : ∀ d ∈ t, (!stop d) = true := fun d hd => by rw [ht d hd]; rfl
  simp [upTo, List.takeWhile_append_of_pos hpass, List.dropWhile_append_of_pos hpass, hc]

theorem upTo_eq_self {stop : Char → Bool} {t : Text} (ht : ∀ c ∈ t, stop c = false) :
    upTo stop t = (t, []) := by
  have hdrop : (upTo stop t).2 = [] :=
    (dropWhile_nil_iff _ t).2 fun c hc => by rw [ht c hc]; rfl
  have htake := upTo_append stop t
  rw [hdrop, List.append_nil] at htake
  exact Prod.ext htake hdrop

theorem split_ne_nil (sep : Char) (t : Text) : split sep t ≠ [] := by
  cases t with
  | nil => simp [split]
  | cons c r => simp only [split]; split <;> (try split) <;> simp

/-- A separator between two texts keeps their pieces apart. -/
theorem split_append (sep : Char) (a b : Text) :
    split sep (a ++ sep :: b) = split sep a ++ split sep b := by
  induction a with
  | nil => simp [split]
  | cons c r ih =>
    by_cases h : c = sep
    · simp [split, h, ih]
    · cases hs : split sep r with
      | nil => exact absurd hs (split_ne_nil sep r)
      | cons p ps => simp [split, h, ih, hs]

theorem split_of_not_mem {sep : Char} {t : Text} (h : sep ∉ t) : split sep t = [t] := by
  induction t with
  | nil => rfl
  | cons c r ih =>
    simp only [List.mem_cons, not_or] at h
    simp [split, Ne.symm h.1, ih h.2]

theorem not_mem_of_mem_split {sep : Char} {t p : Text} (h : p ∈ split sep t) : sep ∉ p := by
  induction t generalizing p with
  | nil => simp [split] at h; simp [h]
  | cons c r ih =>
    by_cases hc : c = sep
    · simp only [split, hc, if_true, List.mem_cons] at h
      rcases h with rfl | h
      · simp
      · exact ih h
    · cases hs : split sep r with
      | nil => exact absurd hs (split_ne_nil sep r)
      | cons q qs =>
        simp only [split, hc, if_false, hs, List.mem_cons] at h
        rcases h with rfl | h
        · have := ih (hs ▸ List.mem_cons_self)
          simp [Ne.symm hc, this]
        · exact ih (hs ▸ List.mem_cons_of_mem _ h)

theorem cut?_eq_some_iff {sep : Char} {t a b : Text} :
    cut? sep t = some (a, b) ↔ sep ∉ a ∧ t = a ++ sep :: b := by
  induction t generalizing a with
  | nil => simp [cut?]
  | cons c r ih =>
    by_cases hc : c = sep
    · subst hc
      cases a with
      | nil => simp [cut?, eq_comm]
      | cons d a' => simp [cut?]; grind
    · cases a with
      | nil => simp [cut?, hc]
      | cons d a' =>
        have := ih (a := a')
        simp only [cut?, hc, if_false, Option.map_eq_some_iff, Prod.exists, Prod.mk.injEq,
          List.cons.injEq, List.mem_cons, not_or, List.cons_append]
        grind

theorem cut?_eq_none_iff {sep : Char} {t : Text} : cut? sep t = none ↔ sep ∉ t := by
  induction t with
  | nil => simp [cut?]
  | cons c r ih => by_cases hc : c = sep <;> simp [cut?, hc, ih, Ne.symm]

end PersonGate.Text
