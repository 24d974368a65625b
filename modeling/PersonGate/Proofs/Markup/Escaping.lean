import Mathlib.Data.List.Basic
import PersonGate.Markup.Html
/-!
# Escaped text and back

Each of the five characters with a meaning in markup has a reference that stands for it
(`references`). `unescape` reads a text once from left to right and puts the character in the place
of each reference. That undoes escaping, whatever follows the escaped text
(`unescape_escape_append`). The escaped texts are those without angle brackets and quotes in which
every ampersand is the start of a reference (`Escaped`), and such a text is the escaped form of what
is read from it (`escape_unescape`). A text that is escaped already is escaped once more like any
other.

The headline is `escape_exact`.
-/
namespace PersonGate.Markup

/-! ## References -/

/-- The characters with a meaning in markup, each with the reference that stands for it. -/
def references : List (Char × Text) := [
  ('&', "&amp;".toList), ('<', "&lt;".toList), ('>', "&gt;".toList), ('"', "&quot;".toList),
  ('\'', "&#39;".toList)]

/-- A reference starts with its only ampersand. -/
theorem reference_ampersand :
    ∀ entry ∈ references, entry.2 = '&' :: entry.2.tail ∧ '&' ∉ entry.2.tail := by decide

theorem one_lt_length_reference : ∀ entry ∈ references, 1 < entry.2.length := by decide

theorem reference_char :
    ∀ entry ∈ references, entry.1 = '&' ∨ entry.1 ∈ ['<', '>', '"', '\''] := by decide

theorem escapeChar_reference : ∀ entry ∈ references, escapeChar entry.1 = entry.2 := by decide

/-- A text starts with one reference at most. -/
theorem reference_unique {a b : Char × Text} (ha : a ∈ references) (hb : b ∈ references) {t : Text}
    (hat : a.2 <+: t) (hbt : b.2 <+: t) : a = b := by
  have hfree : ∀ a ∈ references, ∀ b ∈ references, a.2 <+: b.2 → a = b := by decide
  rcases List.prefix_or_prefix_of_prefix hat hbt with h | h
  · exact hfree a ha b hb h
  · exact (hfree b hb a ha h).symm

/-- A character is written as its reference, or as itself if it has none. -/
theorem escapeChar_cases (c : Char) :
    (c, escapeChar c) ∈ references ∨
      escapeChar c = [c] ∧ ∀ entry ∈ references, entry.1 ≠ c := by
  by_cases hc : ∃ entry ∈ references, entry.1 = c
  · obtain ⟨entry, hentry, rfl⟩ := hc
    exact .inl (escapeChar_reference entry hentry ▸ hentry)
  · have hnone : ∀ entry ∈ references, entry.1 ≠ c := fun entry hentry h => hc ⟨entry, hentry, h⟩
    refine .inr ⟨?_, hnone⟩
    simp only [references, List.forall_mem_cons, ne_comm (b := c)] at hnone
    obtain ⟨hamp, hlt, hgt, hquot, hapos, -⟩ := hnone
    rw [escapeChar, if_neg hamp, if_neg hlt, if_neg hgt, if_neg hquot, if_neg hapos]

theorem ne_ampersand_of_no_reference {c : Char} (h : ∀ entry ∈ references, entry.1 ≠ c) :
    c ≠ '&' :=
  (h ('&', "&amp;".toList) (by decide)).symm

/-! ## Reading -/

/-- The character whose reference a text starts with, and what is behind the reference. -/
def readReference? (t : Text) : Option (Char × Text) :=
  references.findSome? fun entry => (t.dropPrefix? entry.2).map fun rest => (entry.1, rest)

theorem exists_of_readReference? {t rest : Text} {c : Char}
    (h : readReference? t = some (c, rest)) : ∃ r, (c, r) ∈ references ∧ t = r ++ rest := by
  obtain ⟨entry, hentry, hread⟩ := List.exists_of_findSome?_eq_some h
  obtain ⟨after, hdrop, heq⟩ := Option.map_eq_some_iff.1 hread
  obtain ⟨r, ht, hr⟩ := List.dropPrefix?_eq_some_iff.1 hdrop
  cases heq
  exact ⟨entry.2, hentry, beq_iff_eq.1 hr ▸ ht⟩

theorem readReference?_append {c : Char} {r : Text} (h : (c, r) ∈ references) (rest : Text) :
    readReference? (r ++ rest) = some (c, rest) := by
  cases hread : readReference? (r ++ rest) with
  | none =>
    have hnone := List.findSome?_eq_none_iff.1 hread (c, r) h
    rw [List.dropPrefix?_append_of_beq _ (beq_self_eq_true r)] at hnone
    cases hnone
  | some found =>
    obtain ⟨other, hother, ht⟩ := exists_of_readReference? hread
    have hprefix : other <+: r ++ rest := ⟨_, ht.symm⟩
    cases reference_unique h hother (List.prefix_append r rest) hprefix
    rw [List.append_cancel_left ht]

theorem readReference?_eq_none_iff {t : Text} :
    readReference? t = none ↔ ∀ entry ∈ references, ¬entry.2 <+: t := by
  constructor
  · rintro hnone ⟨c, r⟩ hentry ⟨rest, rfl⟩
    rw [readReference?_append hentry] at hnone
    cases hnone
  · intro h
    cases hread : readReference? t with
    | none => rfl
    | some found =>
      obtain ⟨r, hr, rfl⟩ := exists_of_readReference? hread
      exact absurd (List.prefix_append r found.2) (h _ hr)

/-- The text with the character in the place of each reference. What a reference gave is not looked
at again. -/
def unescape : Text → Text
  | [] => []
  | c :: rest =>
    match _h : readReference? (c :: rest) with
    | some (d, after) => d :: unescape after
    | none => c :: unescape rest
termination_by t => t.length
decreasing_by
  · obtain ⟨r, hr, ht⟩ := exists_of_readReference? _h
    have hlong : 1 < r.length := one_lt_length_reference _ hr
    rw [ht, List.length_append]
    omega
  · exact Nat.lt_succ_self _

theorem unescape_nil : unescape [] = [] := by rw [unescape]

theorem unescape_reference {c : Char} {r : Text} (h : (c, r) ∈ references) (rest : Text) :
    unescape (r ++ rest) = c :: unescape rest := by
  have hread := readReference?_append h rest
  cases hr : r ++ rest with
  | nil =>
    have hlong : 1 < r.length := one_lt_length_reference _ h
    rw [(List.append_eq_nil_iff.1 hr).1] at hlong
    exact absurd hlong (by decide)
  | cons d more =>
    rw [hr] at hread
    rw [unescape]
    split
    · rename_i e after hfound
      cases hread.symm.trans hfound
      rfl
    · rename_i hnone
      cases hread.symm.trans hnone

theorem unescape_plain {c : Char} {rest : Text}
    (h : ∀ entry ∈ references, ¬entry.2 <+: c :: rest) :
    unescape (c :: rest) = c :: unescape rest := by
  have hread := readReference?_eq_none_iff.2 h
  rw [unescape]
  split
  · rename_i hfound
    cases hread.symm.trans hfound
  · rfl

/-! ## Escaped text is read back -/

theorem unescape_escapeChar_append (c : Char) (rest : Text) :
    unescape (escapeChar c ++ rest) = c :: unescape rest := by
  rcases escapeChar_cases c with hmem | ⟨hplain, hnone⟩
  · exact unescape_reference hmem rest
  · rw [hplain, List.singleton_append]
    refine unescape_plain ?_
    intro entry hentry hprefix
    rw [(reference_ampersand entry hentry).1, List.cons_prefix_cons] at hprefix
    exact ne_ampersand_of_no_reference hnone hprefix.1.symm

/-- Escaping is undone, and no character of what follows is taken for a part of a reference. -/
theorem unescape_escape_append (t rest : Text) :
    unescape (escape t ++ rest) = t ++ unescape rest := by
  induction t with
  | nil => rfl
  | cons c t ih =>
    rw [escape_cons, List.append_assoc, unescape_escapeChar_append, ih, List.cons_append]

theorem unescape_escape (t : Text) : unescape (escape t) = t := by
  have h := unescape_escape_append t []
  rwa [List.append_nil, unescape_nil, List.append_nil] at h

theorem escape_injective {a b : Text} (h : escape a = escape b) : a = b := by
  rw [← unescape_escape a, h, unescape_escape]

/-! ## Which texts are escaped -/

/-- The text has no angle bracket and no quote, and each of its ampersands is the start of exactly
one reference. -/
structure Escaped (t : Text) : Prop where
  no_markup : ∀ c ∈ ['<', '>', '"', '\''], c ∉ t
  ampersands : ∀ before after, t = before ++ '&' :: after →
    ∃! entry, entry ∈ references ∧ entry.2 <+: '&' :: after

theorem Escaped.of_append {a b : Text} (h : Escaped (a ++ b)) : Escaped b where
  no_markup := fun c hc hmem => h.no_markup c hc (List.mem_append_right a hmem)
  ampersands := by
    rintro before after rfl
    exact h.ampersands (a ++ before) after (List.append_assoc ..).symm

theorem exists_reference_of_escape {t before after : Text}
    (h : escape t = before ++ '&' :: after) :
    ∃ entry ∈ references, entry.2 <+: '&' :: after := by
  -- by the characters of the text: the ampersand is in what the first one gave, or behind that
  induction t generalizing before with
  | nil => simp at h
  | cons c t ih =>
    rw [escape_cons, List.append_eq_append_iff] at h
    rcases h with ⟨gap, -, hrest⟩ | ⟨start, hchar, hafter⟩
    · exact ih hrest
    · cases start with
      | nil => exact @ih [] hafter.symm
      | cons d start =>
        obtain ⟨rfl, rfl⟩ := List.cons.inj hafter
        rcases escapeChar_cases c with hmem | ⟨hplain, hnone⟩
        · cases before with
          | nil => exact ⟨_, hmem, hchar ▸ ⟨escape t, rfl⟩⟩
          | cons e before =>
            -- it would be the second ampersand of a reference
            refine absurd ?_ (reference_ampersand _ hmem).2
            simp [hchar]
        · have hmem : '&' ∈ escapeChar c := by simp [hchar]
          rw [hplain, List.mem_singleton] at hmem
          exact absurd hmem.symm (ne_ampersand_of_no_reference hnone)

theorem escaped_escape (t : Text) : Escaped (escape t) where
  no_markup := by
    intro c hc
    exact not_mem_escape (by simpa using hc)
  ampersands := by
    intro before after h
    obtain ⟨entry, hentry, hprefix⟩ := exists_reference_of_escape h
    exact ⟨entry, ⟨hentry, hprefix⟩, fun other hother =>
      reference_unique hother.1 hentry hother.2 hprefix⟩

/-- In escaped text a character that starts no reference needs none. -/
theorem Escaped.escapeChar_eq {c : Char} {rest : Text} (h : Escaped (c :: rest))
    (hread : ∀ entry ∈ references, ¬entry.2 <+: c :: rest) : escapeChar c = [c] := by
  rcases escapeChar_cases c with hmem | ⟨hplain, -⟩
  · rcases reference_char _ hmem with rfl | hmarkup
    · obtain ⟨entry, ⟨hentry, hprefix⟩, -⟩ := h.ampersands [] rest rfl
      exact absurd hprefix (hread entry hentry)
    · exact absurd List.mem_cons_self (h.no_markup c hmarkup)
  · exact hplain

/-- Escaped text is the escaped form of what is read from it. -/
theorem escape_unescape {t : Text} (h : Escaped t) : escape (unescape t) = t := by
  fun_induction unescape t with
  | case1 => rfl
  | case2 c rest d after hread ih =>
    obtain ⟨r, hr, ht⟩ := exists_of_readReference? hread
    rw [ht] at h ⊢
    rw [escape_cons, escapeChar_reference _ hr, ih h.of_append]
  | case3 c rest hread ih =>
    have hrest : Escaped rest := Escaped.of_append (a := [c]) h
    rw [escape_cons, h.escapeChar_eq (readReference?_eq_none_iff.1 hread), ih hrest,
      List.singleton_append]

/-! ## Texts that stay as they are -/

theorem length_le_escape (t : Text) : t.length ≤ (escape t).length := by
  induction t with
  | nil => exact Nat.le_refl _
  | cons c t ih =>
    have hpos : 0 < (escapeChar c).length := by
      rcases escapeChar_cases c with hmem | ⟨hplain, -⟩
      · exact Nat.lt_of_succ_lt (one_lt_length_reference _ hmem)
      · simp [hplain]
    rw [escape_cons, List.length_append, List.length_cons]
    omega

/-- Only a text without any of the five characters is its own escaped form. -/
theorem escape_eq_self_iff {t : Text} : escape t = t ↔ ∀ entry ∈ references, entry.1 ∉ t := by
  induction t with
  | nil => simp
  | cons c t ih =>
    rcases escapeChar_cases c with hmem | ⟨hplain, hnone⟩
    · -- the reference is longer than the character, and behind it nothing gets shorter
      have hlong : 1 < (escapeChar c).length := one_lt_length_reference _ hmem
      have hle := length_le_escape t
      constructor
      · intro h
        have hlen := congrArg List.length h
        rw [escape_cons, List.length_append, List.length_cons] at hlen
        omega
      · exact fun h => absurd List.mem_cons_self (h _ hmem)
    · rw [escape_cons, hplain, List.singleton_append, List.cons.injEq, and_iff_right rfl, ih]
      refine forall₂_congr fun entry hentry => ?_
      rw [List.mem_cons, not_or, and_iff_right (hnone entry hentry)]

/-! ## Writing behind other text -/

/-- What was written and the text in its escaped form behind it, one character after the other. -/
def writeEscaped (written t : Text) : Text :=
  t.foldl (fun written c => written ++ escapeChar c) written

theorem writeEscaped_eq (written t : Text) : writeEscaped written t = written ++ escape t := by
  rw [writeEscaped, List.foldl_append_eq_append, escape, List.flatMap_def]

/-- In the markup of a row of nodes a text is written behind what the nodes before it gave. -/
theorem html_siblings (before : List Node) (t : Text) (after : List Node) :
    (before ++ .text t :: after).flatMap Node.html =
      writeEscaped (before.flatMap Node.html) t ++ after.flatMap Node.html := by
  rw [writeEscaped_eq, List.flatMap_append, List.flatMap_cons, Node.html_text, List.append_assoc]

/-- **Escaping is safe and can be undone.** Escaped text has no angle bracket and no quote, and each
of its ampersands is the start of exactly one of the five references. Putting the characters in the
place of the references, in one pass from left to right, gives the text back, whatever stands behind
its escaped form; and a text that could be an escaped one is the escaped form of what the pass gives.
Only a text with none of the five characters stays as it is, so what is escaped already is escaped
once more, and the ampersand of a reference becomes one itself. Written behind other text, one
character after the other, the escaped form changes nothing of it, be it the markup of the nodes in
front of a text; and the escaped form of joined texts is that of the parts. -/
theorem escape_exact :
    (∀ t, Escaped (escape t)) ∧
    (∀ t, unescape (escape t) = t) ∧
    (∀ t rest, unescape (escape t ++ rest) = t ++ unescape rest) ∧
    (∀ t, Escaped t → escape (unescape t) = t) ∧
    (∀ t, escape t = t ↔ ∀ entry ∈ references, entry.1 ∉ t) ∧
    (∀ t, escape (escape t) = escape t ↔ escape t = t) ∧
    (∀ entry ∈ references, escape entry.2 = "&amp;".toList ++ entry.2.tail) ∧
    (∀ written t, writeEscaped written t = written ++ escape t) ∧
    (∀ before t after, (before ++ .text t :: after).flatMap Node.html =
      writeEscaped (before.flatMap Node.html) t ++ after.flatMap Node.html) ∧
    ∀ a b, escape (a ++ b) = escape a ++ escape b :=
  ⟨escaped_escape, unescape_escape, unescape_escape_append, fun _ => escape_unescape,
    fun _ => escape_eq_self_iff, fun _ => ⟨escape_injective, congrArg escape⟩, by decide,
    writeEscaped_eq, html_siblings, escape_append⟩

/-- A reference in a text is escaped like any other text, and comes back as a reference. -/
theorem escape_exact_again :
    let t := "&lt;".toList
    ('<', t) ∈ references ∧ escape t = "&amp;lt;".toList ∧ unescape "&amp;lt;".toList = t ∧
      escape (unescape "&amp;lt;".toList) = "&amp;lt;".toList ∧ escape (escape t) ≠ escape t := by
  intro t
  obtain ⟨hescaped, hread, -, hback, hself, htwice, hagain, -⟩ := escape_exact
  have hmem : ('<', t) ∈ references := by decide
  have ht : escape t = "&amp;lt;".toList := hagain ('<', t) hmem
  refine ⟨hmem, ht, ht ▸ hread t, hback _ (ht ▸ hescaped t), ?_⟩
  rw [ne_eq, htwice, hself]
  exact fun h => h ('&', "&amp;".toList) (by decide) (by decide)

end PersonGate.Markup
