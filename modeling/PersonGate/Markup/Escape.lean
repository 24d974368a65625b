import PersonGate.Text.Blank
/-!
# Escaping for HTML

The five characters with a meaning in markup are written as character references, every other one
stands for itself. Escaped text joins as the text does (`escape_append`) and holds no angle bracket
and no quote (`not_mem_escape`).
-/
namespace PersonGate.Markup

/-- One character as it stands in markup. -/
def escapeChar (c : Char) : Text :=
  if c = '&' then ['&', 'a', 'm', 'p', ';']
  else if c = '<' then ['&', 'l', 't', ';']
  else if c = '>' then ['&', 'g', 't', ';']
  else if c = '"' then ['&', 'q', 'u', 'o', 't', ';']
  else if c = '\'' then ['&', '#', '3', '9', ';']
  else [c]

/-- The text as it stands in markup, in an element or in a quoted attribute. -/
def escape (t : Text) : Text := t.flatMap escapeChar

@[simp] theorem escape_nil : escape [] = [] := rfl

theorem escape_cons (c : Char) (t : Text) : escape (c :: t) = escapeChar c ++ escape t :=
  List.flatMap_cons

theorem escape_append (a b : Text) : escape (a ++ b) = escape a ++ escape b :=
  List.flatMap_append

theorem not_mem_escapeChar {c : Char} (h : c = '<' ∨ c = '>' ∨ c = '"' ∨ c = '\'') (d : Char) :
    c ∉ escapeChar d := by
  have hself : c ≠ d → c ∉ [d] := by simp
  rcases h with rfl | rfl | rfl | rfl <;>
  · unfold escapeChar
    repeat' split
    all_goals first
      | decide
      | exact hself (Ne.symm ‹_›)

theorem not_mem_escape {t : Text} {c : Char} (h : c = '<' ∨ c = '>' ∨ c = '"' ∨ c = '\'') :
    c ∉ escape t := by
  simp only [escape, List.mem_flatMap, not_exists, not_and]
  exact fun d _ => not_mem_escapeChar h d

end PersonGate.Markup
