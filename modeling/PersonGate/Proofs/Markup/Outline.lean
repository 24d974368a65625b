import PersonGate.Proofs.Markup.Normal
/-!
# The tags of markup

`outline` takes everything out of markup that stands outside of tags or between quotes. What it
leaves are the tags and the names of their attributes, and these are the tags and attributes of the
tree: the outline of a tree's markup is the markup of the tree without its content
(`outline_html`), whatever the content was.
-/
namespace PersonGate.Node
open Markup

/-- Where a character of markup stands. -/
inductive Place where
  | outside
  | inTag
  | inQuotes
  deriving DecidableEq, Repr

/-- The outline of the markup behind such a place. -/
def outlineFrom : Place → Text → Text
  | _, [] => []
  | .outside, c :: rest =>
    if c = '<' then c :: outlineFrom .inTag rest else outlineFrom .outside rest
  | .inTag, c :: rest =>
    if c = '>' then c :: outlineFrom .outside rest
    else if c = '"' then c :: outlineFrom .inQuotes rest
    else c :: outlineFrom .inTag rest
  | .inQuotes, c :: rest =>
    if c = '"' then c :: outlineFrom .inTag rest else outlineFrom .inQuotes rest

/-- Markup without what stands outside of tags or between quotes. -/
def outline (markup : Text) : Text := outlineFrom .outside markup

mutual
/-- The tree without its content: texts, labels, targets, classes and actions are empty. -/
def blank : Node → Node
  | .element tag cssClass children =>
    .element tag (cssClass.map fun _ => []) (blankAll children)
  | .text _ => .text []
  | .anchor _ cssClass _ => .anchor [] (cssClass.map fun _ => []) []
  | .link _ _ => .anchor [] none []
  | .button _ _ => .button [] []
def blankAll : List Node → List Node
  | [] => []
  | node :: rest => node.blank :: blankAll rest
end

/-! ## Pieces of markup -/

theorem outlineFrom_outside {t : Text} (h : '<' ∉ t) (rest : Text) :
    outlineFrom .outside (t ++ rest) = outlineFrom .outside rest := by
  induction t with
  | nil => rfl
  | cons c t ih =>
    rw [List.mem_cons, not_or] at h
    rw [List.cons_append, outlineFrom, if_neg (Ne.symm h.1), ih h.2]

theorem outlineFrom_inQuotes {t : Text} (h : '"' ∉ t) (rest : Text) :
    outlineFrom .inQuotes (t ++ '"' :: rest) = '"' :: outlineFrom .inTag rest := by
  induction t with
  | nil => simp [outlineFrom]
  | cons c t ih =>
    rw [List.mem_cons, not_or] at h
    rw [List.cons_append, outlineFrom, if_neg (Ne.symm h.1), ih h.2]

theorem outlineFrom_inTag {t : Text} (h : '>' ∉ t ∧ '"' ∉ t) (rest : Text) :
    outlineFrom .inTag (t ++ rest) = t ++ outlineFrom .inTag rest := by
  induction t with
  | nil => rfl
  | cons c t ih =>
    simp only [List.mem_cons, not_or] at h
    rw [List.cons_append, outlineFrom, if_neg (Ne.symm h.1.1), if_neg (Ne.symm h.2.1),
      ih ⟨h.1.2, h.2.2⟩, List.cons_append]

/-- Escaped text leaves nothing outside of tags. -/
theorem outlineFrom_escape (t rest : Text) :
    outlineFrom .outside (escape t ++ rest) = outlineFrom .outside rest :=
  outlineFrom_outside (not_mem_escape (.inl rfl)) rest

/-- An attribute keeps its quotes, and its value goes. -/
theorem outlineFrom_attribute {start value : Text} (hstart : '>' ∉ start ∧ '"' ∉ start)
    (hvalue : '"' ∉ value) (rest : Text) :
    outlineFrom .inTag (start ++ '"' :: (value ++ '"' :: rest)) =
      start ++ '"' :: '"' :: outlineFrom .inTag rest := by
  rw [outlineFrom_inTag hstart, outlineFrom, if_neg (by decide), if_pos rfl,
    outlineFrom_inQuotes hvalue]

theorem outlineFrom_close (rest : Text) :
    outlineFrom .inTag ('>' :: rest) = '>' :: outlineFrom .outside rest := by
  rw [outlineFrom, if_pos rfl]

theorem outlineFrom_open (rest : Text) :
    outlineFrom .outside ('<' :: rest) = '<' :: outlineFrom .inTag rest := by
  rw [outlineFrom, if_pos rfl]

theorem outlineFrom_classAttribute (cssClass : Option Text) (rest : Text) :
    outlineFrom .inTag (classAttribute cssClass ++ '>' :: rest) =
      classAttribute (cssClass.map fun _ => []) ++ '>' :: outlineFrom .outside rest := by
  cases cssClass with
  | none => exact outlineFrom_close rest
  | some name =>
    have hstart : '>' ∉ [' ', 'c', 'l', 'a', 's', 's', '='] ∧
        '"' ∉ [' ', 'c', 'l', 'a', 's', 's', '='] := by decide
    have h := outlineFrom_attribute hstart (not_mem_escape (t := name) (by simp)) ('>' :: rest)
    rw [outlineFrom_close] at h
    simpa [classAttribute] using h

/-- A tag is made of letters and digits. -/
theorem not_mem_of_isTag {tag : Text} (h : isTag tag = true) : '>' ∉ tag ∧ '"' ∉ tag := by
  have hall : ∀ c ∈ tag, c.isAlphanum = true := by
    rw [isTag, Bool.and_eq_true] at h
    exact List.all_eq_true.1 h.2
  constructor <;>
  · intro hmem
    exact absurd (hall _ hmem) (by decide)

theorem outlineFrom_startTag {tag : Text} (h : isTag tag = true) (cssClass : Option Text)
    (rest : Text) :
    outlineFrom .outside (startTag tag cssClass ++ rest) =
      startTag tag (cssClass.map fun _ => []) ++ outlineFrom .outside rest := by
  have hclass := outlineFrom_classAttribute cssClass rest
  have htag := outlineFrom_inTag (not_mem_of_isTag h) (classAttribute cssClass ++ '>' :: rest)
  rw [hclass] at htag
  simpa [startTag, outlineFrom_open] using htag

theorem outlineFrom_endTag {tag : Text} (h : '>' ∉ tag ∧ '"' ∉ tag) (rest : Text) :
    outlineFrom .outside (endTag tag ++ rest) = endTag tag ++ outlineFrom .outside rest := by
  have htag := outlineFrom_inTag (t := '/' :: tag) (by simpa using h) ('>' :: rest)
  rw [outlineFrom_close] at htag
  simpa [endTag, outlineFrom_open] using htag

theorem outlineFrom_anchorTag (href : Text) (cssClass : Option Text) (rest : Text) :
    outlineFrom .outside (anchorTag href cssClass ++ rest) =
      anchorTag [] (cssClass.map fun _ => []) ++ outlineFrom .outside rest := by
  have hstart : '>' ∉ ['a', ' ', 'h', 'r', 'e', 'f', '='] ∧
      '"' ∉ ['a', ' ', 'h', 'r', 'e', 'f', '='] := by decide
  have h := outlineFrom_attribute hstart (not_mem_escape (t := href) (by simp))
    (classAttribute cssClass ++ '>' :: rest)
  rw [outlineFrom_classAttribute] at h
  simpa [anchorTag, hrefStart, outlineFrom_open] using h

theorem outlineFrom_buttonTag {action : Text} (haction : '"' ∉ action) (rest : Text) :
    outlineFrom .outside (buttonTag action ++ rest) = buttonTag [] ++ outlineFrom .outside rest := by
  have hstart : '>' ∉ buttonStart.tail.dropLast ∧ '"' ∉ buttonStart.tail.dropLast := by decide
  have h := outlineFrom_attribute hstart haction ('>' :: rest)
  rw [outlineFrom_close] at h
  simpa [buttonTag, buttonStart, outlineFrom_open] using h

/-! ## Trees -/

mutual
theorem outlineFrom_htmlBefore (node : Node) (h : node.wellTagged = true) (rest : Text) :
    outlineFrom .outside (node.htmlBefore rest) =
      node.blank.htmlBefore (outlineFrom .outside rest) := by
  cases node with
  | text content => exact outlineFrom_escape content rest
  | element tag cssClass children =>
    rw [wellTagged, Bool.and_eq_true] at h
    simp only [blank, htmlBefore]
    split
    · simp [lineBreakTag, outlineFrom]
    · rw [outlineFrom_startTag h.1, outlineFrom_htmlBeforeAll children h.2,
        outlineFrom_endTag (not_mem_of_isTag h.1)]
  | anchor href cssClass label =>
    simp only [blank, htmlBefore]
    rw [outlineFrom_anchorTag, outlineFrom_escape, anchorEnd, outlineFrom_endTag (by decide)]
    rfl
  | link target label =>
    simp only [blank, htmlBefore]
    rw [linkTag_eq, outlineFrom_anchorTag, outlineFrom_escape, anchorEnd,
      outlineFrom_endTag (by decide)]
    rfl
  | button action label =>
    have haction : '"' ∉ action := by simpa [wellTagged] using h
    simp only [blank, htmlBefore]
    rw [outlineFrom_buttonTag haction, outlineFrom_escape, buttonEnd,
      outlineFrom_endTag (by decide)]
    rfl
theorem outlineFrom_htmlBeforeAll (nodes : List Node) (h : wellTaggedAll nodes = true)
    (rest : Text) :
    outlineFrom .outside (htmlBeforeAll nodes rest) =
      htmlBeforeAll (blankAll nodes) (outlineFrom .outside rest) := by
  cases nodes with
  | nil => rfl
  | cons node more =>
    rw [wellTaggedAll, Bool.and_eq_true] at h
    rw [htmlBeforeAll, outlineFrom_htmlBefore node h.1, outlineFrom_htmlBeforeAll more h.2]
    rfl
end

/-- No content can stand for a tag or an attribute: without it the markup is that of the tree
without it. -/
theorem outline_html (node : Node) (h : node.wellTagged = true) :
    outline node.html = node.blank.html := outlineFrom_htmlBefore node h []

end PersonGate.Node
