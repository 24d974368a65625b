import Mathlib.Data.List.Basic
import PersonGate.Text.Split
import PersonGate.Proofs.Markup.Outline
/-!
# Reading markup back

`decode` reads a tree back from its markup. It goes through the text once: up to the next `<` there
is text, behind it there is the end of the tags that are open or a start tag, and what a start tag
opens it reads in the same way. It is made for markup that was written by `html`, and does not look
for mistakes. It gets back the form of the tree that markup tells, so trees have the same markup just
when they have that form in common, and no content can stand for a tag or an attribute
(`html_exact`).
-/
namespace PersonGate.Node
open Markup

/-! ## Pieces of markup -/

/-- A character in front of a text that was read. -/
def withChar (c : Char) (read : Text × Text) : Text × Text := (c :: read.1, read.2)

/-- The text that markup starts with up to the character `stop`, its references resolved, and the
markup from there on. -/
def readText (stop : Char) : Text → Text × Text
  | [] => ([], [])
  | '&' :: 'a' :: 'm' :: 'p' :: ';' :: rest => withChar '&' (readText stop rest)
  | '&' :: 'l' :: 't' :: ';' :: rest => withChar '<' (readText stop rest)
  | '&' :: 'g' :: 't' :: ';' :: rest => withChar '>' (readText stop rest)
  | '&' :: 'q' :: 'u' :: 'o' :: 't' :: ';' :: rest => withChar '"' (readText stop rest)
  | '&' :: '#' :: '3' :: '9' :: ';' :: rest => withChar '\'' (readText stop rest)
  | c :: rest => if c = stop then ([], c :: rest) else withChar c (readText stop rest)

/-- What opens an element. -/
inductive StartTag where
  | lineBreak
  | element (tag : Text) (cssClass : Option Text)
  | anchor (href : Text) (cssClass : Option Text)
  | button (action : Text)
  deriving DecidableEq, Repr

namespace StartTag

/-- The tag that closes the element, if it has content. -/
def closing : StartTag → Option Text
  | .lineBreak => none
  | .element tag _ => some (endTag tag)
  | .anchor _ _ => some anchorEnd
  | .button _ => some buttonEnd

/-- The element with this content, if it may have it. -/
def node? : StartTag → List Node → Option Node
  | .element tag cssClass, content => some (.element tag cssClass content)
  | .anchor href cssClass, [] => some (.anchor href cssClass [])
  | .anchor href cssClass, [.text label] => some (.anchor href cssClass label)
  | .button action, [] => some (.button action [])
  | .button action, [.text label] => some (.button action label)
  | _, _ => none

end StartTag

/-- What is in front of a class. -/
def classStart : Text := [' ', 'c', 'l', 'a', 's', 's', '=', '"']

def hrefAttribute : Text := [' ', 'h', 'r', 'e', 'f', '=', '"']

def actionAttribute : Text :=
  [' ', 'd', 'a', 't', 'a', '-', 'a', 'c', 't', 'i', 'o', 'n', '=', '"']

/-- The class, if there is one, and the markup from there on. -/
def readClass (markup : Text) : Option Text × Text :=
  match markup.dropPrefix? classStart with
  | none => (none, markup)
  | some value => (some (readText '"' value).1, (readText '"' value).2.drop 1)

/-- The start tag with this name, its attributes read, and what follows it. -/
def readAttributes (name attributes : Text) : StartTag × Text :=
  match attributes.dropPrefix? ['/', '>'] with
  | some after => (.lineBreak, after)
  | none =>
  match attributes.dropPrefix? hrefAttribute with
  | some value =>
    let href := readText '"' value
    let cssClass := readClass (href.2.drop 1)
    (.anchor href.1 cssClass.1, cssClass.2.drop 1)
  | none =>
  match attributes.dropPrefix? actionAttribute with
  | some value =>
    let action := Text.upTo (· == '"') value
    (.button action.1, action.2.drop 2)
  | none =>
    let cssClass := readClass attributes
    (.element name cssClass.1, cssClass.2.drop 1)

/-- The start tag behind a `<`, and what follows it. -/
def readTag (markup : Text) : StartTag × Text :=
  let parts := Text.upTo (fun c => !c.isAlphanum) markup
  readAttributes parts.1 parts.2

/-! ## The decoder -/

/-- What is read from markup: the nodes up to its end or to an end tag, and what is left. -/
abbrev Reader := Text → Option (List Node × Text)

/-- The element behind a `<`, its content read by `read`, and what follows it. -/
def readElement (read : Reader) (markup : Text) : Option (Node × Text) :=
  let start := readTag markup
  match start.1.closing with
  | none => some (.element lineBreak none [], start.2)
  | some closing =>
    match read start.2 with
    | none => none
    | some (content, rest) =>
      match start.1.node? content, rest.dropPrefix? closing with
      | some node, some after => some (node, after)
      | _, _ => none

/-- What is read from an end, an end tag or a start tag on. -/
def readTags (read : Reader) : Reader
  | '<' :: '/' :: rest => some ([], '<' :: '/' :: rest)
  | '<' :: rest =>
    match readElement read rest with
    | none => none
    | some (node, after) => (read after).map fun more => (node :: more.1, more.2)
  | rest => some ([], rest)

/-- The text that markup starts with, and what is read behind it. -/
def readStep (read : Reader) : Reader := fun markup =>
  let text := readText '<' markup
  (readTags read text.2).map fun more => (join (.text text.1) more.1, more.2)

/-- The nodes that markup starts with; `fuel` limits how many tags are read. -/
def readAll : Nat → Reader
  | 0 => fun _ => none
  | fuel + 1 => readStep (readAll fuel)

/-- The tree with this markup. -/
def decode (markup : Text) : Option Node :=
  match readAll (markup.length + 1) markup with
  | some ([], []) => some (.text [])
  | some ([node], []) => some node
  | _ => none

/-! ## Text is read back -/

/-- Up to a character that is escaped, an escaped character is read as itself. -/
theorem readText_escapeChar {stop : Char} (hstop : stop = '<' ∨ stop = '"') (c : Char)
    (rest : Text) :
    readText stop (escapeChar c ++ rest) = withChar c (readText stop rest) := by
  unfold escapeChar
  repeat' split
  all_goals try subst_vars; rfl
  rename_i hamp hlt _ hquot _
  have hne : c ≠ stop := by rcases hstop with rfl | rfl <;> assumption
  simp only [List.cons_append, List.nil_append]
  rw [readText.eq_def]
  split <;> simp_all

theorem readText_escape {stop : Char} (hstop : stop = '<' ∨ stop = '"') (t rest : Text) :
    readText stop (escape t ++ rest) = (t ++ (readText stop rest).1, (readText stop rest).2) := by
  induction t with
  | nil => rfl
  | cons c t ih =>
    rw [escape_cons, List.append_assoc, readText_escapeChar hstop, ih]
    rfl

theorem readText_stop {stop : Char} (hstop : stop = '<' ∨ stop = '"') (rest : Text) :
    readText stop (stop :: rest) = ([], stop :: rest) := by
  rcases hstop with rfl | rfl <;> simp [readText]

/-- A value is read up to its closing quote. -/
theorem readText_value (t rest : Text) :
    readText '"' (escape t ++ '"' :: rest) = (t, '"' :: rest) := by
  rw [readText_escape (.inr rfl), readText_stop (.inr rfl), List.append_nil]

/-! ## Tags are read back -/

theorem readClass_classAttribute (cssClass : Option Text) (rest : Text) :
    readClass (classAttribute cssClass ++ '>' :: rest) = (cssClass, '>' :: rest) := by
  cases cssClass with
  | none => rfl
  | some name =>
    have hstart : classAttribute (some name) ++ '>' :: rest =
        classStart ++ (escape name ++ '"' :: '>' :: rest) := by
      simp [classAttribute, classStart]
    rw [hstart, readClass, List.dropPrefix?_append_of_beq _ (beq_self_eq_true _)]
    simp only [readText_value, List.drop_one, List.tail_cons]

theorem readAttributes_lineBreak (name rest : Text) :
    readAttributes name ('/' :: '>' :: rest) = (.lineBreak, rest) := by
  simp [readAttributes, List.dropPrefix?]

theorem readAttributes_anchor (name href : Text) (cssClass : Option Text) (rest : Text) :
    readAttributes name (hrefAttribute ++ (escape href ++ '"' ::
      (classAttribute cssClass ++ '>' :: rest))) = (.anchor href cssClass, rest) := by
  rw [readAttributes, List.dropPrefix?_append_of_beq _ (beq_self_eq_true hrefAttribute)]
  simp [hrefAttribute, List.dropPrefix?, readText_value, readClass_classAttribute]

theorem readAttributes_button (name : Text) {action : Text} (h : '"' ∉ action) (rest : Text) :
    readAttributes name (actionAttribute ++ (action ++ '"' :: '>' :: rest)) =
      (.button action, rest) := by
  have hstop : ∀ c ∈ action, (c == '"') = false := by
    intro c hc
    rw [beq_eq_false_iff_ne]
    rintro rfl
    exact h hc
  rw [readAttributes, List.dropPrefix?_append_of_beq _ (beq_self_eq_true actionAttribute)]
  simp [actionAttribute, hrefAttribute, List.dropPrefix?, Text.upTo_eq hstop]

theorem readAttributes_class (name : Text) (cssClass : Option Text) (rest : Text) :
    readAttributes name (classAttribute cssClass ++ '>' :: rest) =
      (.element name cssClass, rest) := by
  have hslash : (classAttribute cssClass ++ '>' :: rest).dropPrefix? ['/', '>'] = none := by
    cases cssClass <;> simp [classAttribute, List.dropPrefix?]
  have hhref : (classAttribute cssClass ++ '>' :: rest).dropPrefix? hrefAttribute = none := by
    cases cssClass <;> simp [classAttribute, hrefAttribute, List.dropPrefix?]
  have haction : (classAttribute cssClass ++ '>' :: rest).dropPrefix? actionAttribute = none := by
    cases cssClass <;> simp [classAttribute, actionAttribute, List.dropPrefix?]
  rw [readAttributes, hslash, hhref, haction]
  simp only [readClass_classAttribute, List.drop_one, List.tail_cons]

/-- The name of a tag goes as far as there are letters and digits. -/
theorem readTag_eq {name : Text} (h : name.all Char.isAlphanum = true) {c : Char}
    (hc : c.isAlphanum = false) (rest : Text) :
    readTag (name ++ c :: rest) = readAttributes name (c :: rest) := by
  have hname : ∀ d ∈ name, (!d.isAlphanum) = false := by simpa using h
  rw [readTag, Text.upTo_eq hname (by simp [hc])]

theorem readTag_lineBreak (rest : Text) :
    readTag (lineBreak ++ '/' :: '>' :: rest) = (.lineBreak, rest) := by
  have hname : lineBreak.all Char.isAlphanum = true := by decide
  rw [readTag_eq hname (by decide), readAttributes_lineBreak]

theorem readTag_anchor (href : Text) (cssClass : Option Text) (rest : Text) :
    readTag (['a'] ++ (hrefAttribute ++ (escape href ++ '"' ::
      (classAttribute cssClass ++ '>' :: rest)))) = (.anchor href cssClass, rest) := by
  have hname : ['a'].all Char.isAlphanum = true := by decide
  exact (readTag_eq hname (by decide) _).trans (readAttributes_anchor ['a'] href cssClass rest)

theorem readTag_button {action : Text} (h : '"' ∉ action) (rest : Text) :
    readTag (['b', 'u', 't', 't', 'o', 'n'] ++ (actionAttribute ++ (action ++ '"' :: '>' :: rest))) =
      (.button action, rest) := by
  have hname : ['b', 'u', 't', 't', 'o', 'n'].all Char.isAlphanum = true := by decide
  exact (readTag_eq hname (by decide) _).trans (readAttributes_button _ h rest)

theorem readTag_element {tag : Text} (h : isTag tag = true) (cssClass : Option Text)
    (rest : Text) :
    readTag (tag ++ (classAttribute cssClass ++ '>' :: rest)) = (.element tag cssClass, rest) := by
  have hname : tag.all Char.isAlphanum = true := by
    rw [isTag, Bool.and_eq_true] at h
    exact h.2
  refine Eq.trans ?_ (readAttributes_class tag cssClass rest)
  cases cssClass with
  | none => exact readTag_eq hname (by decide) _
  | some value => exact readTag_eq hname (by decide) _

/-! ## Trees are read back -/

/-- With enough fuel these nodes are read from the markup, and this is left. -/
def Decodes (markup : Text) (nodes : List Node) (after : Text) : Prop :=
  ∀ fuel, markup.length < fuel → readAll fuel markup = some (nodes, after)

theorem decodes_of_step {markup : Text} {nodes : List Node} {after : Text}
    (h : ∀ fuel, markup.length ≤ fuel → readStep (readAll fuel) markup = some (nodes, after)) :
    Decodes markup nodes after := by
  intro fuel hfuel
  match fuel, hfuel with
  | fuel + 1, hfuel => exact h fuel (Nat.lt_succ_iff.1 hfuel)

theorem decodes_nil : Decodes [] [] [] := by
  apply decodes_of_step
  intro fuel _
  simp [readStep, readText, readTags]

theorem decodes_endTag (tag rest : Text) : Decodes (endTag tag ++ rest) [] (endTag tag ++ rest) := by
  apply decodes_of_step
  intro fuel _
  simp [readStep, endTag, readText_stop (.inl rfl), readTags]

/-- A text in front of markup is joined to what is read from there. -/
theorem decodes_escape {markup : Text} {nodes : List Node} {after : Text}
    (h : Decodes markup nodes after) (t : Text) :
    Decodes (escape t ++ markup) (join (.text t) nodes) after := by
  apply decodes_of_step
  intro fuel hfuel
  have hread := h (fuel + 1) (by rw [List.length_append] at hfuel; omega)
  simp only [readAll, readStep, Option.map_eq_some_iff, Prod.exists, Prod.mk.injEq] at hread
  obtain ⟨more, rest, hmore, rfl, rfl⟩ := hread
  simp only [readStep, readText_escape (.inl rfl), hmore, Option.map_some, join_text_text]

/-- An element in front of markup is put before what is read behind it. -/
theorem decodes_of_readElement {markup after : Text} {node : Node} {nodes : List Node} {rest : Text}
    (hslash : markup.head? ≠ some '/') (hlen : after.length < markup.length + 1)
    (helement : ∀ fuel, markup.length < fuel →
      readElement (readAll fuel) markup = some (node, after))
    (hafter : Decodes after nodes rest) : Decodes ('<' :: markup) (node :: nodes) rest := by
  apply decodes_of_step
  intro fuel hfuel
  rw [List.length_cons] at hfuel
  simp only [readStep, readText_stop (.inl rfl), join_text_nil]
  rw [readTags]
  · simp only [helement fuel hfuel, hafter fuel (by omega), Option.map_some]
  · rintro tail rfl
    exact hslash rfl

/-- The tag of an element is read, its content, and the tag at its end. -/
theorem decodes_element {markup inside closing after : Text} {start : StartTag} {node : Node}
    {content nodes : List Node} {rest : Text} (hslash : markup.head? ≠ some '/')
    (htag : readTag markup = (start, inside)) (hclosing : start.closing = some closing)
    (hnode : start.node? content = some node) (hinside : Decodes inside content (closing ++ after))
    (hin : inside.length < markup.length + 1) (hafter : Decodes after nodes rest)
    (hout : after.length < markup.length + 1) : Decodes ('<' :: markup) (node :: nodes) rest := by
  refine decodes_of_readElement hslash hout (fun fuel hfuel => ?_) hafter
  simp only [readElement, htag, hclosing, hinside fuel (by omega), hnode,
    List.dropPrefix?_append_of_beq _ (beq_self_eq_true closing)]

theorem decodes_lineBreak {after : Text} {nodes : List Node} {rest : Text}
    (h : Decodes after nodes rest) :
    Decodes (lineBreakTag ++ after) (.element lineBreak none [] :: nodes) rest := by
  have hshape : lineBreakTag ++ after = '<' :: (lineBreak ++ '/' :: '>' :: after) := rfl
  rw [hshape]
  refine decodes_of_readElement (by simp [lineBreak]) ?_ (fun fuel _ => ?_) h
  · simp only [List.length_append, List.length_cons]
    omega
  · simp only [readElement, readTag_lineBreak, StartTag.closing]

/-- An element that holds no more than a label. -/
theorem decodes_labelled {markup label after : Text} {start : StartTag} {node : Node}
    {nodes : List Node} {rest : Text} {tag : Text} (hslash : markup.head? ≠ some '/')
    (htag : readTag markup = (start, escape label ++ (endTag tag ++ after)))
    (hclosing : start.closing = some (endTag tag))
    (hnode : ∀ content, content = [] ∧ label = [] ∨ content = [.text label] →
      start.node? content = some node)
    (hlen : (escape label ++ (endTag tag ++ after)).length < markup.length + 1)
    (hafter : Decodes after nodes rest) : Decodes ('<' :: markup) (node :: nodes) rest := by
  have hinside := decodes_escape (decodes_endTag tag after) label
  refine decodes_element hslash htag hclosing (hnode _ ?_) hinside hlen hafter ?_
  · cases label with
    | nil => exact .inl ⟨rfl, rfl⟩
    | cons c label => exact .inr rfl
  · rw [List.length_append, List.length_append] at hlen
    omega

theorem decodes_anchor (href : Text) (cssClass : Option Text) (label : Text) {after : Text}
    {nodes : List Node} {rest : Text} (h : Decodes after nodes rest) :
    Decodes (anchorTag href cssClass ++ (escape label ++ (anchorEnd ++ after)))
      (.anchor href cssClass label :: nodes) rest := by
  have hshape : anchorTag href cssClass ++ (escape label ++ (anchorEnd ++ after)) =
      '<' :: (['a'] ++ (hrefAttribute ++ (escape href ++ '"' ::
        (classAttribute cssClass ++ '>' :: (escape label ++ (anchorEnd ++ after)))))) := by
    simp [anchorTag, hrefStart, hrefAttribute]
  rw [hshape]
  refine decodes_labelled (by simp) (readTag_anchor _ _ _) rfl ?_ ?_ h
  · rintro content (⟨rfl, rfl⟩ | rfl) <;> rfl
  · simp only [List.length_append, List.length_cons, anchorEnd]
    omega

theorem decodes_button {action : Text} (haction : '"' ∉ action) (label : Text) {after : Text}
    {nodes : List Node} {rest : Text} (h : Decodes after nodes rest) :
    Decodes (buttonTag action ++ (escape label ++ (buttonEnd ++ after)))
      (.button action label :: nodes) rest := by
  have hshape : buttonTag action ++ (escape label ++ (buttonEnd ++ after)) =
      '<' :: (['b', 'u', 't', 't', 'o', 'n'] ++ (actionAttribute ++ (action ++ '"' :: '>' ::
        (escape label ++ (buttonEnd ++ after))))) := by
    simp [buttonTag, buttonStart, actionAttribute]
  rw [hshape]
  refine decodes_labelled (by simp) (readTag_button haction _) rfl ?_ ?_ h
  · rintro content (⟨rfl, rfl⟩ | rfl) <;> rfl
  · simp only [List.length_append, List.length_cons, buttonEnd]
    omega

theorem head_ne_slash {tag : Text} (h : isTag tag = true) (rest : Text) :
    (tag ++ rest).head? ≠ some '/' := by
  cases tag with
  | nil => simp [isTag] at h
  | cons c tag =>
    rw [List.cons_append, List.head?_cons, ne_eq, Option.some.injEq]
    rintro rfl
    simp [isTag] at h

mutual
theorem decodes_htmlBefore (node : Node) (h : node.wellTagged = true) {markup : Text}
    {nodes : List Node} {after : Text} (hmarkup : Decodes markup nodes after) :
    Decodes (node.htmlBefore markup) (join node.norm nodes) after := by
  cases node with
  | text content => exact decodes_escape hmarkup content
  | element tag cssClass children =>
    rw [wellTagged, Bool.and_eq_true] at h
    simp only [htmlBefore, norm]
    split
    · exact decodes_lineBreak hmarkup
    · have hinside := decodes_htmlBeforeAll children h.2 (decodes_endTag tag markup)
      have hshape : startTag tag cssClass ++ htmlBeforeAll children (endTag tag ++ markup) =
          '<' :: (tag ++ (classAttribute cssClass ++ '>' ::
            htmlBeforeAll children (endTag tag ++ markup))) := by
        simp [startTag]
      have hlen : markup.length ≤ (htmlBeforeAll children (endTag tag ++ markup)).length := by
        rw [htmlBeforeAll_eq, List.length_append, List.length_append]
        omega
      rw [hshape]
      refine decodes_element (head_ne_slash h.1 _) (readTag_element h.1 _ _) rfl rfl hinside ?_
        hmarkup ?_
      · simp only [List.length_append, List.length_cons]
        omega
      · simp only [List.length_append, List.length_cons]
        omega
  | anchor href cssClass label => exact decodes_anchor href cssClass label hmarkup
  | link target label =>
    rw [htmlBefore, linkTag_eq]
    exact decodes_anchor _ none label hmarkup
  | button action label =>
    have haction : '"' ∉ action := by simpa [wellTagged] using h
    exact decodes_button haction label hmarkup
theorem decodes_htmlBeforeAll (nodes : List Node) (h : wellTaggedAll nodes = true) {markup : Text}
    {after : Text} (hmarkup : Decodes markup [] after) :
    Decodes (htmlBeforeAll nodes markup) (normAll nodes) after := by
  cases nodes with
  | nil => exact hmarkup
  | cons node rest =>
    rw [wellTaggedAll, Bool.and_eq_true] at h
    exact decodes_htmlBefore node h.1 (decodes_htmlBeforeAll rest h.2 hmarkup)
end

/-- The decoder gets back the form of a tree that its markup tells. -/
theorem decode_eq (node : Node) (h : node.wellTagged = true) :
    decode node.html = some node.norm := by
  have hread : readAll (node.html.length + 1) node.html = some (join node.norm [], []) :=
    decodes_htmlBefore node h decodes_nil _ (Nat.lt_succ_self _)
  rw [decode, hread]
  cases node.norm with
  | text content => cases content <;> rfl
  | _ => rfl

/-- **Markup loses only what it must.** From the markup of a tree the decoder gets back the tree's
form, two trees have the same markup just when they have the same form, and without its content the
markup is that of the tree without content, whatever the content was. -/
theorem html_exact (n m : Node) (hn : n.wellTagged = true) (hm : m.wellTagged = true) :
    decode n.html = some n.norm ∧ (n.html = m.html ↔ n.norm = m.norm) ∧
      outline n.html = n.blank.html := by
  refine ⟨decode_eq n hn, ⟨fun h => ?_, fun h => ?_⟩, outline_html n hn⟩
  · have hsame : some n.norm = some m.norm := by rw [← decode_eq n hn, ← decode_eq m hm, h]
    exact Option.some.inj hsame
  · rw [← html_norm n, ← html_norm m, h]

/-- Two texts and a link look like one text and an anchor. -/
theorem html_exact_link :
    let n : Node := .element ['p'] none [.text ['a'], .text ['<'], .link .login ['"']]
    let m : Node := .element ['p'] none [.text ['a', '<'], .anchor Route.login.path.toList none ['"']]
    n.wellTagged = true ∧ m.wellTagged = true ∧ n.html = m.html ∧ decode n.html = some m := by
  intro n m
  have hn : n.wellTagged = true := by decide
  have hm : m.wellTagged = true := by decide
  have hform : n.norm = m.norm := by rfl
  obtain ⟨hdecode, hiff, -⟩ := html_exact n m hn hm
  exact ⟨hn, hm, hiff.2 hform, hdecode.trans (by rfl)⟩

end PersonGate.Node
