import PersonGate.Markup.Node
import PersonGate.Markup.Escape
/-!
# HTML of a view tree

`Node.html` writes a tree as an HTML fragment. Text, labels, links and classes are escaped, tags and
button actions are written as they are. A `br` element is always the empty `<br/>`: its class and
its children leave no trace (`html_lineBreak`).
-/
namespace PersonGate.Node
open Markup

/-- The tag of a line break, the one element without content. -/
def lineBreak : Text := ['b', 'r']

/-- All there is of a line break. -/
def lineBreakTag : Text := ['<', 'b', 'r', '/', '>']

/-- The `class` attribute, if there is a class. -/
def classAttribute : Option Text → Text
  | none => []
  | some name => [' ', 'c', 'l', 'a', 's', 's', '=', '"'] ++ escape name ++ ['"']

def startTag (tag : Text) (cssClass : Option Text) : Text :=
  '<' :: tag ++ classAttribute cssClass ++ ['>']

def endTag (tag : Text) : Text := ['<', '/'] ++ tag ++ ['>']

/-- What every link starts with. -/
def hrefStart : Text := ['<', 'a', ' ', 'h', 'r', 'e', 'f', '=', '"']

/-- The start tag of a link, its target and class escaped. -/
def anchorTag (href : Text) (cssClass : Option Text) : Text :=
  hrefStart ++ escape href ++ ['"'] ++ classAttribute cssClass ++ ['>']

/-- The start tag of a link inside the application. -/
def linkTag (target : Route) : Text := hrefStart ++ target.path.toList ++ ['"', '>']

/-- What every button starts with. -/
def buttonStart : Text :=
  ['<', 'b', 'u', 't', 't', 'o', 'n', ' ', 'd', 'a', 't', 'a', '-', 'a', 'c', 't', 'i', 'o', 'n',
    '=', '"']

/-- The start tag of a button; the action stands in it as it is. -/
def buttonTag (action : Text) : Text := buttonStart ++ action ++ ['"', '>']

def anchorEnd : Text := endTag ['a']

def buttonEnd : Text := endTag ['b', 'u', 't', 't', 'o', 'n']

mutual
/-- The markup of a tree, followed by `after`. -/
def htmlBefore : Node → Text → Text
  | .element tag cssClass children, after =>
    if tag = lineBreak then lineBreakTag ++ after
    else startTag tag cssClass ++ htmlBeforeAll children (endTag tag ++ after)
  | .text content, after => escape content ++ after
  | .anchor href cssClass label, after =>
    anchorTag href cssClass ++ (escape label ++ (anchorEnd ++ after))
  | .link target label, after =>
    linkTag target ++ (escape label ++ (anchorEnd ++ after))
  | .button action label, after =>
    buttonTag action ++ (escape label ++ (buttonEnd ++ after))
/-- The markup of the trees of a list, followed by `after`. -/
def htmlBeforeAll : List Node → Text → Text
  | [], after => after
  | node :: rest, after => node.htmlBefore (htmlBeforeAll rest after)
end

/-- The tree as an HTML fragment. -/
def html (node : Node) : Text := node.htmlBefore []

mutual
theorem htmlBefore_eq (node : Node) (after : Text) :
    node.htmlBefore after = node.html ++ after := by
  cases node with
  | element tag cssClass children =>
    simp only [html, htmlBefore]
    split
    · rw [List.append_nil]
    · rw [htmlBeforeAll_eq children (endTag tag ++ after), htmlBeforeAll_eq children]
      simp only [List.append_assoc, List.append_nil]
  | text _ => simp only [html, htmlBefore, List.append_nil]
  | anchor _ _ _ => simp only [html, htmlBefore, List.append_assoc, List.append_nil]
  | link _ _ => simp only [html, htmlBefore, List.append_assoc, List.append_nil]
  | button _ _ => simp only [html, htmlBefore, List.append_assoc, List.append_nil]
theorem htmlBeforeAll_eq (nodes : List Node) (after : Text) :
    htmlBeforeAll nodes after = nodes.flatMap html ++ after := by
  cases nodes with
  | nil => rfl
  | cons node rest =>
    simp only [htmlBeforeAll, List.flatMap_cons]
    rw [htmlBefore_eq node, htmlBeforeAll_eq rest after, List.append_assoc]
end

theorem html_lineBreak (cssClass : Option Text) (children : List Node) :
    (Node.element lineBreak cssClass children).html = lineBreakTag := by
  simp only [html, htmlBefore, if_true, List.append_nil]

theorem html_element {tag : Text} (h : tag ≠ lineBreak) (cssClass : Option Text)
    (children : List Node) :
    (Node.element tag cssClass children).html =
      startTag tag cssClass ++ children.flatMap html ++ endTag tag := by
  simp only [html, htmlBefore, h, if_false, htmlBeforeAll_eq, List.append_nil, List.append_assoc]

theorem html_text (content : Text) : (Node.text content).html = escape content := by
  simp only [html, htmlBefore, List.append_nil]

theorem html_anchor (href : Text) (cssClass : Option Text) (label : Text) :
    (Node.anchor href cssClass label).html =
      anchorTag href cssClass ++ escape label ++ anchorEnd := by
  simp only [html, htmlBefore, List.append_nil, List.append_assoc]

theorem escape_path (target : Route) : escape target.path.toList = target.path.toList := by
  cases target <;> rfl

theorem html_link (target : Route) (label : Text) :
    (Node.link target label).html = linkTag target ++ escape label ++ anchorEnd := by
  simp only [html, htmlBefore, List.append_nil, List.append_assoc]

theorem linkTag_eq (target : Route) : linkTag target = anchorTag target.path.toList none := by
  rw [linkTag, anchorTag, escape_path, classAttribute]
  simp

/-- A link looks like an anchor without a class that leads to the route's path. -/
theorem html_link_eq_anchor (target : Route) (label : Text) :
    (Node.link target label).html = (Node.anchor target.path.toList none label).html := by
  rw [html_link, html_anchor, linkTag_eq]

theorem html_button (action label : Text) :
    (Node.button action label).html =
      buttonTag action ++ escape label ++ buttonEnd := by
  simp only [html, htmlBefore, List.append_nil, List.append_assoc]

end PersonGate.Node
