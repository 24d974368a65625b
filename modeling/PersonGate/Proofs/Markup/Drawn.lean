import Mathlib.Data.List.Basic
import PersonGate.Markup.Html
/-!
# The links that markup draws

The links of a tree are read off the tree, and its markup draws them one by one, but for those
inside a line break: that is an element without content, so nothing of its children is written.
`segments` is the markup cut at the links that it draws. That these are the right places shows when
every link of the tree is replaced by something else: the markup changes there and nowhere else
(`html_replaceLinks`). Which links are drawn is told by `drawn_exact`.
-/
namespace PersonGate.Node
open Markup

/-! ## Markup cut at its links -/

/-- A part of markup: a link that is drawn, or what stands between two of them. -/
inductive Segment where
  | plain (markup : Text)
  | link (target : Route) (label : Text)
  deriving DecidableEq, Repr

namespace Segment

/-- The text of a part, when links are drawn in some way. -/
def text (draw : Route → Text → Text) : Segment → Text
  | .plain markup => markup
  | .link target label => draw target label

def link? : Segment → Option (Route × Text)
  | .plain _ => none
  | .link target label => some (target, label)

end Segment

mutual
/-- The markup of a tree, cut at the links that it draws. -/
def segments : Node → List Segment
  | .element tag cssClass children =>
    if tag = lineBreak then [.plain lineBreakTag]
    else .plain (startTag tag cssClass) :: (segmentsAll children ++ [.plain (endTag tag)])
  | .text content => [.plain (escape content)]
  | .anchor href cssClass label => [.plain (anchorTag href cssClass ++ escape label ++ anchorEnd)]
  | .link target label => [.link target label]
  | .button action label => [.plain (buttonTag action ++ escape label ++ buttonEnd)]
/-- The markup of the trees of a list, cut in the same way. -/
def segmentsAll : List Node → List Segment
  | [] => []
  | node :: rest => node.segments ++ segmentsAll rest
end

/-- The routes and labels of the links whose markup is written, in the order of the markup. -/
def drawn (node : Node) : List (Route × Text) := node.segments.filterMap Segment.link?

mutual
/-- The tree with something else in the place of every link. -/
def replaceLinks (replace : Route → Text → Node) : Node → Node
  | .element tag cssClass children =>
    .element tag cssClass (replaceLinksAll replace children)
  | .text content => .text content
  | .anchor href cssClass label => .anchor href cssClass label
  | .link target label => replace target label
  | .button action label => .button action label
def replaceLinksAll (replace : Route → Text → Node) : List Node → List Node
  | [] => []
  | node :: rest => node.replaceLinks replace :: replaceLinksAll replace rest
end

mutual
/-- The markup of a tree holds its links at the cuts and nowhere else. -/
theorem html_replaceLinks (replace : Route → Text → Node) (node : Node) :
    (node.replaceLinks replace).html =
      node.segments.flatMap (Segment.text fun target label => (replace target label).html) := by
  cases node with
  | element tag cssClass children =>
    rw [replaceLinks, segments]
    split
    · rename_i hbreak
      simp [hbreak, html_lineBreak, Segment.text]
    · rename_i hbreak
      rw [html_element hbreak, html_replaceLinksAll replace children]
      simp [Segment.text]
  | text content => simp [replaceLinks, segments, html_text, Segment.text]
  | anchor href cssClass label => simp [replaceLinks, segments, html_anchor, Segment.text]
  | link target label => simp [replaceLinks, segments, Segment.text]
  | button action label => simp [replaceLinks, segments, html_button, Segment.text]
theorem html_replaceLinksAll (replace : Route → Text → Node) (nodes : List Node) :
    (replaceLinksAll replace nodes).flatMap html =
      (segmentsAll nodes).flatMap
        (Segment.text fun target label => (replace target label).html) := by
  cases nodes with
  | nil => rfl
  | cons node rest =>
    rw [replaceLinksAll, segmentsAll, List.flatMap_cons, List.flatMap_append,
      html_replaceLinks replace node, html_replaceLinksAll replace rest]
end

mutual
theorem replaceLinks_link (node : Node) : node.replaceLinks link = node := by
  cases node with
  | element tag cssClass children => rw [replaceLinks, replaceLinksAll_link children]
  | text content => rfl
  | anchor href cssClass label => rfl
  | link target label => rfl
  | button action label => rfl
theorem replaceLinksAll_link (nodes : List Node) : replaceLinksAll link nodes = nodes := by
  cases nodes with
  | nil => rfl
  | cons node rest => rw [replaceLinksAll, replaceLinks_link node, replaceLinksAll_link rest]
end

/-- The markup of a tree is put together from its segments. -/
theorem html_eq_segments (node : Node) :
    node.html =
      node.segments.flatMap (Segment.text fun target label => (link target label).html) := by
  rw [← html_replaceLinks link node, replaceLinks_link]

/-! ## Which links are drawn -/

mutual
/-- All trees that a tree is made of, itself included, in document order. -/
def subtrees : Node → List Node
  | .element tag cssClass children => .element tag cssClass children :: subtreesAll children
  | .text content => [.text content]
  | .anchor href cssClass label => [.anchor href cssClass label]
  | .link target label => [.link target label]
  | .button action label => [.button action label]
def subtreesAll : List Node → List Node
  | [] => []
  | node :: rest => node.subtrees ++ subtreesAll rest
end

mutual
/-- The tree with nothing inside its line breaks. -/
def emptyBreaks : Node → Node
  | .element tag cssClass children =>
    if tag = lineBreak then .element tag cssClass []
    else .element tag cssClass (emptyBreaksAll children)
  | .text content => .text content
  | .anchor href cssClass label => .anchor href cssClass label
  | .link target label => .link target label
  | .button action label => .button action label
def emptyBreaksAll : List Node → List Node
  | [] => []
  | node :: rest => node.emptyBreaks :: emptyBreaksAll rest
end

/-- No line break in the tree has a link inside. -/
def BreaksHoldNoLink (node : Node) : Prop :=
  ∀ cssClass children, .element lineBreak cssClass children ∈ node.subtrees →
    children.flatMap links = []

theorem segmentsAll_eq (nodes : List Node) : segmentsAll nodes = nodes.flatMap segments := by
  induction nodes with
  | nil => rfl
  | cons node rest ih => rw [segmentsAll, ih, List.flatMap_cons]

theorem subtreesAll_eq (nodes : List Node) : subtreesAll nodes = nodes.flatMap subtrees := by
  induction nodes with
  | nil => rfl
  | cons node rest ih => rw [subtreesAll, ih, List.flatMap_cons]

theorem drawn_lineBreak (cssClass : Option Text) (children : List Node) :
    (Node.element lineBreak cssClass children).drawn = [] := by
  rw [drawn, segments, if_pos rfl]
  rfl

theorem drawn_element {tag : Text} (h : tag ≠ lineBreak) (cssClass : Option Text)
    (children : List Node) :
    (Node.element tag cssClass children).drawn = children.flatMap drawn := by
  rw [drawn, segments, if_neg h, segmentsAll_eq]
  simp only [List.filterMap_cons, List.filterMap_append, List.filterMap_nil, Segment.link?,
    List.append_nil, List.filterMap_flatMap]
  rfl

mutual
/-- What is drawn is what is left when the line breaks are empty. -/
theorem links_emptyBreaks (node : Node) : node.emptyBreaks.links = node.drawn := by
  cases node with
  | element tag cssClass children =>
    rw [emptyBreaks]
    split
    · rename_i hbreak
      rw [hbreak, drawn_lineBreak, links_element, List.flatMap_nil]
    · rename_i hbreak
      rw [drawn_element hbreak, links_element, links_emptyBreaksAll children]
  | text content => rfl
  | anchor href cssClass label => rfl
  | link target label => rfl
  | button action label => rfl
theorem links_emptyBreaksAll (nodes : List Node) :
    (emptyBreaksAll nodes).flatMap links = nodes.flatMap drawn := by
  cases nodes with
  | nil => rfl
  | cons node rest =>
    rw [emptyBreaksAll, List.flatMap_cons, List.flatMap_cons, links_emptyBreaks node,
      links_emptyBreaksAll rest]
end

mutual
/-- No link is drawn that the tree does not have. -/
theorem drawn_sublist_links (node : Node) : node.drawn.Sublist node.links := by
  cases node with
  | element tag cssClass children =>
    by_cases hbreak : tag = lineBreak
    · rw [hbreak, drawn_lineBreak]
      exact List.nil_sublist _
    · rw [drawn_element hbreak, links_element]
      exact drawn_sublist_linksAll children
  | text content => exact List.Sublist.refl _
  | anchor href cssClass label => exact List.Sublist.refl _
  | link target label => exact List.Sublist.refl _
  | button action label => exact List.Sublist.refl _
theorem drawn_sublist_linksAll (nodes : List Node) :
    (nodes.flatMap drawn).Sublist (nodes.flatMap links) := by
  cases nodes with
  | nil => exact List.Sublist.refl _
  | cons node rest =>
    rw [List.flatMap_cons, List.flatMap_cons]
    exact (drawn_sublist_links node).append (drawn_sublist_linksAll rest)
end

mutual
theorem drawn_eq_links (node : Node) (h : node.BreaksHoldNoLink) : node.drawn = node.links := by
  cases node with
  | element tag cssClass children =>
    by_cases hbreak : tag = lineBreak
    · subst hbreak
      have hself := h cssClass children (by rw [subtrees]; exact List.mem_cons_self)
      rw [drawn_lineBreak, links_element, hself]
    · rw [drawn_element hbreak, links_element]
      refine drawn_eq_linksAll children fun cssClass' children' hmem => h cssClass' children' ?_
      rw [subtrees, subtreesAll_eq]
      exact List.mem_cons_of_mem _ hmem
  | text content => rfl
  | anchor href cssClass label => rfl
  | link target label => rfl
  | button action label => rfl
theorem drawn_eq_linksAll (nodes : List Node)
    (h : ∀ cssClass children, .element lineBreak cssClass children ∈ nodes.flatMap subtrees →
      children.flatMap links = []) : nodes.flatMap drawn = nodes.flatMap links := by
  cases nodes with
  | nil => rfl
  | cons node rest =>
    simp only [List.flatMap_cons, List.mem_append] at h ⊢
    rw [drawn_eq_links node fun cssClass children hmem => h cssClass children (.inl hmem),
      drawn_eq_linksAll rest fun cssClass children hmem => h cssClass children (.inr hmem)]
end

section
variable {cssClass : Option Text} {children : List Node}

mutual
/-- The links inside a line break are missing from those that are drawn. -/
theorem length_drawn_le (node : Node)
    (h : .element lineBreak cssClass children ∈ node.subtrees) :
    node.drawn.length + (children.flatMap links).length ≤ node.links.length := by
  cases node with
  | element tag ownClass own =>
    rw [subtrees, List.mem_cons] at h
    rw [links_element]
    by_cases hbreak : tag = lineBreak
    · subst hbreak
      rw [drawn_lineBreak, List.length_nil, Nat.zero_add]
      rcases h with h | h
      · cases h
        exact Nat.le_refl _
      · have hinside := length_drawn_leAll own h
        omega
    · rw [drawn_element hbreak]
      rcases h with h | h
      · cases h
        exact absurd rfl hbreak
      · exact length_drawn_leAll own h
  | text content => simp [subtrees] at h
  | anchor href ownClass label => simp [subtrees] at h
  | link target label => simp [subtrees] at h
  | button action label => simp [subtrees] at h
theorem length_drawn_leAll (nodes : List Node)
    (h : .element lineBreak cssClass children ∈ subtreesAll nodes) :
    (nodes.flatMap drawn).length + (children.flatMap links).length ≤
      (nodes.flatMap links).length := by
  cases nodes with
  | nil => simp [subtreesAll] at h
  | cons node rest =>
    rw [subtreesAll, List.mem_append] at h
    simp only [List.flatMap_cons, List.length_append]
    rcases h with h | h
    · have hnode := length_drawn_le node h
      have hrest := (drawn_sublist_linksAll rest).length_le
      omega
    · have hnode := (drawn_sublist_links node).length_le
      have hrest := length_drawn_leAll rest h
      omega
end
end

/-- The links that the markup of a tree draws are known exactly: each stands at a cut of the markup,
and replacing the links changes the markup at the cuts only. They are the links of the tree with
nothing inside its line breaks, in the same order and as often. So no link is drawn that the tree
does not have, and the tree has no other links exactly when no line break holds one. -/
theorem drawn_exact :
    ∀ node : Node,
      node.html =
        node.segments.flatMap (Segment.text fun target label => (link target label).html) ∧
      (∀ replace : Route → Text → Node,
        (node.replaceLinks replace).html =
          node.segments.flatMap (Segment.text fun target label => (replace target label).html)) ∧
      node.drawn = node.emptyBreaks.links ∧
      node.drawn.Sublist node.links ∧
      (node.drawn = node.links ↔ node.BreaksHoldNoLink) := by
  intro node
  refine ⟨html_eq_segments node, fun replace => html_replaceLinks replace node,
    (links_emptyBreaks node).symm, drawn_sublist_links node, fun hall => ?_, drawn_eq_links node⟩
  intro cssClass children hmem
  -- A link inside the line break would be one that the tree has and the markup does not draw.
  have hle := length_drawn_le node hmem
  rw [hall] at hle
  exact List.eq_nil_of_length_eq_zero (by omega)

/-- A line break is written without what it holds, so its link is not drawn. -/
theorem link_in_lineBreak_not_drawn :
    (Node.element lineBreak none [.link .login ['x']]).html = lineBreakTag ∧
    (Node.element lineBreak none [.link .login ['x']]).links = [(.login, ['x'])] ∧
    (Node.element lineBreak none [.link .login ['x']]).drawn = [] := by
  exact ⟨html_lineBreak _ _, rfl, drawn_lineBreak _ _⟩

end PersonGate.Node
