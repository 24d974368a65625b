import PersonGate.Markup.Html
/-!
# What markup keeps of a tree

Different trees can have the same markup. `Node.norm` brings a tree to the form that its markup
tells: a line break is bare, a link inside the application is an anchor, and texts next to each other
are one. The form has the same markup as the tree (`html_norm`), so nothing else can be told apart.
`wellTagged` trees are those whose tags and actions can stand in markup as they are.
-/
namespace PersonGate.Node

/-! ## Trees that can be told -/

/-- Can the text be a tag? -/
def isTag (tag : Text) : Bool := !tag.isEmpty && tag.all Char.isAlphanum

mutual
/-- Are the tags names, and do the actions stay inside their quotes? -/
def wellTagged : Node → Bool
  | .element tag _ children => isTag tag && wellTaggedAll children
  | .button action _ => !action.contains '"'
  | .text _ | .anchor _ _ _ | .link _ _ => true
def wellTaggedAll : List Node → Bool
  | [] => true
  | node :: rest => node.wellTagged && wellTaggedAll rest
end

/-! ## The form that markup tells -/

/-- A node in front of others: an empty text goes, and texts next to each other are one. -/
def join : Node → List Node → List Node
  | .text content, .text more :: rest => .text (content ++ more) :: rest
  | .text [], rest => rest
  | node, rest => node :: rest

mutual
/-- The form of a tree that its markup tells. -/
def norm : Node → Node
  | .element tag cssClass children =>
    if tag = lineBreak then .element lineBreak none []
    else .element tag cssClass (normAll children)
  | .text content => .text content
  | .anchor href cssClass label => .anchor href cssClass label
  | .link target label => .anchor target.path.toList none label
  | .button action label => .button action label
def normAll : List Node → List Node
  | [] => []
  | node :: rest => join node.norm (normAll rest)
end

@[simp] theorem join_text_nil (rest : List Node) : join (.text []) rest = rest := by
  unfold join
  split <;> simp_all

theorem join_text_text (a b : Text) (rest : List Node) :
    join (.text a) (join (.text b) rest) = join (.text (a ++ b)) rest := by
  cases b with
  | nil => rw [join_text_nil, List.append_nil]
  | cons c b =>
    cases rest with
    | nil => cases a <;> simp [join]
    | cons node rest => cases node <;> cases a <;> simp [join]

theorem html_join (node : Node) (rest : List Node) :
    (join node rest).flatMap html = node.html ++ rest.flatMap html := by
  unfold join
  split
  · simp [html_text, Markup.escape_append]
  · simp [html_text]
  · simp

mutual
theorem html_norm (node : Node) : node.norm.html = node.html := by
  cases node with
  | element tag cssClass children =>
    simp only [norm]
    split
    · rename_i h
      rw [h, html_lineBreak, html_lineBreak]
    · rename_i h
      rw [html_element h, html_element h, html_normAll children]
  | link target label => rw [norm, html_link_eq_anchor]
  | text _ => rfl
  | anchor _ _ _ => rfl
  | button _ _ => rfl
theorem html_normAll (nodes : List Node) : (normAll nodes).flatMap html = nodes.flatMap html := by
  cases nodes with
  | nil => rfl
  | cons node rest =>
    rw [normAll, html_join, html_norm node, html_normAll rest, List.flatMap_cons]
end

end PersonGate.Node
