import PersonGate.Text.Blank
/-!
# View trees

What a part of the user interface shows is a tree of plain data. Links inside the application carry
a `Route`, so the list of them (`Node.links`) can be read off the tree without looking at markup.
-/
namespace PersonGate

/-- Where a link inside the application leads. -/
inductive Route where
  | publicArea
  | securedArea
  | login
  | logout
  deriving DecidableEq, Repr

/-- The path of a route. -/
def Route.path : Route → String
  | .publicArea => "/public"
  | .securedArea => "/secured"
  | .login => "/login"
  | .logout => "/logout"

/-- A tree of things to show. -/
inductive Node where
  | element (tag : Text) (cssClass : Option Text) (children : List Node)
  | text (content : Text)
  /-- A link that leaves the application. -/
  | anchor (href : Text) (cssClass : Option Text) (label : Text)
  /-- A link inside the application. -/
  | link (target : Route) (label : Text)
  /-- Something to click, known by its `action`. -/
  | button (action : Text) (label : Text)
  deriving Repr

namespace Node

/-! ## Links in document order -/

mutual
/-- The links inside a tree, followed by `after`. -/
def linksBefore : Node → List (Route × Text) → List (Route × Text)
  | .link target label, after => (target, label) :: after
  | .element _ _ children, after => linksBeforeAll children after
  | .text _, after | .anchor _ _ _, after | .button _ _, after => after
/-- The links inside the trees of a list, followed by `after`. -/
def linksBeforeAll : List Node → List (Route × Text) → List (Route × Text)
  | [], after => after
  | node :: rest, after => node.linksBefore (linksBeforeAll rest after)
end

/-- The routes and labels of the links in a tree, in document order. -/
def links (node : Node) : List (Route × Text) := node.linksBefore []

mutual
theorem linksBefore_eq (node : Node) (after : List (Route × Text)) :
    node.linksBefore after = node.links ++ after := by
  cases node with
  | link _ _ => rfl
  | element _ _ children =>
    simp only [links, linksBefore]
    rw [linksBeforeAll_eq children after, linksBeforeAll_eq children []]
    simp
  | text _ => rfl
  | anchor _ _ _ => rfl
  | button _ _ => rfl
theorem linksBeforeAll_eq (nodes : List Node) (after : List (Route × Text)) :
    linksBeforeAll nodes after = nodes.flatMap links ++ after := by
  cases nodes with
  | nil => rfl
  | cons node rest =>
    simp only [linksBeforeAll, List.flatMap_cons]
    rw [linksBefore_eq node, linksBeforeAll_eq rest after, List.append_assoc]
end

@[simp] theorem links_link (target : Route) (label : Text) :
    (Node.link target label).links = [(target, label)] := rfl

@[simp] theorem links_element (tag : Text) (cssClass : Option Text) (children : List Node) :
    (Node.element tag cssClass children).links = children.flatMap links := by
  simp [links, linksBefore, linksBeforeAll_eq]

@[simp] theorem links_text (content : Text) : (Node.text content).links = [] := rfl

@[simp] theorem links_anchor (href : Text) (cssClass : Option Text) (label : Text) :
    (Node.anchor href cssClass label).links = [] := rfl

@[simp] theorem links_button (action label : Text) : (Node.button action label).links = [] := rfl

/-! ## Equality of trees -/

mutual
/-- Are the trees the same? -/
def same : Node → Node → Bool
  | .element t c ns, .element t' c' ns' => t == t' && c == c' && sameAll ns ns'
  | .text t, .text t' => t == t'
  | .anchor h c l, .anchor h' c' l' => h == h' && c == c' && l == l'
  | .link r l, .link r' l' => r == r' && l == l'
  | .button a l, .button a' l' => a == a' && l == l'
  | _, _ => false
/-- Are the lists of trees the same? -/
def sameAll : List Node → List Node → Bool
  | [], [] => true
  | n :: ns, n' :: ns' => same n n' && sameAll ns ns'
  | _, _ => false
end

mutual
theorem same_iff (a b : Node) : a.same b = true ↔ a = b := by
  cases a <;> cases b <;> simp [same, and_assoc]
  case element.element _ _ ns _ _ ns' => rw [sameAll_iff ns ns']; simp
theorem sameAll_iff (as bs : List Node) : sameAll as bs = true ↔ as = bs := by
  cases as with
  | nil => cases bs <;> simp [sameAll]
  | cons a as =>
    cases bs with
    | nil => simp [sameAll]
    | cons b bs => simp [sameAll, same_iff a b, sameAll_iff as bs]
end

instance : DecidableEq Node := fun a b => decidable_of_iff _ (same_iff a b)

end Node
end PersonGate
