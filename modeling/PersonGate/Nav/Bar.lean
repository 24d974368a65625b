import PersonGate.Auth.Login
import PersonGate.Markup.Html
/-!
# The navigation bar

The bar has three links: the public area, the secured area, and a way out for those who are logged
in or a way in for those who are not. What it shows is a function of one login flag, which it reads
through a handle or holds fixed. The links inside its tree are the bar's links
(`links_tree`).
-/
namespace PersonGate

/-- Where a navigation bar takes the login flag from. -/
inductive NavBar where
  | over (handle : LoginHandle)
  | fixed (loggedIn : Bool)
  deriving DecidableEq, Repr

namespace NavBar

def loggedIn (bar : NavBar) (store : LoginStore) : Bool :=
  match bar with
  | .over handle => store.read handle
  | .fixed value => value

def brandHref : String := "https://www.tmt.org/"

def brandLabel : String := "TMT"

def barClass : String := "indigo"

def wrapperClass : String := "nav-wrapper"

def brandClass : String := "brand-logo"

def listClass : String := "hide-on-med-and-down right"

/-- The way out or the way in. -/
def sessionLink (loggedIn : Bool) : Route × String :=
  if loggedIn then (.logout, "Logout") else (.login, "Login")

/-- The links of a bar, left to right. -/
def linksWhen (loggedIn : Bool) : List (Route × String) :=
  [(.publicArea, "Public"), (.securedArea, "Secured"), sessionLink loggedIn]

/-- One entry of the list of links. -/
def item (link : Route × String) : Node :=
  .element ['l', 'i'] none [.link link.1 link.2.toList]

/-- The tree that shows a bar. -/
def treeWhen (loggedIn : Bool) : Node :=
  .element ['n', 'a', 'v'] (some barClass.toList) [
    .element ['d', 'i', 'v'] (some wrapperClass.toList) [
      .anchor brandHref.toList (some brandClass.toList) brandLabel.toList,
      .element ['u', 'l'] (some listClass.toList) ((linksWhen loggedIn).map item)]]

def links (bar : NavBar) (store : LoginStore) : List (Route × String) :=
  linksWhen (bar.loggedIn store)

def tree (bar : NavBar) (store : LoginStore) : Node := treeWhen (bar.loggedIn store)

theorem links_tree (bar : NavBar) (store : LoginStore) :
    (bar.tree store).links = (bar.links store).map fun link => (link.1, link.2.toList) := by
  simp [tree, links, treeWhen, item, List.flatMap_map]
  rfl

end NavBar
end PersonGate
