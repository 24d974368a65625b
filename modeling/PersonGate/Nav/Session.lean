import PersonGate.Nav.Bar
/-!
# Working with handles and bars

A session keeps the handles and the bars made so far and the flags behind them. Handles and bars are
named by their places in two lists that only grow; a step that names a place beyond the end is
refused and changes nothing.
-/
namespace PersonGate

/-- Login handles and navigation bars in the order of their making. -/
structure NavSession where
  store : LoginStore := {}
  handles : List LoginHandle := []
  bars : List NavBar := []
  deriving DecidableEq, Repr

namespace NavSession

/-- What can be done to handles and bars. -/
inductive Step where
  | newHandle (loggedIn : Bool)
  /-- Another handle on the same flag. -/
  | cloneHandle (handle : Nat)
  /-- A handle on a new flag with the value that this one has now. -/
  | copyHandle (handle : Nat)
  | setHandle (handle : Nat) (loggedIn : Bool)
  | getHandle (handle : Nat)
  | barOver (handle : Nat)
  | fixedBar (loggedIn : Bool)
  | cloneBar (bar : Nat)
  | html (bar : Nat)
  | links (bar : Nat)
  /-- The links inside the tree that shows the bar. -/
  | treeLinks (bar : Nat)
  deriving DecidableEq, Repr

/-- What a step answers. -/
inductive Answer where
  | done
  | place (index : Nat)
  | flag (loggedIn : Bool)
  | markup (html : Text)
  | links (links : List (Route × Text))
  deriving DecidableEq, Repr

/-- The session with one more handle, and the handle's place. -/
def addHandle (s : NavSession) (handle : LoginHandle) : NavSession × Answer :=
  ({ s with handles := s.handles ++ [handle] }, .place s.handles.length)

/-- The session with a handle on a new flag, and the handle's place. -/
def addFamily (s : NavSession) (loggedIn : Bool) : NavSession × Answer :=
  { s with store := (s.store.new loggedIn).1 }.addHandle (s.store.new loggedIn).2

/-- The session with one more bar, and the bar's place. -/
def addBar (s : NavSession) (bar : NavBar) : NavSession × Answer :=
  ({ s with bars := s.bars ++ [bar] }, .place s.bars.length)

/-- One step, unless it names a handle or bar that does not exist. -/
def step? (s : NavSession) : Step → Option (NavSession × Answer)
  | .newHandle loggedIn => some (s.addFamily loggedIn)
  | .cloneHandle i => s.handles[i]?.map s.addHandle
  | .copyHandle i => s.handles[i]?.map fun h => s.addFamily (s.store.read h)
  | .setHandle i loggedIn =>
    s.handles[i]?.map fun h => ({ s with store := s.store.write h loggedIn }, .done)
  | .getHandle i => s.handles[i]?.map fun h => (s, .flag (s.store.read h))
  | .barOver i => s.handles[i]?.map fun h => s.addBar (.over h)
  | .fixedBar loggedIn => some (s.addBar (.fixed loggedIn))
  | .cloneBar i => s.bars[i]?.map s.addBar
  | .html i => s.bars[i]?.map fun b => (s, .markup (b.tree s.store).html)
  | .links i =>
    s.bars[i]?.map fun b =>
      (s, .links ((b.links s.store).map fun link => (link.1, link.2.toList)))
  | .treeLinks i => s.bars[i]?.map fun b => (s, .links (b.tree s.store).links)

/-- The session after a step; a step that cannot be made changes nothing. -/
def after (s : NavSession) (step : Step) : NavSession :=
  match s.step? step with
  | some (next, _) => next
  | none => s

/-- What every handle sees. -/
def states (s : NavSession) : List Bool := s.handles.map s.store.read

/-- The answers to steps in a row, each with what every handle sees after it; there is no answer
where a step cannot be made. -/
def run (s : NavSession) : List Step → List (Option Answer × List Bool)
  | [] => []
  | step :: rest => ((s.step? step).map Prod.snd, (s.after step).states) :: run (s.after step) rest

end NavSession
end PersonGate
