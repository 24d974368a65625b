/-!
# Shared login flags

Whether someone is logged in is one flag, shared by all handles of a family. Making a handle anew
starts a family; cloning a handle stays in its family. Writing through one handle is seen through
every handle of its family and through no other (`read_write`).
-/
namespace PersonGate

/-- Access to the flag of one family. -/
structure LoginHandle where
  family : Nat
  deriving DecidableEq, Repr

/-- The flags of all families, in the order in which the families began. -/
structure LoginStore where
  flags : List Bool := []
  deriving DecidableEq, Repr

namespace LoginStore

/-- What a handle sees. -/
def read (store : LoginStore) (handle : LoginHandle) : Bool :=
  store.flags.getD handle.family false

/-- The store with a new family, and its first handle. -/
def new (store : LoginStore) (loggedIn : Bool) : LoginStore × LoginHandle :=
  (⟨store.flags ++ [loggedIn]⟩, ⟨store.flags.length⟩)

/-- The store after a change of one family's flag. -/
def write (store : LoginStore) (handle : LoginHandle) (loggedIn : Bool) : LoginStore :=
  ⟨store.flags.set handle.family loggedIn⟩

theorem read_new (store : LoginStore) (loggedIn : Bool) :
    (store.new loggedIn).1.read (store.new loggedIn).2 = loggedIn := by
  simp [new, read]

theorem read_new_of_lt {store : LoginStore} {handle : LoginHandle}
    (h : handle.family < store.flags.length) (loggedIn : Bool) :
    (store.new loggedIn).1.read handle = store.read handle := by
  simp [new, read, List.getElem?_append_left h]

theorem read_write {store : LoginStore} {handle : LoginHandle}
    (h : handle.family < store.flags.length) (other : LoginHandle) (loggedIn : Bool) :
    (store.write handle loggedIn).read other =
      if other.family = handle.family then loggedIn else store.read other := by
  by_cases he : other.family = handle.family
  · simp [write, read, he, h]
  · simp [write, read, he, List.getElem?_set_ne (Ne.symm he)]

end LoginStore
end PersonGate
