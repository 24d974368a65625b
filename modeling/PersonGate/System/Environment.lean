import PersonGate.System.OsText
/-!
# Environment variables

An environment maps names to values from outside. A name that is empty or holds `=` or NUL is never
found, and a value that is not text reads as if it were not set (`var?`).
-/
namespace PersonGate

/-- Environment variables; the first entry of a name is the one that counts. -/
structure Environment where
  entries : List (Text × OsText) := []
  deriving DecidableEq, Repr

namespace Environment

/-- Can a variable have this name? -/
def validName (name : Text) : Bool := !name.isEmpty && !name.contains '=' && !name.contains '\x00'

/-- The value of a variable as it is. -/
def get? (env : Environment) (name : Text) : Option OsText :=
  if validName name then env.entries.lookup name else none

/-- The value of a variable that is set to text. -/
def var? (env : Environment) (name : Text) : Option Text := env.get? name >>= OsText.text?

def unset (env : Environment) (name : Text) : Environment :=
  ⟨env.entries.filter fun entry => entry.1 != name⟩

def set (env : Environment) (name : Text) (value : OsText) : Environment :=
  ⟨(name, value) :: (env.unset name).entries⟩

/-- The entry that the bytes of `name=value` make. -/
def entryOfBytes (bytes : List UInt8) : Option (Text × OsText) :=
  (OsText.text? (OsText.ofBytes (bytes.takeWhile (· != 61)))).map fun name =>
    (name, OsText.ofBytes ((bytes.dropWhile (· != 61)).drop 1))

/-- The environment in a block of entries, each with a zero byte after it. -/
def ofBlock (block : List UInt8) : Environment := ⟨(block.splitOn 0).filterMap entryOfBytes⟩

theorem get?_set_self (env : Environment) (name : Text) (value : OsText) :
    (env.set name value).get? name = if validName name then some value else none := by
  simp [get?, set]

theorem lookup_filter_ne {α : Type} {name other : Text} (h : other ≠ name)
    (entries : List (Text × α)) :
    (entries.filter fun entry => entry.1 != name).lookup other = entries.lookup other := by
  induction entries with
  | nil => rfl
  | cons e es ih =>
    obtain ⟨key, value⟩ := e
    by_cases hk : key = name
    · subst hk
      have hb : (other == key) = false := by simpa using h
      simpa [List.filter, List.lookup_cons, hb] using ih
    · rw [List.filter_cons_of_pos (by simpa using hk)]
      rw [List.lookup_cons, List.lookup_cons]
      split
      · rfl
      · exact ih

theorem get?_unset_self (env : Environment) (name : Text) : (env.unset name).get? name = none := by
  have hnone : (env.unset name).entries.lookup name = none := by
    rw [List.lookup_eq_none_iff]
    intro entry hmem
    obtain ⟨-, hother⟩ := List.mem_filter.1 hmem
    exact bne_iff_ne.2 (Ne.symm (bne_iff_ne.1 hother))
  rw [get?, hnone, ite_self]

theorem get?_unset_of_ne {name other : Text} (h : other ≠ name) (env : Environment) :
    (env.unset name).get? other = env.get? other := by
  simp [get?, unset, lookup_filter_ne h]

theorem get?_set_of_ne {name other : Text} (h : other ≠ name) (env : Environment)
    (value : OsText) : (env.set name value).get? other = env.get? other := by
  have hb : (other == name) = false := by simp [h]
  simp [get?, set, unset, List.lookup_cons, hb, lookup_filter_ne h]

end Environment
end PersonGate
