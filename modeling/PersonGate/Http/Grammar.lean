import PersonGate.Text.Blank
/-!
# Words of an HTTP message

Methods and header names are tokens: one or more ASCII letters, digits and certain marks. A header
value is sent if it has no control character other than tab; it can be read back as text if it is
made of tab and visible ASCII, the space included.
-/
namespace PersonGate.Http

/-- The marks that a token may have beside letters and digits. -/
def tokenMarks : List Char :=
  ['!', '#', '$', '%', '&', '\'', '*', '+', '-', '.', '^', '_', '\x60', '|', '~']

def isTokenChar (c : Char) : Bool := c.isAlphanum || tokenMarks.contains c

def isToken (t : Text) : Bool := !t.isEmpty && t.all isTokenChar

/-- The largest number of characters in the name of a header. -/
def maxNameLength : Nat := 65535

/-- Can the text be the name of a header? -/
def isHeaderName (t : Text) : Bool := isToken t && t.length ≤ maxNameLength

/-- Can the character stand in a header value? -/
def isSendable (c : Char) : Bool := c == '\t' || (0x20 ≤ c.toNat && c.toNat != 0x7F)

/-- Can the character be read back from a header value? -/
def isReadable (c : Char) : Bool := c == '\t' || (0x20 ≤ c.toNat && c.toNat < 0x7F)

/-- The value of a header as text, if all of it can be read. -/
def readable? (value : Text) : Option Text := if value.all isReadable then some value else none

theorem isSendable_of_isReadable {c : Char} (h : isReadable c = true) : isSendable c = true := by
  simp only [isReadable, isSendable, Bool.or_eq_true, Bool.and_eq_true, decide_eq_true_eq,
    bne_iff_ne] at h ⊢
  exact h.imp_right fun hc => ⟨hc.1, by omega⟩

end PersonGate.Http
