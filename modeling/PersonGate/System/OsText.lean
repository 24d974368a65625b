import PersonGate.Text.Blank
/-!
# Text from outside

Command-line words and environment values are byte strings that need not be valid UTF-8. Such a
value is kept as the characters its valid parts encode and the stray bytes that belong to no
character. It reads as text exactly when it has no stray byte (`text?_ofText`).
-/
namespace PersonGate

/-- One element of a value from outside. -/
inductive OsUnit where
  | char (c : Char)
  | stray (byte : UInt8)
  deriving DecidableEq, Repr

/-- A value from outside: characters and stray bytes. -/
abbrev OsText := List OsUnit

namespace OsUnit

/-- The character, unless the element is a stray byte. -/
def char? : OsUnit → Option Char
  | .char c => some c
  | .stray _ => none

end OsUnit

namespace OsText

def ofText (t : Text) : OsText := t.map .char

/-- The text, unless a stray byte is in the way. -/
def text? (value : OsText) : Option Text := value.mapM OsUnit.char?

theorem text?_ofText (t : Text) : text? (ofText t) = some t := by
  induction t with
  | nil => rfl
  | cons c r ih =>
    simp only [text?, ofText, List.map_cons, List.mapM_cons, OsUnit.char?] at ih ⊢
    rw [ih]
    rfl

theorem text?_eq_some_iff {value : OsText} {t : Text} : text? value = some t ↔ value = ofText t := by
  refine ⟨fun h => ?_, fun h => h ▸ text?_ofText t⟩
  induction value generalizing t with
  | nil =>
    cases h
    rfl
  | cons unit rest ih =>
    rw [text?, List.mapM_cons] at h
    obtain ⟨c, hc, h⟩ := Option.bind_eq_some_iff.1 h
    obtain ⟨more, hmore, h⟩ := Option.bind_eq_some_iff.1 h
    obtain rfl : c :: more = t := by simpa using h
    cases unit with
    | stray byte => cases hc
    | char d =>
      cases hc
      rw [ih hmore]
      rfl

/-! ## Reading UTF-8 -/

/-- The payload of a continuation byte. -/
def continuation? (b : UInt8) : Option Nat :=
  if 0x80 ≤ b ∧ b < 0xC0 then some (b.toNat - 0x80) else none

/-- The character for a scalar value of at least `least`, so that no character has two forms. -/
def scalar? (least n : Nat) : Option Char :=
  if h : n.isValidChar then if least ≤ n then some (Char.ofNatAux n h) else none else none

/-- The character that the bytes start with and the number of bytes it takes. -/
def decodeFirst? : List UInt8 → Option (Char × Nat)
  | [] => none
  | b :: rest =>
    if b < 0x80 then (scalar? 0 b.toNat).map (·, 1)
    else if 0xC0 ≤ b ∧ b < 0xE0 then do
      let x ← rest[0]? >>= continuation?
      return (← scalar? 0x80 ((b.toNat - 0xC0) * 0x40 + x), 2)
    else if 0xE0 ≤ b ∧ b < 0xF0 then do
      let x ← rest[0]? >>= continuation?
      let y ← rest[1]? >>= continuation?
      return (← scalar? 0x800 (((b.toNat - 0xE0) * 0x40 + x) * 0x40 + y), 3)
    else if 0xF0 ≤ b ∧ b < 0xF8 then do
      let x ← rest[0]? >>= continuation?
      let y ← rest[1]? >>= continuation?
      let z ← rest[2]? >>= continuation?
      return (← scalar? 0x10000 ((((b.toNat - 0xF0) * 0x40 + x) * 0x40 + y) * 0x40 + z), 4)
    else none

/-- The characters that valid UTF-8 encodes; a byte at which no character starts is a stray. -/
def ofBytes (bytes : List UInt8) : OsText := read bytes 0
where
  /-- Reads on after `skip` bytes that belong to the character before. -/
  read : List UInt8 → Nat → OsText
    | [], _ => []
    | _ :: rest, skip + 1 => read rest skip
    | b :: rest, 0 =>
      match decodeFirst? (b :: rest) with
      | some (c, size) => .char c :: read rest (size - 1)
      | none => .stray b :: read rest 0

end OsText
end PersonGate
