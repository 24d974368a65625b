import PersonGate.Text.Hex
/-!
# Identifiers of persons

A new person gets sixteen random bytes for an identifier, of which six bits say that they are
random. It is written in lower-case hexadecimal with hyphens between five groups of digits.
-/
namespace PersonGate.Service

/-- The number of bytes in an identifier. -/
def identifierBytes : Nat := 16

/-- The bytes with the marks of a random identifier. -/
def markRandom (bytes : List UInt8) : List UInt8 :=
  (bytes.modify 6 fun b => (b &&& 0x0F) ||| 0x40).modify 8 fun b => (b &&& 0x3F) ||| 0x80

/-- The digits in groups of these lengths, and what is left of them as the last group. -/
def groupDigits : List Nat → Text → Text
  | [], digits => digits
  | size :: sizes, digits => digits.take size ++ '-' :: groupDigits sizes (digits.drop size)

/-- The identifier made of random bytes. -/
def identifier (random : List UInt8) : Text :=
  groupDigits [8, 4, 4, 4] (Text.encodeHex (markRandom random))

end PersonGate.Service
