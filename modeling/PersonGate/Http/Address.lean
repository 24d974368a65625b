import PersonGate.Http.Uri
import PersonGate.Text.Decimal
import PersonGate.Text.Hex
/-!
# Addresses

An address names a scheme, a host with an optional port, a path and an optional query. It is read
leniently: control characters and spaces at its ends do not count, nor do tabs and line breaks
anywhere, a backslash is as good as a slash, and a fragment is dropped. What comes out is in normal
form: no segment of the path is a dot or two (`resolve` walks them), and what cannot stand in a path
or query is percent-encoded.
-/
namespace PersonGate.Http

/-- What a connection is opened to. -/
structure Origin where
  /-- Is the connection encrypted? -/
  secure : Bool
  host : Text
  port : Fin 65536
  deriving DecidableEq, Repr

/-- An address in normal form. -/
structure Address where
  origin : Origin
  path : Text
  query : Option Text
  deriving DecidableEq, Repr

namespace Origin

def scheme : Bool → Text
  | false => ['h', 't', 't', 'p']
  | true => ['h', 't', 't', 'p', 's']

/-- The port of an address that names none. -/
def standardPort : Bool → Fin 65536
  | false => ⟨80, by decide⟩
  | true => ⟨443, by decide⟩

/-- The characters that no host name has. -/
def hostStops : List Char :=
  [' ', '#', '%', '/', ':', '<', '>', '?', '@', '[', '\\', ']', '^', '|']

/-- Can the character stand in a host name? -/
def isHostChar (c : Char) : Bool :=
  0x20 ≤ c.toNat && c.toNat < 0x7F && !hostStops.contains c

/-- Can the character stand in an address in brackets? -/
def isBracketChar (c : Char) : Bool :=
  c.isDigit || ('a' ≤ c.toLower && c.toLower ≤ 'f') || c == ':' || c == '.'

/-- The host that an authority starts with, in lower case, and the text behind it. -/
def cutHost? : Text → Option (Text × Text)
  | '[' :: rest =>
    match Text.cut? ']' rest with
    | some (host, behind) =>
      if host ≠ [] ∧ host.all isBracketChar then some (host.map Char.toLower, behind) else none
    | none => none
  | t =>
    let (host, behind) := Text.upTo (· == ':') t
    if host ≠ [] ∧ host.all isHostChar then some (host.map Char.toLower, behind) else none

/-- The port that the text behind a host gives. -/
def port? (secure : Bool) : Text → Option (Fin 65536)
  | [] | [':'] => some (standardPort secure)
  | ':' :: digits => if digits.all Char.isDigit then Text.unsigned? 65536 digits else none
  | _ => none

/-- The origin that an authority gives; whatever is in front of its last `@` does not count. -/
def ofAuthority? (secure : Bool) (authority : Text) : Option Origin := do
  let (host, behind) ← cutHost? (authority.reverse.takeWhile (· ≠ '@')).reverse
  let port ← port? secure behind
  return ⟨secure, host, port⟩

/-- The host and, unless it is the standard one, the port. -/
def label (origin : Origin) : Text :=
  let host := if origin.host.contains ':' then '[' :: origin.host ++ [']'] else origin.host
  if origin.port = standardPort origin.secure then host
  else host ++ ':' :: Nat.toDigits 10 origin.port

end Origin

namespace Address

/-! ## Percent encoding -/

/-- A byte as a percent sign and two upper-case digits. -/
def percentByte (b : UInt8) : Text := '%' :: (Text.encodeHex [b]).map Char.toUpper

/-- The text with the bytes of all characters that do not stay percent-encoded. -/
def percentEncode (stays : Char → Bool) (t : Text) : Text :=
  t.flatMap fun c => if stays c then [c] else (String.utf8EncodeChar c).flatMap percentByte

def isVisible (c : Char) : Bool := 0x20 < c.toNat && c.toNat < 0x7F

/-- The visible characters that are encoded in a path. -/
def pathStops : List Char := ['"', '#', '<', '>', '?', '^', '\x60', '\x7b', '\x7d']

/-- The visible characters that are encoded in a query. -/
def queryStops : List Char := ['"', '#', '<', '>', '\'']

/-- Does the character stay as it is in a path? -/
def staysInPath (c : Char) : Bool := isVisible c && !pathStops.contains c

/-- Does the character stay as it is in a query? -/
def staysInQuery (c : Char) : Bool := isVisible c && !queryStops.contains c

/-! ## Paths -/

/-- The ways to write a dot. -/
def dots : List Text := [['.'], ['%', '2', 'e'], ['%', '2', 'E']]

/-- Does the segment stand for the place that it is in? -/
def isHere (segment : Text) : Bool := dots.contains segment

/-- Does the segment stand for the place above? -/
def isAbove (segment : Text) : Bool := dots.any fun a => dots.any fun b => segment == a ++ b

/-- The segments that remain after walking along the given ones; `walked` are those behind, the last
one first. A walk that ends with dots ends at an empty segment. -/
def resolve (walked : List Text) : List Text → List Text
  | [] => walked.reverse
  | segment :: rest =>
    let next :=
      if isAbove segment then walked.tail
      else if isHere segment then walked
      else segment :: walked
    if rest = [] ∧ (isAbove segment ∨ isHere segment) then ([] :: next).reverse
    else resolve next rest

def isSlash (c : Char) : Bool := c == '/' || c == '\\'

/-- The path in normal form. -/
def normalPath (t : Text) : Text :=
  let segments := (Text.split '/' (t.map fun c => if isSlash c then '/' else c)).drop 1
  if segments = [] then ['/']
  else (resolve [] segments).flatMap fun segment => '/' :: percentEncode staysInPath segment

/-! ## Whole addresses -/

/-- Does the character count for nothing at the ends of an address? -/
def isEdge (c : Char) : Bool := c.toNat ≤ 0x20

/-- Does the character count for nothing wherever it stands? -/
def isIgnored (c : Char) : Bool := c == '\t' || c == '\n' || c == '\r'

/-- The text without the characters that do not count. -/
def tidy (t : Text) : Text :=
  (Text.dropEnd isEdge (t.dropWhile isEdge)).filter fun c => !isIgnored c

/-- Is the connection of a scheme encrypted? Other schemes are not known. -/
def secure? (scheme : Text) : Option Bool :=
  [false, true].find? fun secure => Origin.scheme secure == scheme.map Char.toLower

/-- The query in the text behind a path. -/
def query? : Text → Option Text
  | '?' :: rest => some (percentEncode staysInQuery (Text.upTo (· == '#') rest).1)
  | _ => none

/-- The address that a text writes. -/
def parse? (t : Text) : Option Address := do
  let (scheme, rest) ← Text.cut? ':' (tidy t)
  let secure ← secure? scheme
  let (authority, rest) :=
    Text.upTo (fun c => isSlash c || c == '?' || c == '#') (rest.dropWhile isSlash)
  let origin ← Origin.ofAuthority? secure authority
  let (path, rest) := Text.upTo (fun c => c == '?' || c == '#') rest
  return ⟨origin, normalPath path, query? rest⟩

/-- The path with the query behind it. -/
def target (address : Address) : Text :=
  address.path ++ match address.query with
    | some query => '?' :: query
    | none => []

/-- The address written out. -/
def text (address : Address) : Text :=
  Origin.scheme address.origin.secure ++ [':', '/', '/'] ++ address.origin.label ++ address.target

/-- Can the address be asked for? It may still be too long. -/
def isTarget (address : Address) : Bool := (Uri.target? address.text).isSome

end Address
end PersonGate.Http
