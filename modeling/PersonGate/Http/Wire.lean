import PersonGate.Http.Message
import PersonGate.Text.Decimal
import PersonGate.Text.Split
/-!
# Messages on the wire

A message starts with one line that says what it is; header lines follow, each a name, a colon and a
value, and an empty line ends the head. A body may come after the head. Lines are written with a
carriage return and a line feed; a reader takes a line feed alone as well. An incoming byte reads as
the character with its number, so no byte is lost before the grammar has looked at it.
-/
namespace PersonGate.Http

namespace Wire

def lineEnd : Text := ['\r', '\n']

/-- The version that a message names, without its minor number. -/
def versionStart : Text := ['H', 'T', 'T', 'P', '/', '1', '.']

def version : Text := versionStart ++ ['1']

def headerLine (header : Header) : Text := header.name ++ [':', ' '] ++ header.value ++ lineEnd

/-- The head of a message. -/
def head (start : Text) (headers : List Header) : Text :=
  start ++ lineEnd ++ headers.flatMap headerLine ++ lineEnd

/-- The characters with the numbers of the bytes. -/
def ofBytes (bytes : List UInt8) : Text := bytes.map fun b => Char.ofNat b.toNat

/-- Do the bytes hold the empty line that ends a head? -/
def hasHead : List UInt8 → Bool
  | 13 :: 10 :: 13 :: 10 :: _ => true
  | _ :: rest => hasHead rest
  | [] => false

/-- The lines of a text without their ends. -/
def lines (t : Text) : List Text := (Text.split '\n' t).map (Text.dropEnd (· == '\r'))

def isPadding (c : Char) : Bool := c == ' ' || c == '\t'

/-- The header that a line writes. -/
def header? (line : Text) : Option Header :=
  (Text.cut? ':' line).map fun (name, value) =>
    ⟨name, Text.dropEnd isPadding (value.dropWhile isPadding)⟩

/-- The request that a head writes. -/
def draft? (t : Text) : Option RequestDraft :=
  match lines t with
  | [] => none
  | start :: rest =>
    match Text.split ' ' start, (rest.takeWhile fun line => !line.isEmpty).mapM header? with
    | [method, target, version], some headers =>
      if versionStart.isPrefixOf version then some { method, target, headers } else none
    | _, _ => none

/-- The status in the first line of an answer. -/
def status? (t : Text) : Option Status :=
  match (lines t).map (Text.split ' ') with
  | (version :: code :: _) :: _ =>
    if versionStart.isPrefixOf version && code.length == 3 && code.all Char.isDigit then
      some (Text.digitsValue code)
    else none
  | _ => none

end Wire

/-! ## Responses -/

/-- What a status is called, for those who read along. -/
def reason : Status → String
  | 200 => "OK"
  | 201 => "Created"
  | 400 => "Bad Request"
  | 401 => "Unauthorized"
  | 403 => "Forbidden"
  | 404 => "Not Found"
  | 405 => "Method Not Allowed"
  | _ => ""

def number (n : Nat) : Text := Nat.toDigits 10 n

namespace Response

def headers (response : Response) : List Header :=
  (response.contentType.map fun t => ⟨"content-type".toList, t.toList⟩).toList ++
  (response.allow.map fun t => ⟨"allow".toList, t.toList⟩).toList ++
  [⟨"content-length".toList, number (Uri.byteLength response.body)⟩,
    ⟨"connection".toList, "close".toList⟩]

/-- The response as it goes out; the connection ends with it. -/
def wire (response : Response) : Text :=
  let start :=
    Wire.version ++ [' '] ++ number response.status ++ [' '] ++ (reason response.status).toList
  Wire.head start response.headers ++ response.body

/-- The response to a message that is no request. -/
def malformed : Response := { status := 400 }

end Response
end PersonGate.Http
