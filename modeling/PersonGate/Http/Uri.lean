import PersonGate.Text.Split
/-!
# Request targets

A target is `*`, a path that starts with a slash, an authority alone (`host:port`), or an absolute
address `scheme://authority/path`. A query or a fragment may follow a path. What a router looks at
is the path without query and fragment; an absolute address without a path has the path `/`, an
authority alone has the empty one.
-/
namespace PersonGate.Http.Uri

/-- The largest number of bytes in a target. -/
def maxBytes : Nat := 65534

/-- The largest number of characters in a scheme. -/
def maxScheme : Nat := 64

/-- The largest number of colons between two marks of an authority. -/
def maxColons : Nat := 8

def byteLength (t : Text) : Nat := t.foldl (fun n c => n + c.utf8Size) 0

/-! ## Path and query -/

/-- Can the character stand in a path as it is? Characters beyond ASCII can. -/
def isPathChar (c : Char) : Bool :=
  let n := c.toNat
  n == 0x21 || n == 0x22 || (0x24 ≤ n && n ≤ 0x3B) || n == 0x3D || (0x40 ≤ n && n ≤ 0x5F)
    || (0x61 ≤ n && n ≤ 0x7E) || 0x80 ≤ n

/-- Can the character stand in a query as it is? Characters beyond ASCII can. -/
def isQueryChar (c : Char) : Bool :=
  let n := c.toNat
  n == 0x21 || (0x24 ≤ n && n ≤ 0x3B) || n == 0x3D || (0x3F ≤ n && n ≤ 0x7E) || 0x80 ≤ n

/-- The path of a path with query and fragment, if all its characters may stand there; the empty
path stands for `/`. -/
def path? (t : Text) : Option Text :=
  let (path, rest) := Text.upTo (fun c => c == '?' || c == '#') t
  let query := match rest with
    | '?' :: after => (Text.upTo (· == '#') after).1
    | _ => []
  if path.all isPathChar && query.all isQueryChar then
    some (if path.isEmpty then ['/'] else path)
  else none

/-! ## Scheme and authority -/

def isSchemeChar (c : Char) : Bool := c.isAlphanum || ['+', '-', '.', '~'].contains c

/-- The characters other than letters, digits and percent that an authority may have. -/
def authorityMarks : List Char :=
  ['!', '$', '&', '\'', '(', ')', '*', '+', ',', '-', '.', ':', ';', '=', '@', '[', ']', '_', '~']

def isAuthorityChar (c : Char) : Bool :=
  c.isAlphanum || c == '%' || authorityMarks.contains c

/-- Where a scan of an authority stands: colons and percent signs since the last mark that settles
them, and the brackets seen. -/
structure AuthorityScan where
  colons : Nat := 0
  percent : Bool := false
  opened : Bool := false
  closed : Bool := false

/-- The scan after one more character, unless the character cannot stand there. -/
def AuthorityScan.next? (scan : AuthorityScan) (c : Char) : Option AuthorityScan :=
  if c = ':' then
    if scan.colons < maxColons then some { scan with colons := scan.colons + 1 } else none
  else if c = '[' then
    if scan.percent || scan.opened then none else some { scan with opened := true }
  else if c = ']' then
    if !scan.opened || scan.closed then none
    else some { scan with closed := true, colons := 0, percent := false }
  else if c = '@' then some { scan with colons := 0, percent := false }
  else if c = '%' then some { scan with percent := true }
  else if isAuthorityChar c then some scan
  else none

/-- Is the scan acceptable at the end of the authority? -/
def AuthorityScan.accepts (scan : AuthorityScan) : Bool :=
  scan.opened == scan.closed && scan.colons ≤ 1 && !scan.percent

/-- The authority at the start of a text and the rest after it, if the authority is well formed. -/
def authority? (t : Text) : Option (Text × Text) := do
  let (authority, rest) := Text.upTo (fun c => c == '/' || c == '?' || c == '#') t
  let scan ← authority.foldlM AuthorityScan.next? {}
  if scan.accepts && authority.getLast? != some '@' then some (authority, rest) else none

/-- The scheme in front of `://` and the rest after it. -/
def scheme? (t : Text) : Option (Text × Text) :=
  match t.takeWhile isSchemeChar, t.dropWhile isSchemeChar with
  | scheme, ':' :: '/' :: '/' :: rest => some (scheme, rest)
  | _, _ => none

/-! ## Whole targets -/

/-- The path of a target longer than one character that starts with no slash. -/
def fullPath? (t : Text) : Option Text :=
  match scheme? t with
  | some (scheme, afterScheme) =>
    if maxScheme < scheme.length then none
    else match authority? afterScheme with
      | some (authority, rest) => if authority.isEmpty then none else path? rest
      | none => none
  | none =>
    match authority? t with
    | some (_, []) => some []
    | _ => none

/-- The path that a router sees, if the text is a target. -/
def target? (t : Text) : Option Text :=
  if maxBytes < byteLength t then none
  else match t with
    | [] => none
    | ['*'] => some ['*']
    | '/' :: _ => path? t
    | _ => fullPath? t

end PersonGate.Http.Uri
