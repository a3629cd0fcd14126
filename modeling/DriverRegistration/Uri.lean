import DriverRegistration.Text.Utf8

/-!
# Addresses of resources

An address names a scheme, an authority (a host, which may have a user before it and a port after
it), a path and a query; a fragment at its end is dropped.  An address without a scheme is either a
path that begins with a slash or an authority alone.  `Uri.parse` refuses what it cannot take apart,
and `Uri.text` writes an address with a slash for the empty path of an authority.
-/

namespace DriverRegistration

open Text

/-- The address of a resource. -/
structure Uri where
  scheme : Option String := none
  authority : Option String := none
  path : String := ""
  query : Option String := none
  deriving DecidableEq, Repr

/-- Why a text is no address. -/
inductive UriFault where
  | empty
  | tooLong
  | character
  | authority
  | format
  | schemeTooLong
  deriving DecidableEq, Repr

/-- The text of a fault. -/
def UriFault.message : UriFault → String
  | empty => "empty string"
  | tooLong => "uri too long"
  | character => "invalid uri character"
  | authority => "invalid authority"
  | format => "invalid format"
  | schemeTooLong => "scheme too long"

namespace Uri

/-! ## Characters -/

/-- Whether a character ends a path or the part before it. -/
def endsPart (c : Char) : Bool := c = '/' || c = '?' || c = '#'

/-- Whether a character may stand in a scheme. -/
def inScheme (c : Char) : Bool := c.isAlphanum || "+-.~".contains c

/-- Whether a character may stand in an authority. -/
def inAuthority (c : Char) : Bool := c.isAlphanum || "!$&'()*+,-.:;=@[]_~".contains c

/-- Whether a character may stand in a query. -/
def inQuery (c : Char) : Bool :=
  0x20 < c.toNat && c.toNat ≠ 0x7F && !("\"#<>".contains c)

/-- Whether a character may stand in a path. -/
def inPath (c : Char) : Bool :=
  0x20 < c.toNat && c.toNat ≠ 0x7F && c.toNat ≠ 0x60 && !("#<>?".contains c)

/-! ## Parts -/

/-- The address of a path with what may follow it. -/
def ofPath (cs : List Char) : Except UriFault Uri :=
  let path := cs.takeWhile fun c => c ≠ '?' && c ≠ '#'
  let query := match cs.drop path.length with
    | '?' :: r => some (r.takeWhile (· ≠ '#'))
    | _ => none
  if path.all inPath && (query.getD []).all inQuery then
    .ok { path := String.ofList path, query := query.map String.ofList }
  else .error .character

/-- What was met in an authority, since the last mark that makes it forgotten. -/
structure AuthorityMarks where
  colons : Nat := 0
  opened : Bool := false
  closed : Bool := false
  percent : Bool := false

/-- The number of colons in an authority that is never exceeded. -/
def colonLimit : Nat := 8

/-- Take one character of an authority.  A bracketed host and a user may hold colons and percent
signs. -/
def AuthorityMarks.take (m : AuthorityMarks) (c : Char) : Except UriFault AuthorityMarks :=
  if c = ':' then
    if colonLimit ≤ m.colons then .error .authority else .ok { m with colons := m.colons + 1 }
  else if c = '[' then
    if m.percent || m.opened then .error .authority else .ok { m with opened := true }
  else if c = ']' then
    if !m.opened || m.closed then .error .authority
    else .ok { m with closed := true, colons := 0, percent := false }
  else if c = '@' then .ok { m with colons := 0, percent := false }
  else if c = '%' then .ok { m with percent := true }
  else if inAuthority c then .ok m
  else .error .character

/-- The authority at the beginning of a text. -/
def authorityOf (cs : List Char) : Except UriFault (List Char) := do
  let part := cs.takeWhile fun c => !endsPart c
  let m ← part.foldlM AuthorityMarks.take {}
  if m.opened != m.closed || 1 < m.colons || part.getLast? = some '@' || m.percent then
    .error .authority
  else return part

/-- The largest number of characters of a scheme. -/
def schemeLimit : Nat := 64

/-- The scheme of a text, if it has one, and what follows its slashes. -/
def schemeOf (cs : List Char) : Except UriFault (Option String × List Char) :=
  let known := ["http", "https"].filter fun s =>
    (cs.take (s.length + 3)).map Char.toLower = s.toList ++ "://".toList
  match known with
  | s :: _ => .ok (some s, cs.drop (s.length + 3))
  | [] =>
    let part := cs.takeWhile inScheme
    if (cs.drop part.length).take 3 = "://".toList && 3 < byteLength cs then
      if schemeLimit < part.length then .error .schemeTooLong
      else .ok (some (String.ofList part), cs.drop (part.length + 3))
    else .ok (none, cs)

/-- The address of a text that does not begin with a slash. -/
def ofParts (cs : List Char) : Except UriFault Uri := do
  let (scheme, rest) ← schemeOf cs
  if rest = [] then .error .empty
  else
    let authority ← authorityOf rest
    let rest := rest.drop authority.length
    if scheme = none then
      if rest ≠ [] then .error .format
      else return { authority := some (String.ofList authority) }
    else if authority = [] then .error .format
    else return { ← ofPath rest with scheme, authority := some (String.ofList authority) }

/-- The largest number of bytes of an address. -/
def limit : Nat := 65534

/-- Take an address apart. -/
def parse (s : String) : Except UriFault Uri :=
  if limit < byteLength s.toList then .error .tooLong
  else
    match s.toList with
    | [] => .error .empty
    | ['/'] => .ok { path := "/" }
    | ['*'] => .ok { path := "*" }
    | ['?'] | ['#'] => .error .character
    | '/' :: cs => ofPath ('/' :: cs)
    | cs => ofParts cs

/-- An address as it is written. -/
def text (u : Uri) : String :=
  (u.scheme.map (· ++ "://")).getD "" ++ u.authority.getD "" ++
    (if u.path = "" && u.scheme.isSome then "/" else u.path) ++
    (u.query.map ("?" ++ ·)).getD ""

end Uri

end DriverRegistration
