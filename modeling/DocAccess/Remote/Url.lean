import DocAccess.Fault

/-!
# Addresses

An address below a base address. The base keeps its scheme and the name of its host in lower
case, drops the port that its scheme has by default, and ends its path with a slash. A path is split
into path, query and fragment; the fragment is dropped, characters that an address cannot hold
are percent-escaped, the path is appended to that of the base and its dot segments are resolved.

Of a base that is configured some checks are left out: a host between square brackets may hold
anything, a host beyond ASCII is escaped and not put in the form of international names, and a
path is not held against the presence of a scheme and an authority.
-/
namespace DocAccess.Url

/-- The greatest number of code points of an address or of one of its parts. -/
def maxLength : Nat := 65536

/-- Whether a code point is an ASCII control character. -/
def isControl (p : Nat) : Bool := p < 0x20 || p == 0x7F

/-- A text that is no address. -/
def invalid (message : String) : Fault := ⟨.invalidUrl, .wellFormed message⟩

/-- The fault of a control character at a position. -/
def controlFault (p position : Nat) : Fault :=
  invalid ("Invalid non-printable ASCII character in URL, " ++ Quoted.quoted (.ofPoints [p]) ++
    " at position " ++ toString position ++ ".")

/-- The characters of a text that may be an address. -/
def checked (t : Text) : Except Fault (List Char) :=
  let ps := t.points
  if ps.length > maxLength then .error (invalid "URL too long")
  else
    match ps.zipIdx.find? fun (p, _) => isControl p with
    | some (p, position) => .error (controlFault p position)
    | none =>
      match ps.find? fun p => !p.isValidChar with
      | some p => .error (.unencodable 0 [p])
      | none => .ok (ps.map Char.ofNat)

/-- One octet as an escape. -/
def percent (b : UInt8) : List Char :=
  '%' :: (Quoted.hexDigits 2 b.toNat).map Char.toUpper

/-- Escapes the characters that are not ASCII and those of a set. -/
def escape (special : List Char) (cs : List Char) : List Char :=
  cs.flatMap fun c =>
    if c.toNat < 0x7F ∧ c ∉ special then [c] else (String.utf8EncodeChar c).flatMap percent

/-- Characters that a query cannot hold. -/
def querySpecial : List Char := [' ', '\x22', '<', '>', '#']

/-- Characters that a fragment cannot hold. -/
def fragmentSpecial : List Char := [' ', '\x22', '<', '>', '\x60']

/-- Characters that a path cannot hold. -/
def pathSpecial : List Char := querySpecial ++ ['?', '\x60', '\x7b', '\x7d']

/-- Characters that the name of a host cannot hold. -/
def hostSpecial : List Char := [' ', '<', '>', '[', ']', '^']

/-- Characters that a user's credentials cannot hold. -/
def userSpecial : List Char := pathSpecial ++ ['/', ';', '=', '@', '[', '\x5c', ']', '^', '|']

/-- Characters that an address as a whole cannot hold. -/
def locationSpecial : List Char := [' ', '\x22', '<', '>', '\x5c', '^', '\x60', '\x7b', '|', '\x7d']

/-- The characters before the first one that satisfies `p`, and those after it. -/
def cut (p : Char → Bool) (cs : List Char) : List Char × Option (List Char) :=
  match cs.dropWhile fun c => !p c with
  | [] => (cs, none)
  | _ :: rest => (cs.takeWhile fun c => !p c, some rest)

/-- Path, query and fragment, escaped. -/
structure Parts where
  path : List Char
  query : Option (List Char)
  fragment : Option (List Char)

/-- The parts of a text. -/
def Parts.split (cs : List Char) : Parts :=
  let (rest, fragment) := cut (· == '#') cs
  let (path, query) := cut (· == '?') rest
  { path := escape pathSpecial path
    query := query.map (escape querySpecial)
    fragment := fragment.map (escape fragmentSpecial) }

/-- The segments of a path. -/
def segments (cs : List Char) : List (List Char) := cs.splitOn '/'

/-- The path of segments. -/
def joinSegments : List (List Char) → List Char
  | [] => []
  | [s] => s
  | s :: rest => s ++ '/' :: joinSegments rest

/-- Takes one more segment: a dot changes nothing and two dots remove the last segment, but not
the empty one in front of the first slash. `taken` is newest first. -/
def takeSegment (taken : List (List Char)) (segment : List Char) : List (List Char) :=
  if segment = ['.'] then taken
  else if segment = ['.', '.'] then
    if taken = [[]] then taken else taken.drop 1
  else segment :: taken

/-- The path without dot segments. -/
def resolveDots (path : List Char) : List Char :=
  joinSegments ((segments path).foldl takeSegment []).reverse

/-- A base address. -/
structure Base where
  scheme : List Char
  authority : Option (List Char)
  /-- Path and query; the path ends with a slash when there is no query. -/
  rawPath : List Char
  fragment : Option (List Char)

/-- The scheme in front of a text, and what follows its colon. -/
def takeScheme (cs : List Char) : List Char × List Char :=
  match cs, cut (· == ':') cs with
  | first :: _, (scheme, some rest) =>
    if first.isAlpha && scheme.all fun c => c.isAlphanum || c == '+' || c == '.' || c == '-' then
      (scheme.map Char.toLower, rest)
    else ([], cs)
  | _, _ => ([], cs)

/-- The port that a scheme has by default. -/
def defaultPort (scheme : List Char) : Option Nat :=
  [("ftp", 21), ("http", 80), ("https", 443), ("ws", 80), ("wss", 443)].lookup
    (String.ofList scheme)

/-- The number that digits spell. -/
def natOfDigits (ds : List Char) : Nat := ds.foldl (fun n c => 10 * n + (c.toNat - 48)) 0

/-- A port without its colon: its number, or nothing when it is absent. -/
def readPort (cs : List Char) : Except Fault (Option Nat) :=
  if cs.isEmpty then .ok none
  else if cs.all Char.isDigit then .ok (some (natOfDigits cs))
  else .error (invalid ("Invalid port: " ++ Quoted.quoted (.wellFormed (String.ofList cs))))

/-- The host in front of a text, and what follows it. Colons between square brackets belong to
the host. -/
def takeHost (cs : List Char) : List Char × List Char :=
  match cs, cut (· == ']') cs with
  | '[' :: _, (inside, some rest) => (inside ++ [']'], rest)
  | _, _ => (cs.takeWhile (· != ':'), cs.dropWhile (· != ':'))

/-- Whether digits spell a number of one octet without a needless zero. -/
def isOctet (ds : List Char) : Bool :=
  ds.length ≤ 3 && (ds.length = 1 || ds.head? != some '0') && natOfDigits ds < 256

/-- A host: four numbers, an address between square brackets, or a name, which is put in lower
case. -/
def readHost (cs : List Char) : Except Fault (List Char) :=
  let parts := cs.splitOn '.'
  if parts.length = 4 ∧ parts.all fun p => !p.isEmpty && p.all Char.isDigit then
    if parts.all isOctet then .ok cs
    else
      .error (invalid
        ("Invalid IPv4 address: " ++ Quoted.quoted (.wellFormed (String.ofList cs))))
  else if cs.head? = some '[' then .ok cs
  else .ok (escape hostSpecial (cs.map Char.toLower))

/-- The characters in front of the last one that satisfies `p`, when there is one, and those after
it. -/
def cutLast (p : Char → Bool) (cs : List Char) : Option (List Char) × List Char :=
  match cut p cs.reverse with
  | (_, none) => (none, cs)
  | (after, some before) => (some before.reverse, after.reverse)

/-- An authority in its usual form. -/
def readAuthority (scheme cs : List Char) : Except Fault (List Char) :=
  let (user, place) := cutLast (· == '@') cs
  let shownUser := match user with
    | some u => if u.isEmpty then [] else escape userSpecial u ++ ['@']
    | none => []
  let (host, rest) := takeHost place
  match readHost host, readPort (rest.drop 1) with
  | .error f, _ | _, .error f => .error f
  | .ok host, .ok port =>
    let shownPort := match port with
      | some n => if some n = defaultPort scheme then [] else ':' :: (toString n).toList
      | none => []
    .ok (shownUser ++ host ++ shownPort)

/-- Path and query as one. -/
def withQuery (path : List Char) (query : Option (List Char)) : List Char :=
  path ++ match query with
    | some q => '?' :: q
    | none => []

/-- The fault of the first part of an address that is too long, by its name. -/
def longPart? (parts : List (String × List Char)) : Option Fault :=
  (parts.find? fun part => maxLength < part.2.length).map fun part =>
    invalid ("URL component '" ++ part.1 ++ "' too long")

/-- The base with another path and query, in which no part may be too long. -/
def Base.withRawPath (b : Base) (raw : List Char) : Except Fault Base :=
  let (path, query) := cut (· == '?') raw
  match longPart? [("authority", b.authority.getD []), ("path", path), ("query", query.getD []),
      ("fragment", b.fragment.getD [])] with
  | some f => .error f
  | none => .ok { b with rawPath := raw }

/-- Reads a base address. A host between square brackets is taken as it stands, a name beyond ASCII
is escaped, and any path goes with any scheme and authority. -/
def Base.parse (s : String) : Except Fault Base :=
  match checked (.wellFormed s) with
  | .error f => .error f
  | .ok cs =>
    let (scheme, rest) := takeScheme cs
    match rest with
    | '/' :: '/' :: rest =>
      let isEnd := fun c => c == '/' || c == '?' || c == '#'
      match readAuthority scheme (rest.takeWhile (!isEnd ·)) with
      | .error f => .error f
      | .ok authority => finish scheme (some authority) (rest.dropWhile (!isEnd ·))
    | _ => finish scheme none rest
where
  /-- The base with its path and query read. -/
  finish (scheme : List Char) (authority : Option (List Char)) (rest : List Char) :
      Except Fault Base :=
    let parts := Parts.split rest
    let path := if scheme.isEmpty && authority.isNone then parts.path else resolveDots parts.path
    let raw := withQuery (if path.isEmpty then ['/'] else path) parts.query
    let base : Base := ⟨scheme, authority, raw, parts.fragment⟩
    if raw.getLast? = some '/' then .ok base else base.withRawPath (raw ++ ['/'])

/-- The address of a path below a base. -/
def Base.join (b : Base) (relative : Text) : Except Fault String :=
  match checked relative with
  | .error f => .error f
  | .ok cs =>
    let parts := Parts.split cs
    match b.withRawPath (b.rawPath ++ (withQuery parts.path parts.query).dropWhile (· == '/')) with
    | .error f => .error f
    | .ok b =>
      let (path, query) := cut (· == '?') b.rawPath
      let path := if b.scheme.isEmpty && b.authority.isNone then path else resolveDots path
      let scheme := if b.scheme.isEmpty then [] else b.scheme ++ [':']
      let authority := match b.authority with
        | some a => '/' :: '/' :: a
        | none => []
      let fragment := match b.fragment with
        | some f => '#' :: f
        | none => []
      .ok (String.ofList (scheme ++ authority ++ withQuery path query ++ fragment))

end DocAccess.Url
