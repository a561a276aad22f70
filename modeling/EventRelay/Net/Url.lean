import EventRelay.Net.Host
import EventRelay.Net.UrlPath

/-!
# URLs whose path is replaced

The URL of a page is the URL of its wiki with another path. What stays is the frame: the scheme,
the user, the host and the port in front of the path, the query and the fragment behind it. A
frame is read as browsers read URLs: white space at the ends and tabs and line ends anywhere are
dropped, scheme and host are normalised, a default port is left out, and special schemes accept a
backslash for a slash.
-/

namespace EventRelay.Net

/-- A URL without its path. -/
structure UrlFrame where
  kind : SchemeKind
  /-- Whether the path is a text of its own and not a list of segments. -/
  hasPlainPath : Bool
  /-- The text in front of the path. -/
  lead : List Char
  /-- The query and the fragment with their marks. -/
  tail : List Char

namespace UrlFrame

/-- Controls and blanks, which do not count at the ends of a URL. -/
def isMargin (c : Char) : Bool := c.toNat ≤ 32

/-- The text of a URL without the characters that do not count. -/
def clean (s : List Char) : List Char :=
  (((s.dropWhile isMargin).reverse.dropWhile isMargin).reverse).filter (!isDropped ·)

/-- The scheme in small letters and what follows its colon. -/
def scheme? (s : List Char) : Option (List Char × List Char) :=
  match s.span isSchemeChar with
  | (c :: name, ':' :: rest) =>
    if c.isAlpha then some ((c :: name).map Char.toLower, rest) else none
  | _ => none

/-- Whether a character ends the authority. -/
def endsAuthority (kind : SchemeKind) (c : Char) : Bool :=
  kind.isSlash c || c == '?' || c == '#'

/-- User name and password in front of the host, with their closing sign; the second component
is what follows. -/
def userinfo? (kind : SchemeKind) (s : List Char) : Option (List Char × List Char) :=
  let authority := s.takeWhile (!endsAuthority kind ·)
  if !authority.contains '@' then some ([], s)
  else
    let user := ((authority.reverse.dropWhile (· != '@')).drop 1).reverse
    let rest := s.drop (user.length + 1)
    if user.isEmpty then
      if rest.head?.any (endsAuthority kind) then none else some ([], rest)
    else
      let name := user.takeWhile (· != ':')
      let password := (user.dropWhile (· != ':')).drop 1
      let text := Percent.encode Percent.userinfo name ++
        (if password.isEmpty then [] else ':' :: Percent.encode Percent.userinfo password)
      some (if text.isEmpty then [] else text ++ ['@'], rest)

/-- The host at the front of a text: everything up to a colon outside brackets or the end of the
authority. -/
def hostPart (kind : SchemeKind) : (inBrackets : Bool) → List Char → List Char × List Char
  | _, [] => ([], [])
  | inBrackets, c :: rest =>
    if (c = ':' ∧ !inBrackets) ∨ endsAuthority kind c then ([], c :: rest)
    else
      let inside := if c = '[' then true else if c = ']' then false else inBrackets
      let (host, rest) := hostPart kind inside rest
      (c :: host, rest)

/-- The port behind the host, with its colon, and what follows; a default port is left out. -/
def port? (kind : SchemeKind) : List Char → Option (List Char × List Char)
  | ':' :: rest =>
    let (digits, rest) := rest.span Char.isDigit
    let port := decimalValue digits
    if 65535 < port ∨ rest.head?.any (fun c ↦ !(c == '/' || c == '\\' || c == '?' || c == '#')) then
      none
    else if digits.isEmpty ∨ kind = .web port then some ([], rest)
    else some (':' :: Number.decimalDigits port, rest)
  | s => some ([], s)

/-- The authority, normalised, and what follows. -/
def authority? (kind : SchemeKind) (s : List Char) : Option (List Char × List Char) := do
  let (user, s) ← userinfo? kind s
  let (name, s) := hostPart kind false s
  if name.isEmpty then
    if kind.isSpecial ∨ !user.isEmpty ∨ s.head? = some ':' then none else some ([], s)
  else
    let host ← if kind.isSpecial then Host.special? name else Host.plain? name
    let (port, s) ← port? kind s
    some (user ++ host ++ port, s)

/-- The query and the fragment of what follows the authority. -/
def tailOf (kind : SchemeKind) (s : List Char) : List Char :=
  let s := s.dropWhile fun c ↦ c != '?' && c != '#'
  let set := if kind.isSpecial then Percent.specialQuery else Percent.query
  let query := s.takeWhile (· != '#')
  let rest := s.dropWhile (· != '#')
  let query := match query with
    | mark :: text => mark :: Percent.encode set text
    | [] => []
  match rest with
  | mark :: text => query ++ mark :: Percent.encode Percent.fragment text
  | [] => query

/-- The part of a text in front of its query and fragment. -/
def beforeTail (s : List Char) : List Char := s.takeWhile fun c ↦ c != '?' && c != '#'

/-- The host of a file and what follows; this host is left out, and so is any host in front of a
path that starts with the letter of a drive. -/
def fileHost? (s : List Char) : Option (List Char × List Char) :=
  let (name, rest) := s.span (!endsAuthority .file ·)
  if name.isEmpty ∨ UrlPath.isDrive name then some ([], rest)
  else do
    let host ← Host.special? name
    if String.ofList host = "localhost" ∨ (UrlPath.behind .file host (beforeTail rest)).ousts then
      pure ([], rest)
    else pure (host, rest)

/-- The frame of a URL, if the text is a URL. A path that starts with two slashes and has no host
in front of it keeps a dot there, or what follows would be read as a host. -/
def parse? (text : String) : Option UrlFrame := do
  let (scheme, s) ← scheme? (clean text.toList)
  let kind := SchemeKind.ofScheme scheme
  let lead := scheme ++ [':']
  match kind with
  | .web _ =>
    let (authority, rest) ← authority? kind (s.dropWhile kind.isSlash)
    pure ⟨kind, false, lead ++ '/' :: '/' :: authority, tailOf kind rest⟩
  | .file =>
    let (host, rest) ←
      match s with
      | a :: b :: rest => if kind.isSlash a && kind.isSlash b then fileHost? rest else some ([], s)
      | _ => some ([], s)
    pure ⟨kind, false, lead ++ '/' :: '/' :: host, tailOf kind rest⟩
  | .other =>
    match s with
    | '/' :: '/' :: rest =>
      let (authority, rest) ← authority? kind rest
      pure ⟨kind, false, lead ++ '/' :: '/' :: authority, tailOf kind rest⟩
    | '/' :: _ =>
      let keepsDot := (UrlPath.behind kind lead (beforeTail s)).text.take 2 == ['/', '/']
      pure ⟨kind, false, lead ++ (if keepsDot then ['/', '.'] else []), tailOf kind s⟩
    | _ => pure ⟨kind, true, lead, tailOf kind s⟩

/-- The URL with a path. -/
def withPath (frame : UrlFrame) (path : String) : String :=
  let s := path.toList
  let shown :=
    if frame.hasPlainPath then
      match s with
      | '/' :: rest =>
        '%' :: '2' :: 'F' :: Percent.encode Percent.controls (rest.filter (!isDropped ·))
      | s => Percent.encode Percent.controls (s.filter (!isDropped ·))
    else
      let first := (s.dropWhile isDropped).head?
      if !frame.kind.isSpecial ∧ first.all (fun c ↦ c == '?' || c == '#') then []
      else (UrlPath.behind frame.kind frame.lead s).text
  String.ofList (frame.lead ++ shown ++ frame.tail)

end UrlFrame
end EventRelay.Net
