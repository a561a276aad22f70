import EventRelay.Net.Percent
import EventRelay.Net.Scheme

/-!
# Paths of URLs

A path is read segment by segment. A single dot leaves it as it is and a double dot takes a segment
back, also where the dots are encoded. In the path of a file the letter of a drive, which is a
letter with a colon or a bar, has rights of its own: it is not taken back, it is written with a
colon, and it leaves no place for a host.
-/

namespace EventRelay.Net

/-- A path, perhaps one that is still being read. -/
structure UrlPath where
  text : List Char
  /-- Whether the path starts with the letter of a drive, which leaves no place for a host. -/
  ousts : Bool
deriving DecidableEq, Repr

namespace UrlPath

/-- The segments of a path between its slashes. -/
def segments (kind : SchemeKind) (s : List Char) : List (List Char) :=
  match s with
  | [] => [[]]
  | c :: rest =>
    match segments kind rest with
    | [] => [[]]
    | first :: others => if kind.isSlash c then [] :: first :: others else (c :: first) :: others

/-- A segment with its encoded dots written as dots. -/
def plainDots : List Char → List Char
  | '%' :: '2' :: 'e' :: rest => '.' :: plainDots rest
  | '%' :: '2' :: 'E' :: rest => '.' :: plainDots rest
  | c :: rest => c :: plainDots rest
  | [] => []

/-- Whether a text starts with the letter of a drive and ends there or goes on behind it. -/
def startsWithDrive : List Char → Bool
  | c :: mark :: rest =>
    c.isAlpha && (mark == ':' || mark == '|') && rest.head?.all ['/', '\\', '?', '#'].contains
  | _ => false

/-- Whether a text is the letter of a drive. -/
def isDrive (s : List Char) : Bool := s.length == 2 && startsWithDrive s

/-- Whether a text is the letter of a drive in its usual form. -/
def isUsualDrive (s : List Char) : Bool := isDrive s && s.getLast? == some ':'

/-- The part of a text behind its last slash. -/
def lastPart (s : List Char) : List Char := (s.reverse.takeWhile (· != '/')).reverse

/-- The path without the slash at its end, unless that is the only slash or belongs to the letter
of a drive. -/
def dropSlash (s : List Char) : List Char :=
  let inner := s.dropLast
  if s.getLast? = some '/' ∧ inner.contains '/' ∧ !startsWithDrive (lastPart inner ++ ['/']) then
    inner
  else s

/-- The path without what stands behind its last slash; the letter of a drive stays. -/
def dropLastPart (kind : SchemeKind) (s : List Char) : List Char :=
  if kind = .file ∧ (isUsualDrive s ∨ isUsualDrive (lastPart s)) then s
  else s.take (s.length - (lastPart s).length)

/-- The path with a slash at its end. `rooted` says whether a slash stands in front of it. -/
def closed (rooted : Bool) (s : List Char) : List Char :=
  if s.getLast? = some '/' ∨ (s.isEmpty ∧ rooted) then s else s ++ ['/']

/-- The path with the characters of a segment behind it, which come in runs between characters
that do not count. A run behind the letter of a drive is parted from it by a slash. -/
def written (kind : SchemeKind) (text : List Char) (runs : List (List Char)) : List Char :=
  runs.foldl (fun text run ↦
    let shown := Percent.encode Percent.path run
    if kind = .file ∧ isUsualDrive (text.drop 1) then text ++ '/' :: shown else text ++ shown) text

/-- Adds a segment, with a slash behind it unless it `isLast`. A single dot stands for the path so
far, and a double dot for the path without its last segment. -/
def add (kind : SchemeKind) (rooted isLast : Bool) (p : UrlPath) (segment : List Char) :
    UrlPath :=
  let runs := segment.splitBy fun a b ↦ isDropped a == isDropped b
  let text := written kind p.text (runs.filter (!·.any isDropped))
  let shown := text.drop p.text.length
  let close := fun s ↦ if isLast then s else s ++ ['/']
  match plainDots shown with
  | ['.', '.'] =>
    let rest := dropLastPart kind (dropSlash p.text)
    { p with text := if isLast then rest else closed rooted rest }
  | ['.'] => { p with text := closed rooted p.text }
  | _ =>
    if kind = .file ∧ p.text.length = 1 ∧ isDrive shown then
      { text := close (p.text ++ shown.take 1 ++ [':']), ousts := true }
    else { p with text := close text }

/-- Adds segments in order. -/
def addAll (kind : SchemeKind) (rooted : Bool) (p : UrlPath) : List (List Char) → UrlPath
  | [] => p
  | segment :: rest => addAll kind rooted (p.add kind rooted rest.isEmpty segment) rest

/-- The path of a text behind `lead`. The path of a special scheme starts with a slash, unless the
text in front of it ends with one; of a file, all slashes at the front are one. -/
def behind (kind : SchemeKind) (lead s : List Char) : UrlPath :=
  let rooted := lead.getLast? == some '/'
  let s := s.dropWhile isDropped
  let startsWithSlash := s.head?.any kind.isSlash
  let (start, s) :=
    if kind.isSpecial then
      if rooted then ([], s) else (['/'], if startsWithSlash then s.drop 1 else s)
    else if s.isEmpty ∨ startsWithSlash then ([], s)
    else (['/'], s)
  let path := addAll kind rooted ⟨start, false⟩ (segments kind s)
  if kind = .file then { path with text := '/' :: path.text.dropWhile (· == '/') } else path

end UrlPath
end EventRelay.Net
