/-!
# Schemes of URLs

The scheme in front of a URL says how the rest is read. The schemes of the web and of files are
special: what follows has a host and a path, and a backslash counts as a slash. Tabs and line ends
do not count in any URL.
-/

namespace EventRelay.Net

/-- Whether a character may be part of a scheme. -/
def isSchemeChar (c : Char) : Bool := c.isAlphanum || c == '+' || c == '-' || c == '.'

/-- How the rest of a URL is read depends on its scheme. -/
inductive SchemeKind where
  /-- The schemes of the web, with their default port. -/
  | web (port : Nat)
  | file
  | other
deriving DecidableEq, Repr

namespace SchemeKind

/-- The kind of a scheme in small letters. -/
def ofScheme (scheme : List Char) : SchemeKind :=
  match String.ofList scheme with
  | "http" | "ws" => .web 80
  | "https" | "wss" => .web 443
  | "ftp" => .web 21
  | "file" => .file
  | _ => .other

/-- Whether the scheme is special: its URLs have a host and a path with slashes. -/
def isSpecial : SchemeKind → Bool
  | .other => false
  | _ => true

/-- Whether a character separates the segments of a path. -/
def isSlash (kind : SchemeKind) (c : Char) : Bool := c == '/' || (c == '\\' && kind.isSpecial)

end SchemeKind

/-- Tabs and line ends, which do not count in a URL. -/
def isDropped (c : Char) : Bool := c == '\t' || c == '\n' || c == '\r'

end EventRelay.Net
