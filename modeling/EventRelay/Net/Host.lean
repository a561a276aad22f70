import EventRelay.Net.Domain
import EventRelay.Net.IpAddress
import EventRelay.Net.Percent

/-!
# Hosts of URLs

Under a special scheme a host is a domain name, or an address if it ends in a number or stands in
brackets; elsewhere it is a plain text. The parts of a version 4 address may be decimal, octal
(leading `0`) or hexadecimal (leading `0x`), and the last part fills all bytes that are left.
-/

namespace EventRelay.Net.Host

/-- The value of a text of digits in a base, if they all are digits of the base. -/
def inBase? (base : Nat) (s : List Char) : Option Nat :=
  s.foldlM (fun n c ↦ do
    let d ← Digest.hexValue? c
    if d < base then some (n * base + d) else none) 0

/-- A part of a version 4 address. -/
def part4? : List Char → Option Nat
  | [] => none
  | '0' :: 'x' :: rest => inBase? 16 rest
  | '0' :: 'X' :: rest => inBase? 16 rest
  | '0' :: c :: rest => inBase? 8 (c :: rest)
  | s => inBase? 10 s

/-- The parts of a name between points, without an empty last part. -/
def parts4 (s : List Char) : List (List Char) :=
  let parts := Text.splitOn '.' s
  if parts.getLast? = some [] then parts.dropLast else parts

/-- Whether a name must be read as a version 4 address. -/
def endsInNumber (s : List Char) : Bool :=
  match (parts4 s).getLast? with
  | none => false
  | some last => (!last.isEmpty && last.all Char.isDigit) || (part4? last).isSome

/-- The version 4 address of a name that ends in a number. -/
def address4? (s : List Char) : Option (List Char) := do
  let parts := parts4 s
  if 4 < parts.length then none
  else
    let numbers ← parts.mapM part4?
    let last ← numbers.getLast?
    let leading := numbers.dropLast
    if leading.any (255 < ·) ∨ Nat.pow 256 (4 - leading.length) ≤ last then none
    else
      let value := leading.zipIdx.foldl (fun v (n, i) ↦ v + n * Nat.pow 256 (3 - i)) last
      some (renderBytes4 [value / 16777216, value / 65536 % 256, value / 256 % 256, value % 256])

/-- The version 6 address between brackets, in brackets again. -/
def bracketed? (s : List Char) : Option (List Char) :=
  if s.getLast? = some ']' ∧ 1 < s.length then do
    pure ('[' :: renderGroups6 (← groups6? (s.drop 1).dropLast) ++ [']'])
  else none

/-- The host of a URL with a special scheme. -/
def special? (s : List Char) : Option (List Char) :=
  if s.head? = some '[' then bracketed? s
  else do
    let name ← Domain.toAscii? (← Percent.decode? s)
    if name.isEmpty then none
    else if endsInNumber name then address4? name
    else some name

/-- Whether a character may not be part of a plain host. -/
def isForbidden (c : Char) : Bool :=
  [Char.ofNat 0, '\t', '\n', '\r', ' ', '#', '/', ':', '<', '>', '?', '@', '[', '\\', ']', '^',
    '|'].contains c

/-- The host of any other URL. -/
def plain? (s : List Char) : Option (List Char) :=
  if s.head? = some '[' then bracketed? s
  else if s.any isForbidden then none
  else some (Percent.encode Percent.controls s)

end EventRelay.Net.Host
