import EventRelay.Digest.Hex
import EventRelay.Number.Shortest
import EventRelay.Text.Reader

/-!
# Internet addresses

Version 4 addresses are four decimal bytes without leading zeros. Version 6 addresses are eight
groups of hexadecimal digits, of which one run may be left out as `::` and the last two may be
written as a version 4 address. An address is written in its shortest form, the first longest run
of two or more zero groups left out.
-/

namespace EventRelay.Net

open Text (splitOn)

/-- The text before and behind the first `::`. -/
def splitAtDouble? : List Char → Option (List Char × List Char)
  | ':' :: ':' :: rest => some ([], rest)
  | c :: rest => (splitAtDouble? rest).map fun (before, behind) ↦ (c :: before, behind)
  | [] => none

/-- The value of a text of decimal digits. -/
def decimalValue (digits : List Char) : Nat := digits.foldl (fun n c ↦ n * 10 + (c.toNat - 48)) 0

/-- A decimal byte without leading zeros. -/
def byte? (s : List Char) : Option Nat :=
  if s.isEmpty ∨ 3 < s.length ∨ !s.all Char.isDigit ∨ (s.head? = some '0' ∧ 1 < s.length) then none
  else if decimalValue s < 256 then some (decimalValue s) else none

/-- The four bytes of a version 4 address. -/
def bytes4? (s : List Char) : Option (List Nat) :=
  match splitOn '.' s with
  | [a, b, c, d] => [a, b, c, d].mapM byte?
  | _ => none

/-- A group of one to four hexadecimal digits. -/
def group? (s : List Char) : Option Nat :=
  if s.isEmpty ∨ 4 < s.length then none
  else s.foldlM (fun n c ↦ do pure (n * 16 + (← Digest.hexValue? c))) 0

/-- The groups between colons, the last of which may be a version 4 address. -/
def groups? : List (List Char) → Option (List Nat)
  | [] => some []
  | [last] =>
    match bytes4? last with
    | some [a, b, c, d] => some [a * 256 + b, c * 256 + d]
    | _ => (group? last).map ([·])
  | first :: rest => do pure ((← group? first) :: (← groups? rest))

/-- The groups of a part of an address on one side of `::`. -/
def side? (s : List Char) : Option (List Nat) :=
  if s.isEmpty then some [] else groups? (splitOn ':' s)

/-- The eight groups of a version 6 address. -/
def groups6? (s : List Char) : Option (List Nat) :=
  match splitAtDouble? s with
  | none => do
    let groups ← side? s
    if groups.length = 8 then some groups else none
  | some (before, behind) => do
    let head ← if before.contains '.' then none else side? before
    let tail ← side? behind
    if head.length + tail.length ≤ 7 then
      some (head ++ List.replicate (8 - head.length - tail.length) 0 ++ tail)
    else none

/-- Where the first longest run of zeros starts in a list whose first item has the given index,
and how long it is. -/
def zeroRun (index : Nat) : List Nat → Nat × Nat
  | [] => (index, 0)
  | g :: rest =>
    let here := ((g :: rest).takeWhile (· == 0)).length
    let later := zeroRun (index + 1) rest
    if later.2 ≤ here then (index, here) else later

/-- Groups joined by colons. -/
def renderGroups (groups : List Nat) : List Char :=
  List.intercalate [':'] (groups.map (Nat.toDigits 16))

/-- Eight groups in their shortest form. -/
def renderGroups6 (groups : List Nat) : List Char :=
  let (start, length) := zeroRun 0 groups
  if 1 < length then
    renderGroups (groups.take start) ++ ':' :: ':' :: renderGroups (groups.drop (start + length))
  else renderGroups groups

/-- Four bytes joined by points. -/
def renderBytes4 (bytes : List Nat) : List Char :=
  List.intercalate ['.'] (bytes.map Number.decimalDigits)

/-- An internet address. -/
inductive IpAddress where
  | v4 (bytes : List Nat)
  | v6 (groups : List Nat)
deriving DecidableEq, Repr

namespace IpAddress

/-- The address that a text spells. -/
def parse? (text : String) : Option IpAddress :=
  let s := text.toList
  match bytes4? s with
  | some bytes => some (.v4 bytes)
  | none => (groups6? s).map .v6

/-- The text of an address. A version 4 address that is mapped into version 6 keeps its points. -/
def toText : IpAddress → String
  | .v4 bytes => String.ofList (renderBytes4 bytes)
  | .v6 [0, 0, 0, 0, 0, 0xFFFF, high, low] =>
    String.ofList (':' :: ':' :: 'f' :: 'f' :: 'f' :: 'f' :: ':' ::
      renderBytes4 [high / 256, high % 256, low / 256, low % 256])
  | .v6 groups => String.ofList (renderGroups6 groups)

end IpAddress
end EventRelay.Net
