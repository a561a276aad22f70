/-!
# Punycode

Bootstring for domain labels, RFC 3492. The ASCII characters of a label come first; the others
are inserted in order of their code points, each insertion written as a number whose digits have
thresholds that adapt to the sizes seen so far.
-/

namespace EventRelay.Net.Punycode

/-- The digit for a value below thirty-six. -/
def digit (n : Nat) : Char := Char.ofNat (if n < 26 then 97 + n else 22 + n)

/-- The value of a digit of either case. -/
def value? (c : Char) : Option Nat :=
  if 'a' ≤ c ∧ c ≤ 'z' then some (c.toNat - 97)
  else if 'A' ≤ c ∧ c ≤ 'Z' then some (c.toNat - 65)
  else if '0' ≤ c ∧ c ≤ '9' then some (c.toNat - 22)
  else none

/-- The threshold of a digit at position `k`. -/
def threshold (bias k : Nat) : Nat := min 26 (max 1 (k - bias))

/-- The bias for the size of an insertion, which is first brought down to a few digits. -/
def settle (delta k : Nat) : Nat :=
  if 455 < delta then settle (delta / 35) (k + 36) else k + 36 * delta / (delta + 38)
termination_by delta
decreasing_by omega

/-- The bias after an insertion of size `delta` into `count` characters. -/
def adapt (delta count : Nat) (isFirst : Bool) : Nat :=
  let delta := if isFirst then delta / 700 else delta / 2
  settle (delta + delta / count) 0

/-- The digits of a number under a bias, from position `k` on. -/
def digits (bias k n : Nat) : List Char :=
  let t := threshold bias k
  if n < t then [digit n]
  else digit (t + (n - t) % (36 - t)) :: digits bias (k + 36) ((n - t) / (36 - t))
termination_by n
decreasing_by
  have ht : 1 ≤ threshold bias k ∧ threshold bias k ≤ 26 := by unfold threshold; omega
  have := Nat.div_le_self (n - threshold bias k) (36 - threshold bias k)
  omega

/-- What has been written so far, and the counts that the next number depends on. -/
structure Progress where
  written : List Char
  delta : Nat
  bias : Nat
  handled : Nat

/-- Goes past one character of the label while the code point `n` is inserted. -/
def visit (basic n : Nat) (p : Progress) (c : Char) : Progress :=
  if c.toNat < n then { p with delta := p.delta + 1 }
  else if c.toNat = n then
    { written := p.written ++ digits p.bias 36 p.delta
      delta := 0
      bias := adapt p.delta (p.handled + 1) (p.handled == basic)
      handled := p.handled + 1 }
  else p

/-- Inserts the code points in increasing order. -/
def insertAll (label : List Char) (basic : Nat) : (points : List Nat) → (next : Nat) →
    Progress → Progress
  | [], _, p => p
  | n :: points, next, p =>
    let p := { p with delta := p.delta + (n - next) * (p.handled + 1) }
    let p := label.foldl (visit basic n) p
    insertAll label basic points (n + 1) { p with delta := p.delta + 1 }

/-- The encoded label, without the mark that says it is one. -/
def encode (label : List Char) : List Char :=
  let basic := label.filter (·.toNat < 128)
  let points := ((label.filter (128 ≤ ·.toNat)).map Char.toNat).mergeSort.eraseDups
  let lead := if basic.isEmpty then [] else basic ++ ['-']
  lead ++ (insertAll label basic.length points 128 ⟨[], 0, 72, basic.length⟩).written

/-- Sums and weights of a number stay below this bound. -/
def numberBound : Nat := Nat.pow 2 32

/-- Reads one number: its value added to `sum`, and the rest. -/
def readNumber (bias : Nat) : (k sum weight : Nat) → List Char → Option (Nat × List Char)
  | _, _, _, [] => none
  | k, sum, weight, c :: rest => do
    let d ← value? c
    let t := threshold bias k
    let sum := sum + d * weight
    if numberBound ≤ sum then none
    else if d < t then pure (sum, rest)
    else if numberBound ≤ weight * (36 - t) then none
    else readNumber bias (k + 36) sum (weight * (36 - t)) rest

/-- Inserts the characters that the numbers of a text describe. `fuel` bounds their count. -/
def insertDecoded : (fuel : Nat) → (n i bias : Nat) → (label : List Char) → List Char →
    Option (List Char)
  | _, _, _, _, label, [] => some label
  | 0, _, _, _, _, _ => none
  | fuel + 1, n, i, bias, label, s => do
    let (j, s) ← readNumber bias 36 i 1 s
    let count := label.length + 1
    let point := n + j / count
    let place := j % count
    if point < 128 ∨ ¬ point.isValidChar then none
    else
      insertDecoded fuel point (place + 1) (adapt (j - i) count (i == 0))
        (label.take place ++ Char.ofNat point :: label.drop place) s

/-- The label that a text encodes. The last hyphen ends the ASCII characters, if there are any. -/
def decode? (s : List Char) : Option (List Char) :=
  let behind := s.reverse.takeWhile (· != '-')
  let basic := (s.reverse.drop (behind.length + 1)).reverse
  let numbers := if basic.isEmpty then s else behind.reverse
  insertDecoded numbers.length 128 0 72 basic numbers

end EventRelay.Net.Punycode
