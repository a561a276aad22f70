import EventRelay.Text.Utf8

/-!
# SHA-256

The hash of a byte sequence as FIPS 180-4 defines it: pad to whole blocks of sixty-four bytes,
expand each block to sixty-four words, and fold the words into eight words of state.
-/

namespace EventRelay.Digest.Sha256

/-- The sixty-four round constants. -/
def roundConstants : List UInt32 :=
  [0x428a2f98, 0x71374491, 0xb5c0fbcf, 0xe9b5dba5, 0x3956c25b, 0x59f111f1, 0x923f82a4, 0xab1c5ed5,
   0xd807aa98, 0x12835b01, 0x243185be, 0x550c7dc3, 0x72be5d74, 0x80deb1fe, 0x9bdc06a7, 0xc19bf174,
   0xe49b69c1, 0xefbe4786, 0x0fc19dc6, 0x240ca1cc, 0x2de92c6f, 0x4a7484aa, 0x5cb0a9dc, 0x76f988da,
   0x983e5152, 0xa831c66d, 0xb00327c8, 0xbf597fc7, 0xc6e00bf3, 0xd5a79147, 0x06ca6351, 0x14292967,
   0x27b70a85, 0x2e1b2138, 0x4d2c6dfc, 0x53380d13, 0x650a7354, 0x766a0abb, 0x81c2c92e, 0x92722c85,
   0xa2bfe8a1, 0xa81a664b, 0xc24b8b70, 0xc76c51a3, 0xd192e819, 0xd6990624, 0xf40e3585, 0x106aa070,
   0x19a4c116, 0x1e376c08, 0x2748774c, 0x34b0bcb5, 0x391c0cb3, 0x4ed8aa4a, 0x5b9cca4f, 0x682e6ff3,
   0x748f82ee, 0x78a5636f, 0x84c87814, 0x8cc70208, 0x90befffa, 0xa4506ceb, 0xbef9a3f7, 0xc67178f2]

/-- The eight words of state. -/
structure State where
  a : UInt32
  b : UInt32
  c : UInt32
  d : UInt32
  e : UInt32
  f : UInt32
  g : UInt32
  h : UInt32

/-- The state before the first block. -/
def State.initial : State :=
  ⟨0x6a09e667, 0xbb67ae85, 0x3c6ef372, 0xa54ff53a, 0x510e527f, 0x9b05688c, 0x1f83d9ab, 0x5be0cd19⟩

/-- The words of a state, first to last. -/
def State.words (s : State) : List UInt32 := [s.a, s.b, s.c, s.d, s.e, s.f, s.g, s.h]

/-- Word by word sum of two states. -/
def State.add (s t : State) : State :=
  ⟨s.a + t.a, s.b + t.b, s.c + t.c, s.d + t.d, s.e + t.e, s.f + t.f, s.g + t.g, s.h + t.h⟩

/-- Rotation to the right by `n` of thirty-two bits. -/
def rotate (n : UInt32) (x : UInt32) : UInt32 := (x >>> n) ||| (x <<< (32 - n))

/-- One round: mixes a word and its constant into the state. -/
def round (s : State) (word : UInt32 × UInt32) : State :=
  let choice := (s.e &&& s.f) ^^^ (~~~s.e &&& s.g)
  let majority := (s.a &&& s.b) ^^^ (s.a &&& s.c) ^^^ (s.b &&& s.c)
  let high := rotate 2 s.a ^^^ rotate 13 s.a ^^^ rotate 22 s.a
  let low := rotate 6 s.e ^^^ rotate 11 s.e ^^^ rotate 25 s.e
  let t := s.h + low + choice + word.2 + word.1
  ⟨t + high + majority, s.a, s.b, s.c, s.d + t, s.e, s.f, s.g⟩

/-- The word that follows `w` in the schedule. -/
def nextWord (w : Array UInt32) : UInt32 :=
  let n := w.size
  let x := w.getD (n - 15) 0
  let y := w.getD (n - 2) 0
  w.getD (n - 16) 0 + (rotate 7 x ^^^ rotate 18 x ^^^ (x >>> 3)) + w.getD (n - 7) 0 +
    (rotate 17 y ^^^ rotate 19 y ^^^ (y >>> 10))

/-- The sixteen words of a block, expanded to sixty-four. -/
def schedule (block : List UInt32) : List UInt32 :=
  (Nat.repeat (fun w ↦ w.push (nextWord w)) 48 block.toArray).toList

/-- The state after one more block. -/
def compress (s : State) (block : List UInt32) : State :=
  s.add (((schedule block).zip roundConstants).foldl round s)

/-- The four bytes of a word, the highest first. -/
def wordBytes (w : UInt32) : Bytes :=
  [(w >>> 24).toUInt8, (w >>> 16).toUInt8, (w >>> 8).toUInt8, w.toUInt8]

/-- The words that groups of four bytes stand for. -/
def words : Bytes → List UInt32
  | a :: b :: c :: d :: rest =>
    (a.toUInt32 <<< 24 ||| b.toUInt32 <<< 16 ||| c.toUInt32 <<< 8 ||| d.toUInt32) :: words rest
  | _ => []

/-- The message with a one bit, zero bytes and its length in bits, in whole blocks. -/
def pad (message : Bytes) : Bytes :=
  let bits := message.length * 8
  let zeros := (119 - message.length % 64) % 64
  message ++ 0x80 :: List.replicate zeros 0 ++
    wordBytes (UInt32.ofNat (bits / Nat.pow 2 32)) ++ wordBytes (UInt32.ofNat bits)

/-- Folds a list of words into the state, block by block. -/
def absorb (s : State) (ws : List UInt32) : State :=
  if _h : 16 ≤ ws.length then absorb (compress s (ws.take 16)) (ws.drop 16) else s
termination_by ws.length
decreasing_by rw [List.length_drop]; omega

/-- The thirty-two bytes of the hash. -/
def hash (message : Bytes) : Bytes :=
  (absorb State.initial (words (pad message))).words.flatMap wordBytes

end EventRelay.Digest.Sha256
