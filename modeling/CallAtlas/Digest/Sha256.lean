import CallAtlas.Text.Basic

/-!
# SHA-256

The digest of a sequence of bytes: the bytes are padded to whole blocks of 64, each block is
spread over a schedule of 64 words, and the words are mixed into a state of eight words one after
the other. The digest of a text is that of its UTF-8 bytes, in hexadecimal.
-/

namespace CallAtlas.Digest

/-- The words that the state is made of. -/
abbrev Word := UInt32

/-- A word with its bits moved to the right in a circle. -/
def rotateRight (x n : Word) : Word := (x >>> n) ||| (x <<< (32 - n))

/-- The state of eight words. -/
structure State where
  a : Word
  b : Word
  c : Word
  d : Word
  e : Word
  f : Word
  g : Word
  h : Word
deriving DecidableEq, Repr

namespace State

/-- The state before the first block. -/
def initial : State :=
  ⟨0x6A09E667, 0xBB67AE85, 0x3C6EF372, 0xA54FF53A,
    0x510E527F, 0x9B05688C, 0x1F83D9AB, 0x5BE0CD19⟩

/-- The sums of the words of two states. -/
def add (s t : State) : State :=
  ⟨s.a + t.a, s.b + t.b, s.c + t.c, s.d + t.d, s.e + t.e, s.f + t.f, s.g + t.g, s.h + t.h⟩

/-- Mixes one word of the schedule, with its constant, into the state. -/
def round (s : State) (word constant : Word) : State :=
  let t1 := s.h + (rotateRight s.e 6 ^^^ rotateRight s.e 11 ^^^ rotateRight s.e 25)
    + ((s.e &&& s.f) ^^^ (~~~s.e &&& s.g)) + constant + word
  let t2 := (rotateRight s.a 2 ^^^ rotateRight s.a 13 ^^^ rotateRight s.a 22)
    + ((s.a &&& s.b) ^^^ (s.a &&& s.c) ^^^ (s.b &&& s.c))
  ⟨t1 + t2, s.a, s.b, s.c, s.d + t1, s.e, s.f, s.g⟩

/-- The words of a state. -/
def words (s : State) : List Word := [s.a, s.b, s.c, s.d, s.e, s.f, s.g, s.h]

end State

/-- The constants of the 64 rounds. -/
def roundConstants : List Word :=
  [
    0x428A2F98, 0x71374491, 0xB5C0FBCF, 0xE9B5DBA5, 0x3956C25B, 0x59F111F1, 0x923F82A4,
    0xAB1C5ED5, 0xD807AA98, 0x12835B01, 0x243185BE, 0x550C7DC3, 0x72BE5D74, 0x80DEB1FE,
    0x9BDC06A7, 0xC19BF174, 0xE49B69C1, 0xEFBE4786, 0x0FC19DC6, 0x240CA1CC, 0x2DE92C6F,
    0x4A7484AA, 0x5CB0A9DC, 0x76F988DA, 0x983E5152, 0xA831C66D, 0xB00327C8, 0xBF597FC7,
    0xC6E00BF3, 0xD5A79147, 0x06CA6351, 0x14292967, 0x27B70A85, 0x2E1B2138, 0x4D2C6DFC,
    0x53380D13, 0x650A7354, 0x766A0ABB, 0x81C2C92E, 0x92722C85, 0xA2BFE8A1, 0xA81A664B,
    0xC24B8B70, 0xC76C51A3, 0xD192E819, 0xD6990624, 0xF40E3585, 0x106AA070, 0x19A4C116,
    0x1E376C08, 0x2748774C, 0x34B0BCB5, 0x391C0CB3, 0x4ED8AA4A, 0x5B9CCA4F, 0x682E6FF3,
    0x748F82EE, 0x78A5636F, 0x84C87814, 0x8CC70208, 0x90BEFFFA, 0xA4506CEB, 0xBEF9A3F7,
    0xC67178F2]

/-- The bytes of a number with the most significant one first. -/
def bigEndian (count n : Nat) : List UInt8 :=
  (List.range count).map fun i => (n / Nat.pow 256 (count - 1 - i)).toUInt8

/-- The bytes with the padding that makes whole blocks of them. -/
def pad (bytes : List UInt8) : List UInt8 :=
  let size := bytes.length
  bytes ++ 0x80 :: List.replicate ((119 - size % 64) % 64) 0 ++ bigEndian 8 (size * 8)

/-- The words of bytes, four for each. -/
def toWords : List UInt8 → List Word
  | a :: b :: c :: d :: rest =>
    (a.toUInt32 <<< 24 ||| b.toUInt32 <<< 16 ||| c.toUInt32 <<< 8 ||| d.toUInt32) :: toWords rest
  | _ => []

/-- The words in blocks of sixteen. -/
def toBlocks : (fuel : Nat) → List Word → List (List Word)
  | 0, _ => []
  | fuel + 1, ws => if ws.isEmpty then [] else ws.take 16 :: toBlocks fuel (ws.drop 16)

/-- The next word of a schedule. -/
def nextWord (schedule : Array Word) : Word :=
  let n := schedule.size
  let back (k : Nat) : Word := schedule.getD (n - k) 0
  let s0 := rotateRight (back 15) 7 ^^^ rotateRight (back 15) 18 ^^^ (back 15 >>> 3)
  let s1 := rotateRight (back 2) 17 ^^^ rotateRight (back 2) 19 ^^^ (back 2 >>> 10)
  back 16 + s0 + back 7 + s1

/-- A schedule with some more words. -/
def extendSchedule : (count : Nat) → Array Word → Array Word
  | 0, schedule => schedule
  | count + 1, schedule => extendSchedule count (schedule.push (nextWord schedule))

/-- Mixes a block into the state. -/
def compress (s : State) (block : List Word) : State :=
  let schedule := (extendSchedule 48 block.toArray).toList
  s.add ((schedule.zip roundConstants).foldl (fun t w => t.round w.1 w.2) s)

/-- The state after all blocks of the bytes. -/
def finalState (bytes : List UInt8) : State :=
  let words := toWords (pad bytes)
  (toBlocks words.length words).foldl compress State.initial

/-- The hexadecimal digits of a number, a fixed number of them. -/
def hexDigits (count n : Nat) : Text :=
  (List.range count).map fun i =>
    let d := n / Nat.pow 16 (count - 1 - i) % 16
    if d < 10 then (d + 48).toUInt16 else (d + 87).toUInt16

/-- The digest of bytes in hexadecimal. -/
def ofBytes (bytes : List UInt8) : Text :=
  (finalState bytes).words.flatMap fun w => hexDigits 8 w.toNat

/-- The digest of a text. -/
def ofText (t : Text) : Text := ofBytes t.toUtf8

/-- A digest has 64 digits. -/
theorem length_ofBytes (bytes : List UInt8) : (ofBytes bytes).length = 64 := by
  simp [ofBytes, State.words, hexDigits]

end CallAtlas.Digest
