/-!
# Digests of texts

The SHA-1 digest of a text in hexadecimal digits.  Five words are mixed with the message, sixteen
words at a time in eighty rounds; each round takes the first word of a window over the message and
adds a new word at its end.
-/

namespace SparqlStream

namespace Sha1

/-- The five words that are mixed with a message. -/
structure State where
  a : UInt32
  b : UInt32
  c : UInt32
  d : UInt32
  e : UInt32
  deriving DecidableEq, Repr

/-- The words before anything has been mixed with them. -/
def State.initial : State := ⟨0x67452301, 0xefcdab89, 0x98badcfe, 0x10325476, 0xc3d2e1f0⟩

/-- The sums of words at the same place. -/
def State.plus (s t : State) : State := ⟨s.a + t.a, s.b + t.b, s.c + t.c, s.d + t.d, s.e + t.e⟩

/-- Moves the bits of a word to the left; those that leave it come in again on the right. -/
def rotate (w bits : UInt32) : UInt32 := (w <<< bits) ||| (w >>> (32 - bits))

/-- How a round combines three words, and the constant that it adds. -/
def combine (round : Nat) (b c d : UInt32) : UInt32 × UInt32 :=
  match round / 20 with
  | 0 => ((b &&& c) ||| (~~~b &&& d), 0x5a827999)
  | 1 => (b ^^^ c ^^^ d, 0x6ed9eba1)
  | 2 => ((b &&& c) ||| (b &&& d) ||| (c &&& d), 0x8f1bbcdc)
  | _ => (b ^^^ c ^^^ d, 0xca62c1d6)

/-- The words after a round that takes a word of the message. -/
def mix (round : Nat) (s : State) (w : UInt32) : State :=
  let (f, k) := combine round s.b s.c s.d
  ⟨rotate s.a 5 + f + s.e + k + w, s.a, rotate s.b 30, s.c, s.d⟩

/-- The window without its first word and with a new one. -/
def slide (window : List UInt32) : List UInt32 :=
  let word (i : Nat) : UInt32 := window.getD i 0
  window.drop 1 ++ [rotate (word 13 ^^^ word 8 ^^^ word 2 ^^^ word 0) 1]

/-- The last `left` rounds. -/
def rounds (left : Nat) (s : State) (window : List UInt32) : State :=
  match left with
  | 0 => s
  | left + 1 => rounds left (mix (79 - left) s (window.getD 0 0)) (slide window)

/-- Mixes some blocks of sixteen words with a state. -/
def absorb (blocks : Nat) (s : State) (words : List UInt32) : State :=
  match blocks with
  | 0 => s
  | blocks + 1 => absorb blocks (s.plus (rounds 80 s (words.take 16))) (words.drop 16)

/-- Four bytes as a word each, the most significant byte first. -/
def wordsOf : List UInt8 → List UInt32
  | a :: b :: c :: d :: rest =>
    ((a.toUInt32 <<< 24) ||| (b.toUInt32 <<< 16) ||| (c.toUInt32 <<< 8) ||| d.toUInt32)
      :: wordsOf rest
  | _ => []

/-- The bytes behind a message of some length: a single bit, zeros up to the end of a block, and
the number of bits of the message. -/
def padding (length : Nat) : List UInt8 :=
  let zeros : List UInt8 := List.replicate ((119 - length % 64) % 64) 0
  let bits := (List.range 8).map fun i => UInt8.ofNat ((8 * length) >>> (8 * (7 - i)))
  0x80 :: zeros ++ bits

/-- A word in eight hexadecimal digits. -/
def hexWord (w : UInt32) : List Char :=
  (List.range 8).map fun i => Nat.digitChar ((w.toNat >>> (4 * (7 - i))) % 16)

end Sha1

/-- The SHA-1 digest of a text in hexadecimal digits. -/
def sha1 (text : String) : String :=
  let bytes := text.toUTF8.toList
  let words := Sha1.wordsOf (bytes ++ Sha1.padding bytes.length)
  let s := Sha1.absorb (words.length / 16) .initial words
  String.ofList ([s.a, s.b, s.c, s.d, s.e].flatMap Sha1.hexWord)

end SparqlStream
