/-!
The digest SHA-1 of a message, by which a server shows that it has understood a handshake.
-/
namespace ZigbeeBridge.Wire

/-- The last bytes of a number, the most significant first. -/
def bigEndian : Nat → Nat → List UInt8
  | 0, _ => []
  | count + 1, n => bigEndian count (n / 256) ++ [UInt8.ofNat n]

namespace Digest

def rotate (n : UInt32) (x : UInt32) : UInt32 := (x <<< n) ||| (x >>> (32 - n))

/-- The message with its length in bits, filled up to whole blocks of 64 bytes. -/
def padded (message : List UInt8) : List UInt8 :=
  let zeros := (119 - message.length % 64) % 64
  message ++ 0x80 :: (List.replicate zeros 0 ++ bigEndian 8 (8 * message.length))

def wordOf (bytes : List UInt8) : UInt32 :=
  bytes.foldl (fun n b => (n <<< 8) ||| b.toUInt32) 0

def wordsOf : List UInt8 → List UInt32
  | a :: b :: c :: d :: rest => wordOf [a, b, c, d] :: wordsOf rest
  | _ => []

structure Chain where
  a : UInt32
  b : UInt32
  c : UInt32
  d : UInt32
  e : UInt32

def Chain.start : Chain := ⟨0x67452301, 0xEFCDAB89, 0x98BADCFE, 0x10325476, 0xC3D2E1F0⟩

/-- How a round mixes the words, and its constant. -/
def mix (round : Nat) (s : Chain) : UInt32 :=
  if round < 20 then ((s.b &&& s.c) ||| (~~~s.b &&& s.d)) + 0x5A827999
  else if round < 40 then (s.b ^^^ s.c ^^^ s.d) + 0x6ED9EBA1
  else if round < 60 then ((s.b &&& s.c) ||| (s.b &&& s.d) ||| (s.c &&& s.d)) + 0x8F1BBCDC
  else (s.b ^^^ s.c ^^^ s.d) + 0xCA62C1D6

/-- One round for each word. The words that are still to come follow from the last sixteen. -/
def rounds : Nat → Nat → List UInt32 → Chain → Chain
  | 0, _, _, s => s
  | left + 1, round, words, s =>
    let word := words.headD 0
    let later := words.drop 1
    let fresh := rotate 1 (words.getD 13 0 ^^^ words.getD 8 0 ^^^ words.getD 2 0 ^^^ word)
    let s : Chain := ⟨rotate 5 s.a + mix round s + s.e + word, s.a, rotate 30 s.b, s.c, s.d⟩
    rounds left (round + 1) (later ++ [fresh]) s

def block (s : Chain) (words : List UInt32) : Chain :=
  let t := rounds 80 0 words s
  ⟨s.a + t.a, s.b + t.b, s.c + t.c, s.d + t.d, s.e + t.e⟩

def blocks : Nat → List UInt32 → Chain → Chain
  | 0, _, s => s
  | count + 1, words, s => blocks count (words.drop 16) (block s (words.take 16))

end Digest

open Digest in
def digest (message : List UInt8) : List UInt8 :=
  let words := wordsOf (padded message)
  let s := blocks (words.length / 16) words .start
  [s.a, s.b, s.c, s.d, s.e].flatMap fun word => bigEndian 4 word.toNat

end ZigbeeBridge.Wire
