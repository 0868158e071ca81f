/-!
# SHA-1

The SHA-1 message digest of FIPS 180-4 over a list of bytes. Words are 32 bits and are packed
from bytes big-endian, both in the message schedule and in the length field and the digest.

* `pad`: the message, a `0x80` byte, zeros, and the bit length in 8 bytes, to a multiple of 64;
* `compress`: one 64-byte block folded into the five-word state;
* `digest`: the 20 bytes of the hash.
-/

namespace DataProduct.Sha1

/-- The initial hash value of §5.3.1. -/
def initial : List UInt32 := [0x67452301, 0xEFCDAB89, 0x98BADCFE, 0x10325476, 0xC3D2E1F0]

/-- Rotation of a word to the left by `n` places, `0 < n < 32`. -/
def rotl (x : UInt32) (n : UInt32) : UInt32 := (x <<< n) ||| (x >>> (32 - n))

/-- The big-endian bytes of a number, `count` of them. -/
def bytesBE (count : Nat) (n : Nat) : List UInt8 :=
  (List.range count).reverse.map fun i => (n >>> (8 * i)).toUInt8

/-- The word of four bytes, the first one highest. -/
def wordBE (b0 b1 b2 b3 : UInt8) : UInt32 :=
  (b0.toUInt32 <<< 24) ||| (b1.toUInt32 <<< 16) ||| (b2.toUInt32 <<< 8) ||| b3.toUInt32

/-- The words of a block, four bytes each. -/
def words : List UInt8 → List UInt32
  | b0 :: b1 :: b2 :: b3 :: rest => wordBE b0 b1 b2 b3 :: words rest
  | _ => []

/-- The padded message of §5.1.1: a length that is a multiple of 64 bytes. -/
def pad (msg : List UInt8) : List UInt8 :=
  let zeros := (119 - msg.length % 64) % 64
  msg ++ [0x80] ++ List.replicate zeros 0 ++ bytesBE 8 (8 * msg.length)

/-- The 64-byte blocks of a padded message. -/
def blocks (bs : List UInt8) : List (List UInt8) :=
  if bs.length ≤ 64 then [bs] else bs.take 64 :: blocks (bs.drop 64)
termination_by bs.length
decreasing_by simp only [List.length_drop]; omega

/-- The 80-word message schedule of §6.1.2 from the 16 words of a block. -/
def schedule (w : List UInt32) : Array UInt32 :=
  (List.range 64).foldl
    (fun (a : Array UInt32) _ =>
      let n := a.size
      a.push (rotl (a.getD (n - 3) 0 ^^^ a.getD (n - 8) 0 ^^^ a.getD (n - 14) 0 ^^^
        a.getD (n - 16) 0) 1))
    w.toArray

/-- The round function and constant of round `t`. -/
def roundFn (t : Nat) (b c d : UInt32) : UInt32 × UInt32 :=
  if t < 20 then ((b &&& c) ||| (~~~b &&& d), 0x5A827999)
  else if t < 40 then (b ^^^ c ^^^ d, 0x6ED9EBA1)
  else if t < 60 then ((b &&& c) ||| (b &&& d) ||| (c &&& d), 0x8F1BBCDC)
  else (b ^^^ c ^^^ d, 0xCA62C1D6)

/-- The working variables `a` to `e` of §6.1.2. -/
structure Working where
  a : UInt32
  b : UInt32
  c : UInt32
  d : UInt32
  e : UInt32

/-- One of the eighty rounds. -/
def round (w : Array UInt32) (v : Working) (t : Nat) : Working :=
  let (f, k) := roundFn t v.b v.c v.d
  let temp := rotl v.a 5 + f + v.e + k + w.getD t 0
  ⟨temp, v.a, rotl v.b 30, v.c, v.d⟩

/-- One block folded into the state of five words. -/
def compress (h : List UInt32) (block : List UInt8) : List UInt32 :=
  let w := schedule (words block)
  let start : Working := ⟨h.getD 0 0, h.getD 1 0, h.getD 2 0, h.getD 3 0, h.getD 4 0⟩
  let v := (List.range 80).foldl (round w) start
  [h.getD 0 0 + v.a, h.getD 1 0 + v.b, h.getD 2 0 + v.c, h.getD 3 0 + v.d, h.getD 4 0 + v.e]

/-- The 20-byte SHA-1 digest of a message. -/
def digest (msg : List UInt8) : List UInt8 :=
  ((blocks (pad msg)).foldl compress initial).flatMap fun x => bytesBE 4 x.toNat

end DataProduct.Sha1
