import DataProduct.Digest.Sha1

/-!
# Name-based identifiers

The version-5 UUIDs of RFC 4122 §4.3: the first 16 bytes of the SHA-1 digest of a namespace's
bytes followed by a name's bytes, with the version and the variant written over four and two of
their bits, shown as 32 lowercase hex digits in groups of 8, 4, 4, 4 and 12.

* `nameBased`: the 16 bytes;
* `render`: the hyphenated text;
* `ofUrl`: the identifier of a name in the URL namespace, the one documents use.
-/

namespace DataProduct.Uuid

/-- The URL namespace `6ba7b811-9dad-11d1-80b4-00c04fd430c8` of RFC 4122 Appendix C. -/
def urlNamespace : List UInt8 :=
  [0x6b, 0xa7, 0xb8, 0x11, 0x9d, 0xad, 0x11, 0xd1, 0x80, 0xb4, 0x00, 0xc0, 0x4f, 0xd4, 0x30, 0xc8]

/-- Byte `i` of `bs` replaced by `f` of it. -/
def modifyAt (bs : List UInt8) (i : Nat) (f : UInt8 → UInt8) : List UInt8 := bs.modify i f

/-- The 16 bytes of the version-5 identifier of `name` in `ns`: version `5` in the high nibble of
byte 6, and the variant bits `10` at the top of byte 8. -/
def nameBased (ns name : List UInt8) : List UInt8 :=
  let hash := (Sha1.digest (ns ++ name)).take 16
  modifyAt (modifyAt hash 6 fun b => (b &&& 0x0f) ||| 0x50) 8 fun b => (b &&& 0x3f) ||| 0x80

/-- A lowercase hex digit. -/
def hexDigit (n : Nat) : Char :=
  if n < 10 then Char.ofNat (48 + n) else Char.ofNat (87 + n)

/-- The two lowercase hex digits of a byte. -/
def hexByte (b : UInt8) : List Char := [hexDigit (b.toNat / 16), hexDigit (b.toNat % 16)]

/-- The text of 16 bytes: hex digits with a hyphen before bytes 4, 6, 8 and 10. -/
def render (bs : List UInt8) : String :=
  String.ofList <| (bs.zipIdx.flatMap fun (b, i) =>
    (if i = 4 ∨ i = 6 ∨ i = 8 ∨ i = 10 then ['-'] else []) ++ hexByte b)

/-- The identifier of a name in the URL namespace, from the name's UTF-8 bytes. -/
def ofUrl (name : String) : String := render (nameBased urlNamespace name.toUTF8.toList)

end DataProduct.Uuid
