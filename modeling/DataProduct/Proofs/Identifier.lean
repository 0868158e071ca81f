import DataProduct.Identity.Name

/-!
# Name-based identifiers

The identifier of a node is the version-5 UUID of RFC 4122 §4.3 of its name in the URL
namespace: the first 16 bytes of the SHA-1 digest of the namespace's 16 bytes followed by the
name's UTF-8 bytes, with the version `5` written over the high nibble of byte 6 and the variant
bits `10` over the top two bits of byte 8, every other bit kept. It is shown as 32 lowercase hex
digits in groups of 8, 4, 4, 4 and 12, joined by hyphens. An empty name has no identifier.

* `Sha1.length_digest`: a digest has 20 bytes;
* `stamp_version`, `stamp_variant`: what the two stamps fix and what they keep of a byte;
* `render_eq_grouped`: the text of 16 bytes is their hex digits in the 8-4-4-4-12 form;
* `idOf_version5`: the identifier of every name.
-/

namespace DataProduct

/-! ## The digest -/

namespace Sha1

/-- A compression step gives five words, whatever it starts from. -/
theorem length_compress (h : List UInt32) (block : List UInt8) : (compress h block).length = 5 :=
  rfl

theorem length_foldl_compress (bs : List (List UInt8)) {h : List UInt32} (hh : h.length = 5) :
    (bs.foldl compress h).length = 5 := by
  induction bs generalizing h with
  | nil => exact hh
  | cons b bs ih => exact ih (length_compress h b)

theorem length_bytesBE (count n : Nat) : (bytesBE count n).length = count := by
  simp [bytesBE]

/-- Words written as four bytes each. -/
theorem length_flatMap_bytesBE (ws : List UInt32) :
    (ws.flatMap fun x => bytesBE 4 x.toNat).length = 4 * ws.length := by
  induction ws with
  | nil => rfl
  | cons w ws ih =>
    rw [List.flatMap_cons, List.length_append, length_bytesBE, ih, List.length_cons]
    omega

/-- A SHA-1 digest has 20 bytes: five words of four. -/
theorem length_digest (msg : List UInt8) : (digest msg).length = 20 := by
  rw [digest, length_flatMap_bytesBE, length_foldl_compress _ rfl]

end Sha1

namespace Uuid

/-! ## The version and variant stamps -/

/-- The version stamp writes `5` over the high nibble of a byte and keeps its low nibble; checked
on all 256 bytes. -/
theorem stamp_version_all :
    ∀ n : Fin 256, ((UInt8.ofNat n.val &&& 0x0f) ||| 0x50).toNat = 0x50 + n.val % 16 := by
  decide +kernel

/-- The variant stamp writes `10` over the top two bits of a byte and keeps the other six;
checked on all 256 bytes. -/
theorem stamp_variant_all :
    ∀ n : Fin 256, ((UInt8.ofNat n.val &&& 0x3f) ||| 0x80).toNat = 0x80 + n.val % 64 := by
  decide +kernel

theorem stamp_version (b : UInt8) : ((b &&& 0x0f) ||| 0x50).toNat = 0x50 + b.toNat % 16 := by
  simpa using stamp_version_all ⟨b.toNat, b.toNat_lt⟩

theorem stamp_variant (b : UInt8) : ((b &&& 0x3f) ||| 0x80).toNat = 0x80 + b.toNat % 64 := by
  simpa using stamp_variant_all ⟨b.toNat, b.toNat_lt⟩

/-! ## The text -/

/-- The lowercase hex digits, in order. -/
def hexDigits : List Char :=
  ['0', '1', '2', '3', '4', '5', '6', '7', '8', '9', 'a', 'b', 'c', 'd', 'e', 'f']

/-- Two lowercase hex digits for each byte, the high nibble first. -/
def hexText (bs : List UInt8) : List Char :=
  bs.flatMap fun b => [hexDigits.getD (b.toNat / 16) '0', hexDigits.getD (b.toNat % 16) '0']

/-- The hex digits of 16 bytes in groups of 8, 4, 4, 4 and 12, joined by hyphens. -/
def grouped (u : List UInt8) : List Char :=
  hexText (u.take 4) ++ ['-'] ++ hexText ((u.drop 4).take 2) ++ ['-'] ++
    hexText ((u.drop 6).take 2) ++ ['-'] ++ hexText ((u.drop 8).take 2) ++ ['-'] ++
    hexText (u.drop 10)

theorem hexDigit_eq_getD : ∀ n < 16, hexDigit n = hexDigits.getD n '0' := by decide

theorem hexByte_eq (b : UInt8) :
    hexByte b = [hexDigits.getD (b.toNat / 16) '0', hexDigits.getD (b.toNat % 16) '0'] := by
  have hb := b.toNat_lt
  rw [hexByte, hexDigit_eq_getD _ (by omega), hexDigit_eq_getD _ (by omega)]

/-- Sixteen bytes, one by one. -/
theorem exists_of_length_sixteen {u : List UInt8} (hu : u.length = 16) :
    ∃ b0 b1 b2 b3 b4 b5 b6 b7 b8 b9 b10 b11 b12 b13 b14 b15 : UInt8,
      u = [b0, b1, b2, b3, b4, b5, b6, b7, b8, b9, b10, b11, b12, b13, b14, b15] := by
  match u, hu with
  | [b0, b1, b2, b3, b4, b5, b6, b7, b8, b9, b10, b11, b12, b13, b14, b15], _ =>
    exact ⟨b0, b1, b2, b3, b4, b5, b6, b7, b8, b9, b10, b11, b12, b13, b14, b15, rfl⟩

/-- The text of 16 bytes is their hex digits in the 8-4-4-4-12 form. -/
theorem render_eq_grouped {u : List UInt8} (hu : u.length = 16) :
    (render u).toList = grouped u := by
  obtain ⟨b0, b1, b2, b3, b4, b5, b6, b7, b8, b9, b10, b11, b12, b13, b14, b15, rfl⟩ :=
    exists_of_length_sixteen hu
  simp only [render, grouped, hexText, hexByte_eq, String.toList_ofList, List.zipIdx_cons,
    List.zipIdx_nil, List.flatMap_cons, List.flatMap_nil, List.take, List.drop]
  simp

theorem length_grouped {u : List UInt8} (hu : u.length = 16) : (grouped u).length = 36 := by
  obtain ⟨b0, b1, b2, b3, b4, b5, b6, b7, b8, b9, b10, b11, b12, b13, b14, b15, rfl⟩ :=
    exists_of_length_sixteen hu
  simp [grouped, hexText]

/-- Characters 14 and 19 of the text are the high digits of bytes 6 and 8. -/
theorem grouped_version_variant {u : List UInt8} (hu : u.length = 16) :
    (grouped u)[14]? = some (hexDigits.getD ((u.getD 6 0).toNat / 16) '0') ∧
      (grouped u)[19]? = some (hexDigits.getD ((u.getD 8 0).toNat / 16) '0') := by
  obtain ⟨b0, b1, b2, b3, b4, b5, b6, b7, b8, b9, b10, b11, b12, b13, b14, b15, rfl⟩ :=
    exists_of_length_sixteen hu
  simp [grouped, hexText]

/-- The URL namespace is `6ba7b811-9dad-11d1-80b4-00c04fd430c8`. -/
theorem grouped_urlNamespace :
    String.ofList (grouped urlNamespace) = "6ba7b811-9dad-11d1-80b4-00c04fd430c8" := by
  decide

/-! ## The bytes -/

/-- The SHA-1 digest a name's identifier is cut from: that of the URL namespace's bytes followed
by the name's UTF-8 bytes. -/
def urlHash (f : String) : List UInt8 := Sha1.digest (urlNamespace ++ f.toUTF8.toList)

theorem length_nameBased (ns name : List UInt8) : (nameBased ns name).length = 16 := by
  simp [nameBased, modifyAt, Sha1.length_digest]

/-- Outside bytes 6 and 8, the identifier's bytes are the first 16 of the digest. -/
theorem nameBased_getD_of_ne (ns name : List UInt8) {i : Nat} (hi : i < 16) (h6 : i ≠ 6)
    (h8 : i ≠ 8) : (nameBased ns name).getD i 0 = (Sha1.digest (ns ++ name)).getD i 0 := by
  simp only [nameBased, modifyAt, List.getD_eq_getElem?_getD]
  rw [List.getElem?_modify_ne _ _ (Ne.symm h8), List.getElem?_modify_ne _ _ (Ne.symm h6),
    List.getElem?_take_of_lt hi]

/-- Byte 6 of the identifier is byte 6 of the digest with its high nibble set to `5`. -/
theorem nameBased_getD_six (ns name : List UInt8) :
    ((nameBased ns name).getD 6 0).toNat = 0x50 + ((Sha1.digest (ns ++ name)).getD 6 0).toNat % 16 := by
  have hlen := Sha1.length_digest (ns ++ name)
  simp only [nameBased, modifyAt, List.getD_eq_getElem?_getD]
  rw [List.getElem?_modify_ne _ _ (by decide), List.getElem?_modify_eq,
    List.getElem?_take_of_lt (by decide), List.getElem?_eq_getElem (by omega)]
  exact stamp_version _

/-- Byte 8 of the identifier is byte 8 of the digest with its top two bits set to `10`. -/
theorem nameBased_getD_eight (ns name : List UInt8) :
    ((nameBased ns name).getD 8 0).toNat = 0x80 + ((Sha1.digest (ns ++ name)).getD 8 0).toNat % 64 := by
  have hlen := Sha1.length_digest (ns ++ name)
  simp only [nameBased, modifyAt, List.getD_eq_getElem?_getD]
  rw [List.getElem?_modify_eq, List.getElem?_modify_ne _ _ (by decide),
    List.getElem?_take_of_lt (by decide), List.getElem?_eq_getElem (by omega)]
  exact stamp_variant _

/-- A hex digit of a byte whose top bits are `10` is one of `8`, `9`, `a`, `b`. -/
theorem variant_digit {b : UInt8} (hb : b.toNat / 64 = 2) :
    hexDigits.getD (b.toNat / 16) '0' ∈ ['8', '9', 'a', 'b'] := by
  have : b.toNat / 16 = 8 ∨ b.toNat / 16 = 9 ∨ b.toNat / 16 = 10 ∨ b.toNat / 16 = 11 := by omega
  rcases this with h | h | h | h <;> rw [h] <;> decide

/-- The identifier of a name is its version-5 UUID in the URL namespace. For every non-empty name
`f` there are 16 bytes `u` such that the identifier of `f` is their hex digits in the
8-4-4-4-12 form: 36 characters, with `5` at 14 and one of `8`, `9`, `a`, `b` at 19. Of the 20
bytes of the SHA-1 digest of the URL namespace's bytes followed by the UTF-8 bytes of `f`, `u`
keeps the first 16, except that byte 6 has its high nibble set to `5` and byte 8 its top two bits
set to `10`, their other bits kept. The empty name has no identifier, and the URL namespace is
`6ba7b811-9dad-11d1-80b4-00c04fd430c8`. -/
theorem idOf_version5 (f : String) :
    (f = "" → Identity.idOf f = .error (.emptyArgument "fqn")) ∧
    (f ≠ "" → ∃ u : List UInt8, Identity.idOf f = .ok (String.ofList (grouped u)) ∧
      u.length = 16 ∧ (urlHash f).length = 20 ∧
      (∀ i < 16, i ≠ 6 → i ≠ 8 → u.getD i 0 = (urlHash f).getD i 0) ∧
      (u.getD 6 0).toNat / 16 = 5 ∧ (u.getD 6 0).toNat % 16 = ((urlHash f).getD 6 0).toNat % 16 ∧
      (u.getD 8 0).toNat / 64 = 2 ∧ (u.getD 8 0).toNat % 64 = ((urlHash f).getD 8 0).toNat % 64 ∧
      (String.ofList (grouped u)).length = 36 ∧ (grouped u)[14]? = some '5' ∧
      ∃ c ∈ ['8', '9', 'a', 'b'], (grouped u)[19]? = some c) ∧
    String.ofList (grouped urlNamespace) = "6ba7b811-9dad-11d1-80b4-00c04fd430c8" := by
  refine ⟨fun hf => ?_, fun hf => ?_, grouped_urlNamespace⟩
  · subst hf
    rfl
  · have hu := length_nameBased urlNamespace f.toUTF8.toList
    have h6 : ((nameBased urlNamespace f.toUTF8.toList).getD 6 0).toNat =
        0x50 + ((urlHash f).getD 6 0).toNat % 16 := nameBased_getD_six _ _
    have h8 : ((nameBased urlNamespace f.toUTF8.toList).getD 8 0).toNat =
        0x80 + ((urlHash f).getD 8 0).toNat % 64 := nameBased_getD_eight _ _
    obtain ⟨hv, hw⟩ := grouped_version_variant hu
    refine ⟨nameBased urlNamespace f.toUTF8.toList, ?_, hu, Sha1.length_digest _,
      fun i hi hi6 hi8 => nameBased_getD_of_ne _ _ hi hi6 hi8, by omega, by omega, by omega,
      by omega, by rw [String.length_ofList, length_grouped hu], ?_, ?_⟩
    · -- a non-empty name passes the check and is rendered
      have hne : f.isEmpty = false := by simpa using hf
      rw [Identity.idOf, Identity.nonEmpty, if_neg (by simp [hne])]
      show Except.ok (ofUrl f) = _
      rw [ofUrl, ← render_eq_grouped hu, String.ofList_toList]
    · rw [hv, show (_ : Nat) / 16 = 5 by omega]
      rfl
    · exact ⟨_, variant_digit (by omega), hw⟩

end Uuid

end DataProduct
