import Mathlib.Data.List.Basic
import WordArithmetic.Settings

namespace WordArithmetic

namespace Text

def encode (t : Text) : List UInt8 :=
  t.flatMap String.utf8EncodeChar

theorem encode_append (x y : Text) : encode (x ++ y) = encode x ++ encode y :=
  List.flatMap_append

theorem encode_singleton (c : Char) : encode [c] = String.utf8EncodeChar c :=
  List.flatMap_singleton _ _

theorem encode_append_return (t : Text) : encode (t ++ ['\r']) = encode t ++ [13] := by
  rw [encode_append, encode_singleton]
  rfl

theorem encodeChar_of_ascii {c : Char} (hc : c.toNat ≤ 127) :
    String.utf8EncodeChar c = [UInt8.ofNat c.toNat] := by
  rw [String.utf8EncodeChar]
  exact if_pos hc

/-- A character beyond ASCII has no byte below 128. -/
theorem byte_of_not_ascii {c : Char} {b : UInt8} (hc : 127 < c.toNat)
    (hb : b ∈ String.utf8EncodeChar c) : 128 ≤ b.toNat := by
  rw [String.utf8EncodeChar] at hb
  simp only [if_neg (Nat.not_le.mpr hc : ¬ c.val.toNat ≤ 127)] at hb
  split at hb
  · simp only [List.mem_cons, List.not_mem_nil, or_false] at hb
    rcases hb with rfl | rfl <;> simp <;> omega
  split at hb
  · simp only [List.mem_cons, List.not_mem_nil, or_false] at hb
    rcases hb with rfl | rfl | rfl <;> simp <;> omega
  · simp only [List.mem_cons, List.not_mem_nil, or_false] at hb
    rcases hb with rfl | rfl | rfl | rfl <;> simp <;> omega

theorem encodeChar_of_ascii_byte {c : Char} {b : UInt8} (hb : b ∈ String.utf8EncodeChar c)
    (hascii : b.toNat < 128) : c.toNat = b.toNat ∧ String.utf8EncodeChar c = [b] := by
  have hc : c.toNat ≤ 127 := by
    by_contra hlarge
    have := byte_of_not_ascii (by omega) hb
    omega
  have hone := encodeChar_of_ascii hc
  rw [hone, List.mem_singleton] at hb
  subst hb
  exact ⟨by simp; omega, hone⟩

/-- The encoded text has a line feed only where the text has one. -/
theorem feed_notMem_encode {t : Text} (ht : '\n' ∉ t) : 10 ∉ encode t := by
  intro hfeed
  obtain ⟨c, hc, hb⟩ := List.mem_flatMap.mp hfeed
  have hcode := (encodeChar_of_ascii_byte hb (by decide)).1
  have hchar : c = '\n' := Char.toNat_inj.mp hcode
  exact ht (hchar ▸ hc)

end Text

namespace Settings

@[simp]
theorem decode_encode (t : Text) : decode? t.encode = some t := by
  rw [decode?, String.fromUTF8?, dif_pos (.intro t rfl)]
  exact congrArg some String.toList_ofList

theorem eq_encode_of_decode {bytes : List UInt8} {t : Text} (h : decode? bytes = some t) :
    bytes = t.encode := by
  by_cases hvalid : bytes.toByteArray.IsValidUTF8
  · obtain ⟨m, hm⟩ := hvalid
    have hbytes : bytes = Text.encode m := List.toByteArray_inj.mp hm
    rw [hbytes, decode_encode, Option.some_inj] at h
    rw [hbytes, h]
  · rw [decode?, String.fromUTF8?, dif_neg hvalid] at h
    cases h

/-- A carriage return after bytes that are no text makes no text of them. -/
theorem decode_append_return {bytes : List UInt8} (h : decode? bytes = none) :
    decode? (bytes ++ [13]) = none := by
  rw [Option.eq_none_iff_forall_ne_some] at h ⊢
  intro t ht
  have hbytes := eq_encode_of_decode ht
  rcases List.eq_nil_or_concat' t with rfl | ⟨x, c, rfl⟩
  · simp [Text.encode] at hbytes
  rw [Text.encode_append, Text.encode_singleton] at hbytes
  -- The carriage return is the last byte of the last character, so it is that character.
  have hlast : (13 : UInt8) ∈ String.utf8EncodeChar c := by
    have hends := congrArg List.getLast? hbytes
    rw [List.getLast?_append_of_ne_nil _ String.utf8EncodeChar_ne_nil,
      List.getLast?_concat] at hends
    exact List.mem_of_getLast? hends.symm
  have hone := (Text.encodeChar_of_ascii_byte hlast (by decide)).2
  have hx : bytes = Text.encode x := List.append_cancel_right (hone ▸ hbytes)
  exact h x (by rw [hx, decode_encode])

end Settings

end WordArithmetic
