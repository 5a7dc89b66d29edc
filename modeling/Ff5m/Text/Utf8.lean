import Ff5m.Text.Lines

/-!
# UTF-8

Texts as bytes, with the encoding of Lean's own strings: `encode` writes a text and
`decode` reads one, strictly.

* `decode_encode`, `encode_of_decode`: the two undo each other.
-/

namespace Utf8

open TextTools (Text)

/-- The bytes of a text. -/
def encode (t : Text) : List UInt8 := t.flatMap String.utf8EncodeChar

/-- The text that the bytes are the encoding of, if there is one. -/
def decode (b : List UInt8) : Option Text := b.toByteArray.utf8Decode?.map Array.toList

@[simp] theorem encode_nil : encode [] = [] := rfl

@[simp] theorem encode_append (s t : Text) : encode (s ++ t) = encode s ++ encode t :=
  List.flatMap_append

theorem toByteArray_encode (t : Text) : (encode t).toByteArray = t.utf8Encode := rfl

@[simp] theorem decode_encode (t : Text) : decode (encode t) = some t := by
  rw [decode, toByteArray_encode, List.utf8Decode?_utf8Encode]
  simp

theorem encode_of_decode {b : List UInt8} {t : Text} (h : decode b = some t) : encode t = b := by
  obtain ⟨a, ha, rfl⟩ := Option.map_eq_some_iff.1 h
  have hsome : b.toByteArray.utf8Decode?.isSome := by rw [ha]; rfl
  obtain ⟨l, hl⟩ := ByteArray.isSome_utf8Decode?_iff.1 hsome
  rw [hl, List.utf8Decode?_utf8Encode] at ha
  obtain rfl := Option.some.inj ha
  exact (List.toByteArray_inj.1 hl).symm

theorem encode_injective : Function.Injective encode := by
  intro s t h
  have hs := decode_encode s
  rw [h, decode_encode] at hs
  exact (Option.some.inj hs).symm

end Utf8
