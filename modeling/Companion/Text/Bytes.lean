/-! # Texts as bytes

The bytes of a text in UTF-8, and the part of a text between two byte offsets. `slice?` refuses
offsets that are out of order, behind the end of the text or inside a character; `slice?_append`
says that it finds every part of a text. -/

namespace Companion.Text

/-- The bytes of a text in UTF-8. -/
def bytes (text : String) : List UInt8 := text.toUTF8.data.toList

theorem bytes_eq (text : String) : bytes text = text.toList.flatMap String.utf8EncodeChar := by
  rw [bytes, String.toUTF8, ← String.utf8Encode_toList, List.utf8Encode,
    List.toList_data_toByteArray]

theorem length_bytes (text : String) : (bytes text).length = text.utf8ByteSize := rfl

/-- The part of a text between two byte offsets; none if they are not in order or one of them is no
border between characters of the text. -/
def slice? (text : String) (start stop : Nat) : Option String :=
  if borders : start ≤ stop ∧ String.Pos.Raw.IsValid text ⟨start⟩
      ∧ String.Pos.Raw.IsValid text ⟨stop⟩ then
    some (String.extract (text.pos ⟨start⟩ borders.2.1) (text.pos ⟨stop⟩ borders.2.2))
  else none

/-- A part of a text is found by `slice?` between the offsets at which it starts and ends. -/
theorem slice?_append (front piece back : String) :
    slice? (front ++ piece ++ back) front.utf8ByteSize (front.utf8ByteSize + piece.utf8ByteSize)
      = some piece := by
  have hstart : String.Pos.Raw.IsValid (front ++ piece ++ back) ⟨front.utf8ByteSize⟩ :=
    String.Pos.Raw.isValid_iff_exists_append.mpr
      ⟨front, piece ++ back, String.append_assoc .., rfl⟩
  have hstop : String.Pos.Raw.IsValid (front ++ piece ++ back)
      ⟨front.utf8ByteSize + piece.utf8ByteSize⟩ :=
    String.Pos.Raw.isValid_iff_exists_append.mpr
      ⟨front ++ piece, back, rfl, by simp [String.rawEndPos, String.utf8ByteSize_append]⟩
  -- on bytes, cutting out is dropping the front and taking as many bytes as the piece has
  have hextract : (front ++ piece ++ back).toByteArray.extract front.utf8ByteSize
      (front.utf8ByteSize + piece.utf8ByteSize) = piece.toByteArray := by
    have hfront := ByteArray.extract_append_size_add (a := front.toByteArray)
      (b := piece.toByteArray ++ back.toByteArray) (i := 0) (j := piece.toByteArray.size)
    rw [Nat.add_zero, ByteArray.extract_append_size_left, ByteArray.extract_zero_size] at hfront
    rw [String.append_assoc, String.toByteArray_append, String.toByteArray_append]
    exact hfront
  rw [slice?, dif_pos ⟨Nat.le_add_right _ _, hstart, hstop⟩, Option.some.injEq,
    ← String.toByteArray_inj, String.toByteArray_extract]
  exact hextract

/-- Only borders between characters, in order, have a `slice?` between them. -/
theorem isValid_of_slice?_eq_some {text piece : String} {start stop : Nat}
    (hslice : slice? text start stop = some piece) :
    start ≤ stop ∧ String.Pos.Raw.IsValid text ⟨start⟩ ∧ String.Pos.Raw.IsValid text ⟨stop⟩ := by
  rw [slice?] at hslice
  split at hslice
  · assumption
  · cases hslice

end Companion.Text
