/-! The bytes of a text in UTF-8: what a text is written as, and that nothing is lost by it. -/
namespace GridDiffusion.Text

/-- The bytes of a text, one character after the other. -/
def bytes (text : String) : List UInt8 := text.toList.flatMap String.utf8EncodeChar

theorem bytes_append (left right : String) : bytes (left ++ right) = bytes left ++ bytes right := by
  simp [bytes]

theorem bytes_push (text : String) (character : Char) :
    bytes (text.push character) = bytes text ++ String.utf8EncodeChar character := by
  simp [bytes]

theorem bytes_ne_nil {text : String} (nonempty : text ≠ "") : bytes text ≠ [] := by
  intro none
  cases characters : text.toList with
  | nil => exact nonempty (String.toList_eq_nil_iff.mp characters)
  | cons first rest => simp [bytes, characters, String.utf8EncodeChar_ne_nil] at none

theorem byteArray_toList (array : ByteArray) : array.toList = array.data.toList := by
  have loop (index : Nat) (reversed : List UInt8) : ByteArray.toList.loop array index reversed =
      reversed.reverse ++ array.data.toList.drop index := by
    fun_induction ByteArray.toList.loop array index reversed with
    | case1 index reversed more ih =>
      have bound : index < array.data.toList.length := by simpa using more
      rw [ih, List.drop_eq_getElem_cons bound]
      simp [ByteArray.get!, getElem!_pos array.data index (by simpa using bound)]
    | case2 index reversed ended =>
      have past : array.data.toList.length ≤ index := by simpa using ended
      simp [List.drop_eq_nil_of_le past]
  simpa [ByteArray.toList] using loop 0 []

theorem toUTF8_toList (text : String) : text.toUTF8.toList = bytes text := by
  rw [byteArray_toList, String.toUTF8, ← String.utf8Encode_toList, List.utf8Encode,
    List.toList_data_toByteArray, bytes]

theorem toUTF8_size (text : String) : text.toUTF8.size = (bytes text).length := by
  rw [← toUTF8_toList, byteArray_toList, Array.length_toList, ByteArray.size]

theorem length_bytes (text : String) : (bytes text).length = text.utf8ByteSize :=
  (toUTF8_size text).symm

theorem fromUTF8?_bytes (text : String) : String.fromUTF8? (bytes text).toByteArray = some text := by
  have same : (bytes text).toByteArray = text.toByteArray := String.utf8Encode_toList
  simp [String.fromUTF8?, String.fromUTF8, same, text.isValidUTF8]

theorem fromUTF8?_eq_some_iff {row : List UInt8} {text : String} :
    String.fromUTF8? row.toByteArray = some text ↔ row = bytes text := by
  constructor
  · intro read
    obtain ⟨valid, same⟩ := Option.dite_none_right_eq_some.mp read
    have whole : text.toUTF8 = row.toByteArray := by
      rw [← Option.some.inj same]
      rfl
    rw [← toUTF8_toList, whole, byteArray_toList, List.toList_data_toByteArray]
  · intro same
    rw [same]
    exact fromUTF8?_bytes text

theorem utf8EncodeChar_of_lt {character : Char} (ascii : character.toNat < 0x80) :
    String.utf8EncodeChar character = [character.toNat.toUInt8] := by
  have low : character.toNat ≤ 127 := Nat.le_of_lt_succ ascii
  simp [String.utf8EncodeChar, low]

theorem le_of_mem_utf8EncodeChar {character : Char} {byte : UInt8}
    (wide : 0x80 ≤ character.toNat) (member : byte ∈ String.utf8EncodeChar character) :
    0x80 ≤ byte.toNat := by
  have high : ¬ character.toNat ≤ 127 := Nat.not_le_of_lt wide
  simp only [String.utf8EncodeChar, Char.toNat_val, high, if_false] at member
  split at member
  · simp only [List.mem_cons, List.not_mem_nil, or_false] at member
    rcases member with rfl | rfl <;> simp <;> omega
  split at member
  · simp only [List.mem_cons, List.not_mem_nil, or_false] at member
    rcases member with rfl | rfl | rfl <;> simp <;> omega
  · simp only [List.mem_cons, List.not_mem_nil, or_false] at member
    rcases member with rfl | rfl | rfl | rfl <;> simp <;> omega

end GridDiffusion.Text
