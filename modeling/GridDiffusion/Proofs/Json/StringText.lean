import GridDiffusion.Proofs.Json.Spelling
/-! The strings of a document: which bytes may stand between quotes, and which text they stand for.
The text that is read is exactly the one that the bytes spell, character by character. -/
namespace GridDiffusion

namespace Text

theorem utf8EncodeChar_append_inj {left right : Char} {more others : List UInt8}
    (same : String.utf8EncodeChar left ++ more = String.utf8EncodeChar right ++ others) :
    left = right ∧ more = others := by
  have decoded (character : Char) (rest : List UInt8) :
      (String.utf8EncodeChar character ++ rest).toByteArray.utf8DecodeChar? 0 = some character := by
    rw [List.toByteArray_append, ByteArray.utf8DecodeChar?_utf8EncodeChar_append]
  have equal : left = right := by
    have first := decoded left more
    rw [same, decoded right others] at first
    exact (Option.some.inj first).symm
  subst equal
  exact ⟨rfl, List.append_cancel_left same⟩

theorem exists_utf8EncodeChar (character : Char) : ∃ first rest,
    String.utf8EncodeChar character = first :: rest ∧ first.IsUTF8FirstByte ∧
      ∀ byte ∈ rest, ¬ byte.IsUTF8FirstByte := by
  cases shown : String.utf8EncodeChar character with
  | nil => exact absurd shown String.utf8EncodeChar_ne_nil
  | cons first rest =>
    have all (index : Nat) (inside : index < (first :: rest).length) :
        (first :: rest)[index].IsUTF8FirstByte ↔ index = 0 := by
      simp only [← shown]
      exact UInt8.isUTF8FirstByte_getElem_utf8EncodeChar
    refine ⟨first, rest, rfl, (all 0 (Nat.succ_pos _)).mpr rfl, fun byte member begins => ?_⟩
    obtain ⟨index, inside, rfl⟩ := List.getElem_of_mem member
    exact Nat.succ_ne_zero index ((all (index + 1) (Nat.succ_lt_succ inside)).mp begins)

end Text

namespace Json.Spelling

/-- An escape and the character that it stands for. -/
inductive Escape : List UInt8 → Char → Prop
  | short {letter byte : UInt8} (stands : shortEscape? letter = some byte) :
    Escape [0x5C, letter] (character byte)
  | unit {first second third fourth : UInt8} {scalar : Char}
    (stands : unit? first second third fourth = some scalar.toNat) :
    Escape [0x5C, 0x75, first, second, third, fourth] scalar
  /-- A character beyond the sixteen bits of a unit takes a unit of each surrogate half. -/
  | pair {first second third fourth fifth sixth seventh eighth : UInt8} {high low : Nat}
    {scalar : Char} (upper : unit? first second third fourth = some high)
    (lower : unit? fifth sixth seventh eighth = some low) (highHalf : 0xD800 ≤ high ∧ high ≤ 0xDBFF)
    (lowHalf : 0xDC00 ≤ low ∧ low ≤ 0xDFFF)
    (together : scalar.toNat = 0x10000 + (high - 0xD800) * 0x400 + (low - 0xDC00)) :
    Escape [0x5C, 0x75, first, second, third, fourth, 0x5C, 0x75, fifth, sixth, seventh, eighth] scalar

/-- The characters that a spelled string stands for: an escape for its own, and every other
character from the blank up, but for the backslash, for itself. -/
inductive Means : Spelling → List Char → Prop
  | nil : Means [] []
  | plain {character : Char} {rest : Spelling} {more : List Char}
    (printable : 0x20 ≤ character.toNat) (bare : character ≠ '\\') (behind : Means rest more) :
    Means (String.utf8EncodeChar character ++ rest) (character :: more)
  | escape {character : Char} {row rest : Spelling} {more : List Char}
    (escape : Escape row character) (behind : Means rest more) :
    Means (row ++ rest) (character :: more)

/-- The bytes that a spelled string turns into. -/
inductive Yields : Spelling → List UInt8 → Prop
  | nil : Yields [] []
  | plain {byte : UInt8} {rest : Spelling} {bytes : List UInt8} (printable : 0x20 ≤ byte)
    (bare : byte ≠ 0x5C) (behind : Yields rest bytes) : Yields (byte :: rest) (byte :: bytes)
  | escape {character : Char} {row rest : Spelling} {bytes : List UInt8}
    (escape : Escape row character) (behind : Yields rest bytes) :
    Yields (row ++ rest) (String.utf8EncodeChar character ++ bytes)

theorem toNat_ofNat {number : Nat} (valid : number.isValidChar) :
    (Char.ofNat number).toNat = number := by
  rw [Char.ofNat, dif_pos valid]
  rfl

theorem utf8EncodeChar_character {byte : UInt8} (ascii : byte.toNat < 0x80) :
    String.utf8EncodeChar (character byte) = [byte] := by
  have same : (character byte).toNat = byte.toNat := toNat_ofNat (.inl (by omega))
  rw [Text.utf8EncodeChar_of_lt (same ▸ ascii), same]
  simp

theorem pushScalar_toNat (scalar : Char) (reversed : List UInt8) :
    pushScalar scalar.toNat reversed = (String.utf8EncodeChar scalar).reverseAux reversed := by
  rw [pushScalar, Char.ofNat_toNat]

theorem unescape?_escape {row : Spelling} {character : Char} (escape : Escape row character)
    (reversed : List UInt8) (rest : Spelling) : unescape? reversed (row ++ rest) =
      unescape? ((String.utf8EncodeChar character).reverseAux reversed) rest := by
  cases escape with
  | short stands =>
    obtain ⟨ascii, apart⟩ := of_shortEscape? stands
    simp only [List.cons_append, List.nil_append]
    rw [unescape?]
    · simp [stands, utf8EncodeChar_character ascii]
    · exact fun _ _ _ _ _ same => absurd same apart
  | unit stands =>
    have apart : character.toNat < 0xD800 ∨ 0xDFFF < character.toNat :=
      character.valid.imp_right And.left
    simp only [List.cons_append, List.nil_append, unescape?, stands, if_pos apart, pushScalar_toNat]
  | pair upper lower highHalf lowHalf together =>
    simp only [List.cons_append, List.nil_append, unescape?, upper, lower]
    rw [if_neg (by omega), if_neg (by omega), if_neg (by omega), ← together, pushScalar_toNat]

theorem Escape.yields {row rest : Spelling} {reversed bytes : List UInt8} {scalar : Nat}
    (escape : Escape row (Char.ofNat scalar))
    (later : ∃ behind, Yields rest behind ∧ bytes = (pushScalar scalar reversed).reverse ++ behind) :
    ∃ behind, Yields (row ++ rest) behind ∧ bytes = reversed.reverse ++ behind := by
  obtain ⟨behind, yields, rfl⟩ := later
  exact ⟨_, .escape escape yields, by simp [pushScalar, List.reverseAux_eq]⟩

theorem unescape?_eq_some_iff {reversed bytes : List UInt8} {spelling : Spelling} :
    unescape? reversed spelling = some bytes ↔
      ∃ behind, Yields spelling behind ∧ bytes = reversed.reverse ++ behind := by
  constructor
  · intro read
    fun_induction unescape? reversed spelling
    case case2 reversed first second third fourth rest unit stands apart ih =>
      have bound := (of_unit? stands).1
      have valid : unit.isValidChar := apart.imp_right fun above => ⟨above, by omega⟩
      exact Escape.yields (.unit (by rw [stands, toNat_ofNat valid])) (ih read)
    case case6 reversed first second third fourth high upper surrogate lowest fifth sixth seventh
        eighth rest low lower other scalar ih =>
      have valid : scalar.isValidChar := .inr ⟨by omega, by omega⟩
      exact Escape.yields (.pair upper lower (by omega) (by omega) (toNat_ofNat valid)) (ih read)
    case case9 reversed letter rest apart byte stands ih =>
      obtain ⟨behind, yields, rfl⟩ := ih read
      refine ⟨_, .escape (.short stands) yields, ?_⟩
      simp [utf8EncodeChar_character (of_shortEscape? stands).1]
    case case10 reversed byte rest _ _ plain ih =>
      obtain ⟨behind, yields, rfl⟩ := ih read
      exact ⟨_, .plain plain.1 plain.2 yields, by simp⟩
    case case12 reversed =>
      cases read
      exact ⟨[], .nil, (List.append_nil _).symm⟩
    all_goals cases read
  · intro found
    obtain ⟨behind, yields, rfl⟩ := found
    induction yields generalizing reversed with
    | nil => simp [unescape?]
    | plain printable bare behind ih =>
      rw [unescape?]
      · simp [printable, bare, ih]
      · exact fun _ _ _ _ _ same => absurd same bare
      · exact fun _ _ same => absurd same bare
    | escape escape behind ih =>
      rw [unescape?_escape escape, ih]
      simp [List.reverseAux_eq]

theorem plain_iff {character : Char} : 0x20 ≤ character.toNat ∧ character ≠ '\\' ↔
    ∀ byte ∈ String.utf8EncodeChar character, 0x20 ≤ byte ∧ byte ≠ 0x5C := by
  by_cases ascii : character.toNat < 0x80
  · have same : character = '\\' ↔ character.toNat = 0x5C := Char.toNat_inj.symm
    have low : character.toNat % 256 = character.toNat := Nat.mod_eq_of_lt (by omega)
    rw [Text.utf8EncodeChar_of_lt ascii, List.forall_mem_singleton, UInt8.le_iff_toNat_le, Ne, Ne,
      same, ← UInt8.toNat_inj, Nat.toUInt8_eq, UInt8.toNat_ofNat', low]
    rfl
  · have wide := Nat.le_of_not_lt ascii
    have apart : character ≠ '\\' := fun same => absurd (same ▸ wide) (by decide)
    refine iff_of_true ⟨by omega, apart⟩ fun byte member => ?_
    have plain := isPlain_of_le (Text.le_of_mem_utf8EncodeChar wide member)
    exact ⟨plain.1, plain.2.2⟩

theorem Means.yields {spelling : Spelling} {characters : List Char}
    (means : Means spelling characters) :
    Yields spelling (characters.flatMap String.utf8EncodeChar) := by
  have plain {row : List UInt8} (all : ∀ byte ∈ row, 0x20 ≤ byte ∧ byte ≠ 0x5C)
      {rest : Spelling} {bytes : List UInt8} (behind : Yields rest bytes) :
      Yields (row ++ rest) (row ++ bytes) := by
    induction row with
    | nil => exact behind
    | cons byte more ih =>
      obtain ⟨printable, bare⟩ := all byte List.mem_cons_self
      exact .plain printable bare (ih fun other member => all other (.tail _ member))
  induction means with
  | nil => exact .nil
  | escape escape behind ih => exact .escape escape ih
  | plain printable bare behind ih => exact plain (plain_iff.mp ⟨printable, bare⟩) ih

/-- No escape yields the middle of a character, so what is left of one stands for itself. -/
theorem Yields.exists_rest {tail bytes : List UInt8} {spelling : Spelling}
    (inner : ∀ byte ∈ tail, ¬ byte.IsUTF8FirstByte) (yields : Yields spelling (tail ++ bytes)) :
    ∃ rest, spelling = tail ++ rest ∧ Yields rest bytes ∧
      ∀ byte ∈ tail, 0x20 ≤ byte ∧ byte ≠ 0x5C := by
  induction tail generalizing spelling with
  | nil => exact ⟨spelling, rfl, yields, List.forall_mem_nil _⟩
  | cons byte tail ih =>
    obtain ⟨begins, others⟩ := List.forall_mem_cons.mp inner
    generalize shown : byte :: tail ++ bytes = whole at yields
    cases yields with
    | nil => cases shown
    | plain printable bare behind =>
      obtain ⟨rfl, rfl⟩ := List.cons.inj shown
      obtain ⟨rest, rfl, later, all⟩ := ih others behind
      exact ⟨rest, rfl, later, List.forall_mem_cons.mpr ⟨⟨printable, bare⟩, all⟩⟩
    | @escape character _ _ _ escape behind =>
      obtain ⟨first, more, encoded, starts, -⟩ := Text.exists_utf8EncodeChar character
      rw [encoded] at shown
      exact absurd ((List.cons.inj shown).1 ▸ starts) begins

/-- What yields the bytes of a text stands for its characters. -/
theorem Yields.means {spelling : Spelling} {characters : List Char}
    (yields : Yields spelling (characters.flatMap String.utf8EncodeChar)) :
    Means spelling characters := by
  induction characters generalizing spelling with
  | nil =>
    generalize shown : [].flatMap String.utf8EncodeChar = whole at yields
    cases yields with
    | nil => exact .nil
    | plain => cases shown
    | escape => simp [String.utf8EncodeChar_ne_nil] at shown
  | cons character more ih =>
    rw [List.flatMap_cons] at yields
    generalize shown : String.utf8EncodeChar character ++ _ = whole at yields
    cases yields with
    | nil => simp [String.utf8EncodeChar_ne_nil] at shown
    | escape escape behind =>
      obtain ⟨rfl, rfl⟩ := Text.utf8EncodeChar_append_inj shown
      exact .escape escape (ih behind)
    | plain printable bare behind =>
      obtain ⟨first, tail, encoded, -, inner⟩ := Text.exists_utf8EncodeChar character
      rw [encoded] at shown
      obtain ⟨rfl, rfl⟩ := List.cons.inj shown
      obtain ⟨rest, rfl, later, all⟩ := Yields.exists_rest inner behind
      have plain : ∀ byte ∈ String.utf8EncodeChar character, 0x20 ≤ byte ∧ byte ≠ 0x5C :=
        encoded ▸ List.forall_mem_cons.mpr ⟨⟨printable, bare⟩, all⟩
      have self := plain_iff.mpr plain
      rw [← List.cons_append, ← encoded]
      exact .plain self.1 self.2 (ih later)

/-- The text of a spelled string is the one that its characters make up. -/
theorem text?_eq_some_iff {spelling : Spelling} {text : String} :
    text? spelling = some text ↔ Means spelling text.toList := by
  rw [text?, Option.bind_eq_some_iff]
  simp only [unescape?_eq_some_iff, Text.fromUTF8?_eq_some_iff]
  constructor
  · intro read
    obtain ⟨_, ⟨bytes, yields, rfl⟩, same⟩ := read
    subst same
    exact Yields.means yields
  · intro means
    exact ⟨_, ⟨_, means.yields, rfl⟩, rfl⟩

end Json.Spelling
end GridDiffusion
