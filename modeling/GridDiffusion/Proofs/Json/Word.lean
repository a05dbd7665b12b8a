import GridDiffusion.Proofs.Json.Numeral
import GridDiffusion.Proofs.Text.Bytes
import GridDiffusion.Json.Value
/-! Numbers as words: the text of a number, whole or double, is one unbroken word for the reader of
tokens. -/
namespace GridDiffusion.Json

def Token.IsWordByte (byte : UInt8) : Prop :=
  Token.isSpace byte = false ∧ byte ≠ 0x22 ∧ Token.punctuation? byte = none

instance : DecidablePred Token.IsWordByte := fun _ => inferInstanceAs (Decidable (_ ∧ _ ∧ _))

def Token.IsWordChar (character : Char) : Prop :=
  character.toNat < 0x80 ∧ Token.IsWordByte character.toNat.toUInt8

instance : DecidablePred Token.IsWordChar := fun _ => inferInstanceAs (Decidable (_ ∧ _))

def Token.Continues (text : String) : Prop := ∀ character ∈ text.toList, Token.IsWordChar character

instance (text : String) : Decidable (Token.Continues text) :=
  List.decidableBAll Token.IsWordChar text.toList

@[simp] theorem Token.continues_append {left right : String} :
    Continues (left ++ right) ↔ Continues left ∧ Continues right := by
  simp [Continues, or_imp, forall_and]

@[simp] theorem Token.continues_ofList {characters : List Char} :
    Continues (String.ofList characters) ↔ ∀ character ∈ characters, IsWordChar character := by
  simp [Continues]

/-- A text that is one word. -/
structure IsWord (text : String) : Prop where
  nonempty : text ≠ ""
  continues : Token.Continues text

theorem Token.isWordChar_of_isDigit {character : Char} (digit : character.isDigit = true) :
    Token.IsWordChar character := by
  have digits : ∀ number : Fin 128, (Char.ofNat number).isDigit = true →
      Token.IsWordByte number.val.toUInt8 := by decide
  have ascii : character.toNat < 128 := by
    simp only [Char.isDigit, Bool.and_eq_true, decide_eq_true_eq, UInt32.le_iff_toNat_le] at digit
    exact Nat.lt_of_le_of_lt digit.2 (by decide)
  exact ⟨ascii, digits ⟨character.toNat, ascii⟩ (by simpa using digit)⟩

theorem Token.isWordChar_of_mem_toDigits {character : Char} {number : Nat}
    (member : character ∈ Nat.toDigits 10 number) : Token.IsWordChar character :=
  isWordChar_of_isDigit (Nat.isDigit_of_mem_toDigits (by decide) (by decide) member)

theorem Token.continues_nat_repr (number : Nat) : Continues number.repr := by
  intro character member
  exact isWordChar_of_mem_toDigits (Nat.toList_repr ▸ member)

theorem IsWord.nat_repr (number : Nat) : IsWord number.repr where
  nonempty := by simp [← String.toList_eq_nil_iff]
  continues := Token.continues_nat_repr number

theorem IsWord.int_repr (value : Int) : IsWord value.repr := by
  rw [Int.repr_eq_if]
  split
  · exact nat_repr _
  · exact ⟨by simp, Token.continues_append.mpr ⟨by decide, Token.continues_nat_repr _⟩⟩

theorem IsWord.isWordByte {text : String} (word : IsWord text) :
    ∀ byte ∈ Text.bytes text, Token.IsWordByte byte := by
  intro byte member
  obtain ⟨character, present, inside⟩ := List.mem_flatMap.mp member
  obtain ⟨ascii, continues⟩ := word.continues character present
  rw [Text.utf8EncodeChar_of_lt ascii, List.mem_singleton] at inside
  exact inside ▸ continues

theorem IsWord.map_bytes {text : String} (word : IsWord text) :
    (Text.bytes text).map (fun byte => Char.ofNat byte.toNat) = text.toList := by
  have all (characters : List Char) (ascii : ∀ character ∈ characters, character.toNat < 0x80) :
      (characters.flatMap String.utf8EncodeChar).map (fun byte => Char.ofNat byte.toNat) =
        characters := by
    induction characters with
    | nil => rfl
    | cons character rest ih =>
      have low := ascii character List.mem_cons_self
      have same : character.toNat % 256 = character.toNat := Nat.mod_eq_of_lt (by omega)
      simp [Text.utf8EncodeChar_of_lt low, same, ih fun other member => ascii other (.tail _ member)]
  exact all _ fun character member => (word.continues character member).1

theorem Token.ofWord_numeral {word : List UInt8} {numeral : Numeral}
    (read : Numeral.ofWord? (word.map fun byte => Char.ofNat byte.toNat) = some numeral) :
    Token.ofWord word = .number numeral := by
  have apart {literal : String} (none : Numeral.ofWord? literal.toList = none) :
      word.map (fun byte => Char.ofNat byte.toNat) ≠ literal.toList := by
    intro same
    rw [same, none] at read
    cases read
  unfold ofWord
  dsimp only
  rw [if_neg (apart (by decide)), if_neg (apart (by decide)), if_neg (apart (by decide)), read]

/-- The text of a whole number is read as a numeral, of its value where it has 64 bits. -/
theorem Token.ofWord_int (value : Int) :
    ∃ numeral, Token.ofWord (Text.bytes value.repr) = .number numeral ∧
      (-(maxBelowZero : Int) ≤ value → value ≤ maxWord64 →
        numeral.value? = some (.int value)) := by
  obtain ⟨numeral, read, meaning⟩ := Numeral.exists_numeral_repr value
  exact ⟨numeral, ofWord_numeral ((IsWord.int_repr value).map_bytes ▸ read), meaning⟩

end GridDiffusion.Json

namespace GridDiffusion.FloatLayout

open Json Json.Token

theorem continues_zeros (count : Nat) : Continues (zeros count) := by
  have zero : IsWordChar '0' := by decide
  simp only [zeros, continues_ofList, List.mem_replicate]
  rintro character ⟨-, rfl⟩
  exact zero

theorem isWord_positional {digits : List Char} (nonempty : digits ≠ [])
    (continues : ∀ character ∈ digits, IsWordChar character) (power : Int) :
    IsWord (document.positional digits power) := by
  have suffix : Continues document.wholeSuffix := by decide
  have point : Continues "." := by decide
  have zero : Continues "0." := by decide
  cases power with
  | ofNat up =>
    refine ⟨by simp [positional, nonempty], ?_⟩
    simp only [positional, continues_append, continues_ofList]
    exact ⟨⟨continues, continues_zeros up⟩, suffix⟩
  | negSucc down =>
    simp only [positional]
    split
    · refine ⟨by simp, ?_⟩
      simp only [continues_append, continues_ofList]
      exact ⟨⟨fun character member => continues character (List.mem_of_mem_take member), point⟩,
        fun character member => continues character (List.mem_of_mem_drop member)⟩
    · refine ⟨by simp, ?_⟩
      simp only [continues_append, continues_ofList]
      exact ⟨⟨zero, continues_zeros _⟩, continues⟩

theorem isWord_exponential {digits : List Char}
    (continues : ∀ character ∈ digits, IsWordChar character) (leading : Int) :
    IsWord (exponential digits leading) := by
  have mark : Continues "e" := by decide
  have sign : Continues (if leading < 0 then "-" else "+") := by split <;> decide
  have point : IsWordChar '.' := by decide
  refine ⟨by simp [exponential], ?_⟩
  simp only [exponential, continues_append]
  refine ⟨⟨⟨?_, mark⟩, sign⟩, continues_nat_repr _⟩
  split
  next first second rest =>
    simp only [List.mem_cons, forall_eq_or_imp] at continues
    simp only [continues_ofList, List.mem_cons, forall_eq_or_imp]
    exact ⟨continues.1, point, continues.2⟩
  · exact continues_ofList.mpr continues

/-- The text of a double is one word, also where the double is no number. -/
theorem isWord_text (value : Binary64) : IsWord (document.text value) := by
  have sign : Continues (if value.isNegative then "-" else "") := by split <;> decide
  have signed {text : String} (word : IsWord text) :
      IsWord ((if value.isNegative then "-" else "") ++ text) :=
    ⟨by simp [word.nonempty], continues_append.mpr ⟨sign, word.continues⟩⟩
  unfold text
  split
  · exact ⟨by decide, by decide⟩
  · apply signed
    split
    · exact ⟨by decide, by decide⟩
    split
    · exact ⟨by decide, by decide⟩
    have digits (character : Char) (member : character ∈ Nat.toDigits 10 value.shortest.digits) :=
      isWordChar_of_mem_toDigits member
    dsimp only
    split
    · exact isWord_positional Nat.toDigits_ne_nil digits _
    · exact isWord_exponential digits _

end GridDiffusion.FloatLayout
