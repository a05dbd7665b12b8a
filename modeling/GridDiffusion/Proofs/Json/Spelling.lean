import GridDiffusion.Json.Value
import GridDiffusion.Proofs.Text.Bytes
/-! Strings between quotes: every text has a spelling, and the spelling that is written is well
formed and stands for the text. -/
namespace GridDiffusion.Json.Spelling

open GridDiffusion.Text (bytes)

def escape (character : Char) : List Char :=
  match Value.shortEscape? character with
  | some letter => ['\\', letter]
  | none =>
    if character.toNat < 0x20 then
      ['\\', 'u', '0', '0', Value.hexDigit (character.toNat / 16),
        Value.hexDigit (character.toNat % 16)]
    else [character]

def ofChar (character : Char) : Spelling := (escape character).flatMap String.utf8EncodeChar

def ofText (text : String) : Spelling := text.toList.flatMap ofChar

theorem bytes_writeCharacter (written : String) (character : Char) :
    bytes (Value.writeCharacter written character) = bytes written ++ ofChar character := by
  have lead : bytes "\\u00" = ['\\', 'u', '0', '0'].flatMap String.utf8EncodeChar := by decide
  unfold Value.writeCharacter ofChar escape
  cases Value.shortEscape? character with
  | some letter => simp [Text.bytes_push]
  | none =>
    by_cases control : character.toNat < 0x20
    · simp [control, Text.bytes_push, Text.bytes_append, lead]
    · simp [control, Text.bytes_push]

theorem bytes_writeText (written text : String) :
    bytes (Value.writeText written text) = bytes written ++ 0x22 :: ofText text ++ [0x22] := by
  have quote : String.utf8EncodeChar '"' = [0x22] := by decide
  have fold (characters : List Char) (start : String) :
      bytes (characters.foldl Value.writeCharacter start) =
        bytes start ++ characters.flatMap ofChar := by
    induction characters generalizing start with
    | nil => simp
    | cons character rest ih => simp [ih, bytes_writeCharacter]
  simp [Value.writeText, Text.bytes_push, String.foldl_eq_foldl_toList, fold, ofText, quote]

def IsPlain (byte : UInt8) : Prop := 0x20 ≤ byte ∧ byte ≠ 0x22 ∧ byte ≠ 0x5C

instance : DecidablePred IsPlain := fun _ => inferInstanceAs (Decidable (_ ∧ _ ∧ _))

theorem isPlain_of_le {byte : UInt8} (wide : 0x80 ≤ byte.toNat) : IsPlain byte := by
  have low : (0x20 : UInt8).toNat = 0x20 := rfl
  refine ⟨UInt8.le_iff_toNat_le.mpr (by omega), ?_, ?_⟩ <;> rintro rfl <;> simp at wide

/-- A written character is itself, or a short escape, or an escape by its number. -/
inductive Form (character : Char) : Spelling → Prop
  | plain (all : ∀ byte ∈ String.utf8EncodeChar character, IsPlain byte) :
      Form character (String.utf8EncodeChar character)
  | short {letter byte : UInt8} (apart : letter ≠ 0x75) (stands : shortEscape? letter = some byte)
      (same : String.utf8EncodeChar character = [byte]) : Form character [0x5C, letter]
  | unit {first second third fourth : UInt8} (low : character.toNat < 0x20)
      (plain : ∀ byte ∈ [first, second, third, fourth], IsPlain byte)
      (stands : unit? first second third fourth = some character.toNat) :
      Form character [0x5C, 0x75, first, second, third, fourth]

private def hexByte (value : Nat) : UInt8 := (Value.hexDigit value).toNat.toUInt8

private theorem control_escape : ∀ number : Fin 32,
    Value.shortEscape? (Char.ofNat number) = none →
      ofChar (Char.ofNat number) =
          [0x5C, 0x75, 0x30, 0x30, hexByte (number / 16), hexByte (number % 16)] ∧
        (IsPlain (hexByte (number / 16)) ∧ IsPlain (hexByte (number % 16))) ∧
        unit? 0x30 0x30 (hexByte (number / 16)) (hexByte (number % 16)) = some number.val := by
  decide

private theorem short_escape {character letter : Char}
    (found : Value.shortEscape? character = some letter) :
    letter.toNat.toUInt8 ≠ 0x75 ∧
      shortEscape? letter.toNat.toUInt8 = some character.toNat.toUInt8 ∧
      ofChar character = [0x5C, letter.toNat.toUInt8] ∧
      String.utf8EncodeChar character = [character.toNat.toUInt8] := by
  unfold Value.shortEscape? at found
  split at found <;> cases found <;> decide

private theorem ascii_plain : ∀ number : Fin 128, 0x20 ≤ number.val →
    Value.shortEscape? (Char.ofNat number) = none → IsPlain number.val.toUInt8 := by
  decide

theorem form_ofChar (character : Char) : Form character (ofChar character) := by
  cases found : Value.shortEscape? character with
  | some letter =>
    obtain ⟨apart, stands, spelled, same⟩ := short_escape found
    exact spelled ▸ .short apart stands same
  | none =>
    by_cases control : character.toNat < 0x20
    · have zero : IsPlain 0x30 := by decide
      have escaped := control_escape ⟨character.toNat, control⟩ (by simpa using found)
      simp only [Char.ofNat_toNat] at escaped
      obtain ⟨spelled, ⟨high, low⟩, stands⟩ := escaped
      exact spelled ▸ .unit control (by simp [zero, high, low]) stands
    · have spelled : ofChar character = String.utf8EncodeChar character := by
        simp [ofChar, escape, found, control]
      refine spelled ▸ .plain fun byte member => ?_
      by_cases ascii : character.toNat < 0x80
      · rw [Text.utf8EncodeChar_of_lt ascii, List.mem_singleton] at member
        exact member ▸ ascii_plain ⟨character.toNat, ascii⟩ (Nat.le_of_not_lt control)
          (by simpa using found)
      · exact isPlain_of_le (Text.le_of_mem_utf8EncodeChar (Nat.le_of_not_lt ascii) member)

/-- What may stand between the quotes of a string: no bare quote, backslash or control character,
and only complete escapes. The bytes need not be those of a text. -/
inductive IsFormed : Spelling → Prop
  | nil : IsFormed []
  | plain {byte : UInt8} {rest : Spelling} (plain : IsPlain byte) (behind : IsFormed rest) :
    IsFormed (byte :: rest)
  | short {letter byte : UInt8} {rest : Spelling} (stands : shortEscape? letter = some byte)
    (behind : IsFormed rest) : IsFormed (0x5C :: letter :: rest)
  | unit {first second third fourth : UInt8} {rest : Spelling} {unit : Nat}
    (stands : unit? first second third fourth = some unit) (behind : IsFormed rest) :
    IsFormed (0x5C :: 0x75 :: first :: second :: third :: fourth :: rest)

theorem of_shortEscape? {letter byte : UInt8} (stands : shortEscape? letter = some byte) :
    byte.toNat < 0x80 ∧ letter ≠ 0x75 := by
  have table : ∀ number : Fin 256, ∀ byte ∈ shortEscape? (UInt8.ofNat number),
      byte.toNat < 0x80 ∧ UInt8.ofNat number ≠ 0x75 := by
    decide +kernel
  have same : UInt8.ofNat letter.toNat = letter := UInt8.ofNat_toNat
  have found := table ⟨letter.toNat, letter.toNat_lt⟩ byte
  rw [same] at found
  exact found stands

theorem of_hexDigit? {byte : UInt8} {digit : Nat} (found : hexDigit? (character byte) = some digit) :
    digit < 16 ∧ IsPlain byte := by
  have table : ∀ number : Fin 256, ∀ digit ∈ hexDigit? (character (UInt8.ofNat number)),
      digit < 16 ∧ IsPlain (UInt8.ofNat number) := by
    decide +kernel
  have same : UInt8.ofNat byte.toNat = byte := UInt8.ofNat_toNat
  have plain := table ⟨byte.toNat, byte.toNat_lt⟩ digit
  rw [same] at plain
  exact plain found

theorem of_unit? {first second third fourth : UInt8} {unit : Nat}
    (stands : unit? first second third fourth = some unit) :
    unit < 0x10000 ∧ ∀ byte ∈ [first, second, third, fourth], IsPlain byte := by
  simp only [unit?, Option.map_eq_some_iff, List.mapM_cons, List.mapM_nil, Option.bind_eq_bind,
    Option.bind_eq_some_iff, Option.pure_def, Option.some.injEq, Function.comp_apply] at stands
  obtain ⟨_, ⟨one, oneRead, _, ⟨two, twoRead, _, ⟨three, threeRead, _, ⟨four, fourRead, _, rfl, rfl⟩,
    rfl⟩, rfl⟩, rfl⟩, rfl⟩ := stands
  obtain ⟨one, firstPlain⟩ := of_hexDigit? oneRead
  obtain ⟨two, secondPlain⟩ := of_hexDigit? twoRead
  obtain ⟨three, thirdPlain⟩ := of_hexDigit? threeRead
  obtain ⟨four, fourthPlain⟩ := of_hexDigit? fourRead
  simp only [Digits.value, List.foldl_cons, List.foldl_nil, List.forall_mem_cons]
  exact ⟨by omega, firstPlain, secondPlain, thirdPlain, fourthPlain, List.forall_mem_nil _⟩

namespace IsFormed
variable {spelling : Spelling}

theorem plain_append (formed : IsFormed spelling) {row : List UInt8}
    (all : ∀ byte ∈ row, IsPlain byte) : IsFormed (row ++ spelling) := by
  induction row with
  | nil => exact formed
  | cons byte more ih =>
    obtain ⟨plain, others⟩ := List.forall_mem_cons.mp all
    exact .plain plain (ih others)

theorem isWellFormed (formed : IsFormed spelling) : spelling.isWellFormed = true := by
  induction formed with
  | nil => rfl
  | plain plain behind ih =>
    obtain ⟨printable, -, bare⟩ := plain
    rw [Spelling.isWellFormed, ih]
    · simp [printable, bare]
    all_goals simp [bare]
  | short stands behind ih =>
    rw [Spelling.isWellFormed, stands, ih]
    · rfl
    · exact fun _ _ _ _ _ same => absurd same (of_shortEscape? stands).2
  | unit stands behind ih => rw [Spelling.isWellFormed, stands, ih]; rfl

end IsFormed

theorem unescape?_plain {row : Spelling} (all : ∀ byte ∈ row, IsPlain byte)
    (reversed : List UInt8) (rest : Spelling) :
    unescape? reversed (row ++ rest) = unescape? (row.reverseAux reversed) rest := by
  induction row generalizing reversed with
  | nil => rfl
  | cons byte more ih =>
    obtain ⟨printable, -, bare⟩ := all byte List.mem_cons_self
    rw [List.cons_append, unescape?, List.reverseAux]
    · simp [printable, bare, ih fun other member => all other (.tail _ member)]
    all_goals simp [bare]

namespace Form
variable {character : Char} {spelled : Spelling}

theorem isFormed_append (form : Form character spelled) {rest : Spelling}
    (behind : IsFormed rest) : IsFormed (spelled ++ rest) := by
  cases form with
  | plain all => exact behind.plain_append all
  | short apart stands same => exact .short stands behind
  | unit low plain stands => exact .unit stands behind

theorem unescape?_append (form : Form character spelled) (reversed : List UInt8)
    (rest : Spelling) : unescape? reversed (spelled ++ rest) =
      unescape? ((String.utf8EncodeChar character).reverseAux reversed) rest := by
  cases form with
  | plain all => exact unescape?_plain all reversed rest
  | short apart stands same =>
    simp only [List.cons_append, List.nil_append]
    rw [unescape?]
    · simp [stands, same]
    · intros; simp_all
  | unit low plain stands =>
    have first : character.toNat < 0xD800 := Nat.lt_trans low (by decide)
    simp [unescape?, stands, first, pushScalar]

end Form

theorem isFormed_ofText (text : String) : IsFormed (ofText text) := by
  unfold ofText
  induction text.toList with
  | nil => exact .nil
  | cons character rest ih => exact (form_ofChar character).isFormed_append ih

theorem text?_ofText (text : String) : text? (ofText text) = some text := by
  have all (characters : List Char) (reversed : List UInt8) :
      unescape? reversed (characters.flatMap ofChar) =
        some (reversed.reverse ++ characters.flatMap String.utf8EncodeChar) := by
    induction characters generalizing reversed with
    | nil => simp [unescape?]
    | cons character rest ih =>
      rw [List.flatMap_cons, (form_ofChar character).unescape?_append, ih]
      simp [List.reverseAux_eq]
  rw [text?, ofText, all, List.reverse_nil, List.nil_append, Option.bind_some]
  exact Text.fromUTF8?_bytes text

end GridDiffusion.Json.Spelling
