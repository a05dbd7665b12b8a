import GridDiffusion.Proofs.Json.Spelling
import GridDiffusion.Proofs.Json.Word
/-! The tokens of a written value: reading a value's text byte by byte gives its row of tokens. -/
namespace GridDiffusion.Json

namespace Value

def numberText : Number → String
  | .int value => value.repr
  | .float value => FloatLayout.document.text value

theorem writeNumber_eq (written : String) (number : Number) :
    writeNumber written number = written ++ numberText number := by
  cases number <;> rfl

theorem isWord_numberText (number : Number) : IsWord (numberText number) := by
  cases number with
  | int value => exact .int_repr value
  | float value => exact FloatLayout.isWord_text value

mutual

/-- The row of tokens that a value is written as. -/
def row : Value → List Token
  | null => [.null]
  | bool value => [.bool value]
  | number value => [.ofWord (Text.bytes (numberText value))]
  | text value => [.text (.ofText value)]
  | array [] => [.openArray, .closeArray]
  | array (first :: rest) => .openArray :: (first.row ++ rowOfItems rest ++ [.closeArray])
  | object [] => [.openObject, .closeObject]
  | object ((name, first) :: rest) =>
    .openObject :: .text (.ofText name) :: .colon ::
      (first.row ++ rowOfMembers rest ++ [.closeObject])

def rowOfItems : List Value → List Token
  | [] => []
  | item :: rest => .comma :: (item.row ++ rowOfItems rest)

def rowOfMembers : List (String × Value) → List Token
  | [] => []
  | (name, value) :: rest =>
    .comma :: .text (.ofText name) :: .colon :: (value.row ++ rowOfMembers rest)

end

end Value

theorem Token.apart_of_punctuation? {byte : UInt8} {token : Token}
    (found : punctuation? byte = some token) : isSpace byte = false ∧ byte ≠ 0x22 := by
  have table : ∀ number : Fin 256, (punctuation? (UInt8.ofNat number)).isSome = true →
      isSpace (UInt8.ofNat number) = false ∧ UInt8.ofNat number ≠ 0x22 := by
    decide +kernel
  have same : UInt8.ofNat byte.toNat = byte := UInt8.ofNat_toNat
  have apart := table ⟨byte.toNat, byte.toNat_lt⟩
  rw [same, found] at apart
  exact apart rfl

def Token.IsMark (mark : Char) (token : Token) : Prop :=
  mark.toNat < 0x80 ∧ Token.punctuation? mark.toNat.toUInt8 = some token

instance (mark : Char) (token : Token) : Decidable (Token.IsMark mark token) :=
  inferInstanceAs (Decidable (_ ∧ _))

namespace Lexer

/-- Whether a reader has these tokens behind it, in reverse, once the word it is in has ended. -/
def Has (lexer : Lexer) (reversed : List Token) : Prop := lexer.endWord = ⟨reversed, .nothing⟩

theorem has_between (reversed : List Token) : Has ⟨reversed, .nothing⟩ reversed := rfl

theorem has_word (reversed : List Token) (word : List UInt8) :
    Has ⟨reversed, .word word⟩ (.ofWord word.reverse :: reversed) := rfl

theorem Has.finish {lexer : Lexer} {reversed : List Token} (has : lexer.Has reversed) :
    lexer.finish = reversed.reverse := by
  obtain ⟨read, pending⟩ := lexer
  cases pending with
  | text word escaped => cases has
  | nothing => cases has; rfl
  | word word => cases has; rfl

section Ends
variable {lexer : Lexer} {reversed : List Token} {byte : UInt8}

theorem Has.step_space (has : lexer.Has reversed) (blank : Token.isSpace byte = true) :
    lexer.step byte = ⟨reversed, .nothing⟩ := by
  obtain ⟨read, pending⟩ := lexer
  cases pending with
  | text word escaped => cases has
  | nothing | word => cases has; simp [step, blank, endWord, push]

theorem Has.step_quote (has : lexer.Has reversed) : lexer.step 0x22 = ⟨reversed, .text [] false⟩ := by
  obtain ⟨read, pending⟩ := lexer
  cases pending with
  | text word escaped => cases has
  | nothing | word => cases has; simp [step, Token.isSpace, endWord, push]

theorem Has.step_punctuation (has : lexer.Has reversed) {token : Token}
    (found : Token.punctuation? byte = some token) :
    lexer.step byte = ⟨token :: reversed, .nothing⟩ := by
  obtain ⟨unspaced, unquoted⟩ := Token.apart_of_punctuation? found
  obtain ⟨read, pending⟩ := lexer
  cases pending with
  | text word escaped => cases has
  | nothing | word => cases has; simp [step, unspaced, unquoted, found, endWord, push]

end Ends

theorem foldl_step_word (reversed : List Token) (begun : List UInt8) {bytes : List UInt8}
    (continues : ∀ byte ∈ bytes, Token.IsWordByte byte) :
    bytes.foldl step ⟨reversed, .word begun⟩ = ⟨reversed, .word (bytes.reverseAux begun)⟩ := by
  induction bytes generalizing begun with
  | nil => rfl
  | cons byte rest ih =>
    obtain ⟨unspaced, unquoted, unmarked⟩ := continues byte List.mem_cons_self
    have taken : step ⟨reversed, .word begun⟩ byte = ⟨reversed, .word (byte :: begun)⟩ := by
      simp [step, unspaced, unquoted, unmarked]
    rw [List.foldl_cons, taken, ih _ fun other member => continues other (.tail _ member)]
    rfl

theorem Has.foldl_wordBytes {reversed : List Token} {bytes : List UInt8} (nonempty : bytes ≠ [])
    (continues : ∀ byte ∈ bytes, Token.IsWordByte byte) :
    (bytes.foldl step ⟨reversed, .nothing⟩).Has (.ofWord bytes :: reversed) := by
  cases bytes with
  | nil => exact absurd rfl nonempty
  | cons byte rest =>
    obtain ⟨unspaced, unquoted, unmarked⟩ := continues byte List.mem_cons_self
    have begun : step ⟨reversed, .nothing⟩ byte = ⟨reversed, .word [byte]⟩ := by
      simp [step, unspaced, unquoted, unmarked]
    rw [List.foldl_cons, begun,
      foldl_step_word reversed _ fun other member => continues other (.tail _ member)]
    simpa using has_word reversed (rest.reverseAux [byte])

theorem has_foldl_word (reversed : List Token) {text : String} (word : IsWord text) :
    ((Text.bytes text).foldl step ⟨reversed, .nothing⟩).Has
      (.ofWord (Text.bytes text) :: reversed) :=
  Has.foldl_wordBytes (Text.bytes_ne_nil word.nonempty) word.isWordByte

theorem foldl_step_plain (reversed : List Token) (begun : List UInt8) {bytes : List UInt8}
    (all : ∀ byte ∈ bytes, Spelling.IsPlain byte) :
    bytes.foldl step ⟨reversed, .text begun false⟩ =
      ⟨reversed, .text (bytes.reverseAux begun) false⟩ := by
  induction bytes generalizing begun with
  | nil => rfl
  | cons byte rest ih =>
    obtain ⟨-, unquoted, bare⟩ := all byte List.mem_cons_self
    have taken : step ⟨reversed, .text begun false⟩ byte =
        ⟨reversed, .text (byte :: begun) false⟩ := by
      simp [step, unquoted, bare]
    rw [List.foldl_cons, taken, ih _ fun other member => all other (.tail _ member)]
    rfl

theorem foldl_step_formed (reversed : List Token) (begun : List UInt8) {spelling : Spelling}
    (formed : spelling.IsFormed) : spelling.foldl step ⟨reversed, .text begun false⟩ =
      ⟨reversed, .text (spelling.reverseAux begun) false⟩ := by
  induction formed generalizing begun with
  | nil => rfl
  | plain plain behind ih =>
    have taken := foldl_step_plain reversed begun (List.forall_mem_singleton.mpr plain)
    rw [List.foldl_cons, List.foldl_nil] at taken
    rw [List.foldl_cons, taken, ih]
    rfl
  | short stands behind ih =>
    rw [List.foldl_cons, List.foldl_cons]
    exact ih _
  | @unit first second third fourth rest unit stands behind ih =>
    have escaped : step (step ⟨reversed, .text begun false⟩ 0x5C) 0x75 =
        ⟨reversed, .text (0x75 :: 0x5C :: begun) false⟩ := by
      simp [step]
    have digits := foldl_step_plain reversed (0x75 :: 0x5C :: begun) (Spelling.of_unit? stands).2
    have split : first :: second :: third :: fourth :: rest = [first, second, third, fourth] ++ rest :=
      rfl
    rw [List.foldl_cons, List.foldl_cons, escaped, split, List.foldl_append, digits, ih]
    rfl

theorem Has.foldl_string {lexer : Lexer} {reversed : List Token} (has : lexer.Has reversed)
    {spelling : Spelling} (formed : spelling.IsFormed) :
    (0x22 :: spelling ++ [0x22]).foldl step lexer = ⟨.text spelling :: reversed, .nothing⟩ := by
  rw [List.cons_append, List.foldl_cons, has.step_quote, List.foldl_append,
    foldl_step_formed reversed [] formed]
  simp [step, push, Token.ofSpelling, List.reverseAux_eq, formed.isWellFormed]

def after (written : String) : Lexer := (Text.bytes written).foldl step start

variable {written : String} {reversed : List Token}

theorem after_push (written : String) (character : Char) :
    after (written.push character) =
      (String.utf8EncodeChar character).foldl step (after written) := by
  simp [after, Text.bytes_push]

theorem Has.after_push (has : (after written).Has reversed) {mark : Char} {token : Token}
    (isMark : Token.IsMark mark token) :
    after (written.push mark) = ⟨token :: reversed, .nothing⟩ := by
  rw [Lexer.after_push, Text.utf8EncodeChar_of_lt isMark.1]
  exact has.step_punctuation isMark.2

theorem has_after_word (between : after written = ⟨reversed, .nothing⟩) {text : String}
    (word : IsWord text) :
    (after (written ++ text)).Has (.ofWord (Text.bytes text) :: reversed) := by
  rw [after, Text.bytes_append, List.foldl_append, ← after, between]
  exact has_foldl_word reversed word

theorem after_writeText (between : after written = ⟨reversed, .nothing⟩) (text : String) :
    after (Value.writeText written text) = ⟨.text (.ofText text) :: reversed, .nothing⟩ := by
  rw [after, Spelling.bytes_writeText, List.append_assoc, List.foldl_append, ← after, between]
  exact (has_between reversed).foldl_string (Spelling.isFormed_ofText text)

end Lexer

namespace Value

open Lexer

theorem after_writeName {written : String} {reversed : List Token}
    (has : (after written).Has reversed) {mark : Char} {token : Token}
    (isMark : Token.IsMark mark token) (name : String) :
    after ((writeText (written.push mark) name).push ':') =
      ⟨.colon :: .text (.ofText name) :: token :: reversed, .nothing⟩ := by
  have colon : Token.IsMark ':' .colon := by decide
  have named := after_writeText (has.after_push isMark) name
  exact (named ▸ has_between _).after_push colon

mutual

/-- Behind a written value the reader has the row of the value. -/
theorem has_after_write {written : String} {reversed : List Token}
    (between : after written = ⟨reversed, .nothing⟩) (value : Value) :
    (after (value.write written)).Has (value.row.reverse ++ reversed) := by
  have has : (after written).Has reversed := between ▸ has_between reversed
  match value with
  | .null => exact has_after_word between ⟨by decide, by decide⟩
  | .bool truth => cases truth <;> exact has_after_word between ⟨by decide, by decide⟩
  | .number amount =>
    rw [write, writeNumber_eq]
    exact has_after_word between (isWord_numberText amount)
  | .text content =>
    rw [write, after_writeText between]
    exact has_between _
  | .array [] =>
    have opening : Token.IsMark '[' .openArray := by decide
    have closing : Token.IsMark ']' .closeArray := by decide
    have closed := (has.after_push opening ▸ has_between _).after_push closing
    have pair : write written (.array []) = (written.push '[').push ']' := by
      simp [write, ← String.toList_inj]
    exact pair ▸ closed ▸ has_between _
  | .array (first :: rest) =>
    have opening : Token.IsMark '[' .openArray := by decide
    have closing : Token.IsMark ']' .closeArray := by decide
    have items := has_after_writeItems (has_after_write (has.after_push opening) first) rest
    rw [write, items.after_push closing]
    simpa [row] using has_between _
  | .object [] =>
    have opening : Token.IsMark '\x7b' .openObject := by decide
    have closing : Token.IsMark '\x7d' .closeObject := by decide
    have closed := (has.after_push opening ▸ has_between _).after_push closing
    have pair : write written (.object []) = (written.push '\x7b').push '\x7d' := by
      simp [write, ← String.toList_inj]
    exact pair ▸ closed ▸ has_between _
  | .object ((name, first) :: rest) =>
    have opening : Token.IsMark '\x7b' .openObject := by decide
    have closing : Token.IsMark '\x7d' .closeObject := by decide
    have named := after_writeName has opening name
    have members := has_after_writeMembers (has_after_write named first) rest
    rw [write, members.after_push closing]
    simpa [row] using has_between _

theorem has_after_writeItems {written : String} {reversed : List Token}
    (has : (after written).Has reversed) (items : List Value) :
    (after (writeItems written items)).Has ((rowOfItems items).reverse ++ reversed) := by
  match items with
  | [] => simpa [writeItems, rowOfItems] using has
  | item :: rest =>
    have comma : Token.IsMark ',' .comma := by decide
    have first := has_after_write (has.after_push comma) item
    simpa [writeItems, rowOfItems] using has_after_writeItems first rest

theorem has_after_writeMembers {written : String} {reversed : List Token}
    (has : (after written).Has reversed) (members : List (String × Value)) :
    (after (writeMembers written members)).Has ((rowOfMembers members).reverse ++ reversed) := by
  match members with
  | [] => simpa [writeMembers, rowOfMembers] using has
  | (name, value) :: rest =>
    have comma : Token.IsMark ',' .comma := by decide
    have named := after_writeName has comma name
    simpa [writeMembers, rowOfMembers] using
      has_after_writeMembers (has_after_write named value) rest

end

theorem tokens_render (value : Value) : tokens value.render.toUTF8.toList = value.row := by
  have fresh : after "" = ⟨[], .nothing⟩ := rfl
  have read := (has_after_write fresh value).finish
  rw [tokens, Text.toUTF8_toList, render, ← after, read, List.append_nil, List.reverse_reverse]

end Value
end GridDiffusion.Json
