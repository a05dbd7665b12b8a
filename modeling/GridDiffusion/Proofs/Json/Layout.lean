import Mathlib.Data.List.Basic
import Mathlib.Data.List.Chain
import Mathlib.Data.List.Induction
import GridDiffusion.Proofs.Json.NumeralText
import GridDiffusion.Proofs.Json.Row
import GridDiffusion.Proofs.Json.StringText
/-! Rows of tokens as bytes: every token in its own spelling, with white space around and between
them. What is read as a row without junk is exactly what is laid out as that row. -/
namespace GridDiffusion.Json

namespace Spelling

/-- Whether a reader is behind a backslash after some bytes of a string. Nothing if a bare quote
ends the string before. -/
def scan : Bool → List UInt8 → Option Bool
  | escaped, [] => some escaped
  | true, _ :: rest => scan false rest
  | false, byte :: rest => if byte = 0x22 then none else scan (byte = 0x5C) rest

theorem scan_concat (escaped : Bool) (bytes : List UInt8) (last : UInt8) :
    scan escaped (bytes ++ [last]) = (scan escaped bytes).bind (scan · [last]) := by
  induction bytes generalizing escaped with
  | nil => rfl
  | cons byte rest ih =>
    cases escaped with
    | true => exact ih false
    | false =>
      simp only [List.cons_append, scan]
      split
      · rfl
      · exact ih _

theorem scan_plain {row : List UInt8} (all : ∀ byte ∈ row, IsPlain byte) (rest : List UInt8) :
    scan false (row ++ rest) = scan false rest := by
  induction row with
  | nil => rfl
  | cons byte more ih =>
    obtain ⟨-, unquoted, bare⟩ := all byte List.mem_cons_self
    simp [scan, unquoted, bare, ih fun other member => all other (.tail _ member)]

theorem isFormed_of_scan {spelling : Spelling} (formed : spelling.isWellFormed = true)
    (ends : scan false spelling = some false) : IsFormed spelling := by
  fun_induction isWellFormed spelling with
  | case1 first second third fourth rest ih =>
    obtain ⟨digits, behind⟩ := Bool.and_eq_true_iff.mp formed
    obtain ⟨unit, stands⟩ := Option.isSome_iff_exists.mp digits
    have passed : scan false (0x5C :: 0x75 :: first :: second :: third :: fourth :: rest) =
        scan false rest := scan_plain (of_unit? stands).2 rest
    exact .unit stands (ih behind (passed ▸ ends))
  | case2 letter rest apart ih =>
    obtain ⟨escaped, behind⟩ := Bool.and_eq_true_iff.mp formed
    obtain ⟨byte, stands⟩ := Option.isSome_iff_exists.mp escaped
    exact .short stands (ih behind ends)
  | case3 byte rest _ _ ih =>
    simp only [Bool.and_eq_true, decide_eq_true_eq, bne_iff_ne] at formed
    obtain ⟨⟨printable, bare⟩, behind⟩ := formed
    rw [scan] at ends
    split at ends
    · cases ends
    next unquoted =>
      rw [decide_eq_false bare] at ends
      exact .plain ⟨printable, unquoted, bare⟩ (ih behind ends)
  | case4 => exact .nil

end Spelling

/-- The bytes of a token. -/
inductive Token.IsSpelled : Token → List UInt8 → Prop
  | mark {token : Token} {byte : UInt8} (found : punctuation? byte = some token) :
    IsSpelled token [byte]
  | null : IsSpelled .null (Text.bytes "null")
  | bool (value : Bool) : IsSpelled (.bool value) (Text.bytes (if value then "true" else "false"))
  | number {numeral : Numeral} {word : List UInt8}
    (spelled : numeral.IsSpelled (word.map fun byte => Char.ofNat byte.toNat)) :
    IsSpelled (.number numeral) word
  | text {spelling : Spelling} (formed : spelling.IsFormed) :
    IsSpelled (.text spelling) (0x22 :: spelling ++ [0x22])

/-- Bytes that are a row of tokens with white space around and between them. -/
inductive IsLaidOut : List Token → List UInt8 → Prop
  | nil : IsLaidOut [] []
  | space {byte : UInt8} {row : List Token} {bytes : List UInt8} (blank : Token.isSpace byte = true)
    (behind : IsLaidOut row bytes) : IsLaidOut row (byte :: bytes)
  | token {token : Token} {spelled bytes : List UInt8} {row : List Token}
    (spells : token.IsSpelled spelled) (behind : IsLaidOut row bytes) :
    IsLaidOut (token :: row) (spelled ++ bytes)

theorem IsLaidOut.append {row more : List Token} {bytes others : List UInt8}
    (front : IsLaidOut row bytes) (behind : IsLaidOut more others) :
    IsLaidOut (row ++ more) (bytes ++ others) := by
  induction front with
  | nil => exact behind
  | space blank _ ih => exact .space blank ih
  | token spells _ ih =>
    rw [List.append_assoc]
    exact .token spells ih

theorem IsLaidOut.concat {row : List Token} {token : Token} {bytes spelled : List UInt8}
    (front : IsLaidOut row bytes) (spells : token.IsSpelled spelled) :
    IsLaidOut (row ++ [token]) (bytes ++ spelled) := by
  have last : IsLaidOut [token] spelled := spelled.append_nil ▸ .token spells .nil
  exact front.append last

theorem IsLaidOut.concat_space {row : List Token} {bytes : List UInt8} {byte : UInt8}
    (front : IsLaidOut row bytes) (blank : Token.isSpace byte = true) :
    IsLaidOut row (bytes ++ [byte]) := by
  have same := front.append (.space blank .nil)
  rwa [List.append_nil] at same

theorem IsWord.eq_bytes {text : String} (word : IsWord text) {bytes : List UInt8}
    (same : bytes.map (fun byte => Char.ofNat byte.toNat) = text.toList) :
    bytes = Text.bytes text := by
  have injective : Function.Injective fun byte : UInt8 => Char.ofNat byte.toNat := by
    intro left right equal
    have valid (byte : UInt8) : byte.toNat.isValidChar := .inl (by have := byte.toNat_lt; omega)
    have values := congrArg Char.toNat equal
    dsimp only at values
    rw [Spelling.toNat_ofNat (valid left), Spelling.toNat_ofNat (valid right)] at values
    exact UInt8.toNat_inj.mp values
  exact List.map_injective_iff.mpr injective (same.trans word.map_bytes.symm)

theorem Token.isSpelled_ofWord {word : List UInt8} (clean : Token.ofWord word ≠ .junk) :
    (Token.ofWord word).IsSpelled word := by
  unfold ofWord at clean ⊢
  dsimp only at clean ⊢
  split
  next same => exact IsWord.eq_bytes ⟨by decide, by decide⟩ same ▸ .null
  next unlike =>
  rw [if_neg unlike] at clean
  split
  next same =>
    have spelled : word = Text.bytes "true" := IsWord.eq_bytes ⟨by decide, by decide⟩ same
    exact spelled ▸ .bool true
  next unlike =>
  rw [if_neg unlike] at clean
  split
  next same =>
    have spelled : word = Text.bytes "false" := IsWord.eq_bytes ⟨by decide, by decide⟩ same
    exact spelled ▸ .bool false
  next unlike =>
  rw [if_neg unlike] at clean
  split
  next numeral read => exact .number (Numeral.ofWord?_eq_some_iff.mp read)
  next unread => exact absurd (by rw [unread]) clean

theorem Token.isSpelled_ofSpelling {spelling : Spelling} (ends : Spelling.scan false spelling = some false)
    (clean : Token.ofSpelling spelling ≠ .junk) :
    (Token.ofSpelling spelling).IsSpelled (0x22 :: spelling ++ [0x22]) := by
  unfold ofSpelling at clean ⊢
  split
  next formed => exact .text (Spelling.isFormed_of_scan formed ends)
  next broken => exact absurd (if_neg broken) clean

namespace Lexer

/-- A reader behind some bytes: the tokens it has read are laid out in front of the one begun,
unless they hold junk. -/
inductive Follows : Lexer → List UInt8 → Prop
  | between {reversed : List Token} {bytes : List UInt8}
    (read : .junk ∉ reversed → IsLaidOut reversed.reverse bytes) :
    Follows ⟨reversed, .nothing⟩ bytes
  | word {reversed : List Token} {front word : List UInt8}
    (read : .junk ∉ reversed → IsLaidOut reversed.reverse front) :
    Follows ⟨reversed, .word word⟩ (front ++ word.reverse)
  | text {reversed : List Token} {front text : List UInt8} {escaped : Bool}
    (read : .junk ∉ reversed → IsLaidOut reversed.reverse front)
    (inside : Spelling.scan false text.reverse = some escaped) :
    Follows ⟨reversed, .text text escaped⟩ (front ++ 0x22 :: text.reverse)

theorem follows_push {reversed : List Token} {front spelled : List UInt8} {token : Token}
    (read : .junk ∉ reversed → IsLaidOut reversed.reverse front)
    (spells : token ≠ .junk → token.IsSpelled spelled) :
    .junk ∉ token :: reversed → IsLaidOut (token :: reversed).reverse (front ++ spelled) := by
  intro clean
  rw [List.mem_cons, not_or] at clean
  rw [List.reverse_cons]
  exact (read clean.2).concat (spells (Ne.symm clean.1))

theorem Follows.exists_has {lexer : Lexer} {bytes : List UInt8} (follows : lexer.Follows bytes)
    (outside : ∀ text escaped, lexer.pending ≠ .text text escaped) :
    ∃ reversed, lexer.Has reversed ∧ (.junk ∉ reversed → IsLaidOut reversed.reverse bytes) := by
  cases follows with
  | between read => exact ⟨_, rfl, read⟩
  | word read => exact ⟨_, rfl, follows_push read Token.isSpelled_ofWord⟩
  | text => exact absurd rfl (outside _ _)

/-- Outside a string a space, a quote or a mark ends what was begun, and any other byte goes on with
a word. -/
theorem Follows.step_outside {lexer : Lexer} {bytes : List UInt8} (follows : lexer.Follows bytes)
    (outside : ∀ text escaped, lexer.pending ≠ .text text escaped) (byte : UInt8) :
    (lexer.step byte).Follows (bytes ++ [byte]) := by
  obtain ⟨reversed, has, read⟩ := follows.exists_has outside
  by_cases blank : Token.isSpace byte = true
  · rw [has.step_space blank]
    exact .between fun clean => (read clean).concat_space blank
  by_cases quote : byte = 0x22
  · subst quote
    rw [has.step_quote]
    exact .text read rfl
  cases found : Token.punctuation? byte with
  | some token =>
    rw [has.step_punctuation found]
    exact .between (follows_push read fun _ => .mark found)
  | none =>
    cases follows with
    | @between reversed _ earlier =>
      have taken : Lexer.step ⟨reversed, .nothing⟩ byte = ⟨reversed, .word [byte]⟩ := by
        simp [Lexer.step, blank, quote, found]
      exact taken ▸ .word earlier
    | @word reversed front word earlier =>
      have taken : Lexer.step ⟨reversed, .word word⟩ byte = ⟨reversed, .word (byte :: word)⟩ := by
        simp [Lexer.step, blank, quote, found]
      rw [taken, List.append_assoc, ← List.reverse_cons]
      exact .word earlier
    | text => exact absurd rfl (outside _ _)

theorem Follows.step {lexer : Lexer} {bytes : List UInt8} (follows : lexer.Follows bytes)
    (byte : UInt8) : (lexer.step byte).Follows (bytes ++ [byte]) := by
  cases follows with
  | between read => exact (Follows.between read).step_outside nofun byte
  | word read => exact (Follows.word read).step_outside nofun byte
  | @text reversed front text escaped read inside =>
    have grown : front ++ 0x22 :: text.reverse ++ [byte] = front ++ 0x22 :: (byte :: text).reverse := by
      simp
    have scanned : Spelling.scan false (byte :: text).reverse = Spelling.scan escaped [byte] := by
      rw [List.reverse_cons, Spelling.scan_concat, inside, Option.bind_some]
    cases escaped with
    | true =>
      rw [grown]
      exact .text read scanned
    | false =>
      by_cases quote : byte = 0x22
      · subst quote
        have spells := Token.isSpelled_ofSpelling inside
        have ended : front ++ 0x22 :: text.reverse ++ [0x22] =
            front ++ (0x22 :: text.reverse ++ [0x22]) := List.append_assoc ..
        rw [ended]
        exact .between (follows_push read spells)
      · have taken : Lexer.step ⟨reversed, .text text false⟩ byte =
            ⟨reversed, .text (byte :: text) (byte = 0x5C)⟩ := if_neg quote
        rw [taken, grown]
        exact .text read (scanned.trans (if_neg quote))

/-- A reader follows whatever it reads. -/
theorem follows_foldl (bytes : List UInt8) : (bytes.foldl step start).Follows bytes := by
  induction bytes using List.reverseRecOn with
  | nil => exact .between fun _ => .nil
  | append_singleton bytes byte ih =>
    rw [List.foldl_append, List.foldl_cons, List.foldl_nil]
    exact ih.step byte

end Lexer

theorem isLaidOut_tokens {bytes : List UInt8} (clean : .junk ∉ tokens bytes) :
    IsLaidOut (tokens bytes) bytes := by
  have follows := Lexer.follows_foldl bytes
  by_cases outside : ∀ text escaped, (bytes.foldl Lexer.step .start).pending ≠ .text text escaped
  · obtain ⟨reversed, has, read⟩ := follows.exists_has outside
    rw [tokens, has.finish] at clean ⊢
    exact read fun junk => clean (List.mem_reverse.mpr junk)
  · simp only [not_forall, ne_eq, not_not] at outside
    obtain ⟨text, escaped, inside⟩ := outside
    exact absurd (by simp [tokens, Lexer.finish, inside, Lexer.push]) clean

/-- A token that goes on as long as its bytes do. -/
def Token.isWord : Token → Bool
  | null | bool _ | number _ => true
  | _ => false

/-- A row in which no word follows a word, so that every word ends where it should. -/
def Separated (row : List Token) : Prop :=
  row.IsChain fun left right => left.isWord = true → right.isWord = false

theorem Token.isWordChar_of_mem_text {digits : List Nat} (small : ∀ digit ∈ digits, digit < 10)
    {character : Char} (member : character ∈ Digits.text digits) : IsWordChar character := by
  have all : ∀ digit : Fin 10, IsWordChar (Nat.digitChar digit) := by decide
  obtain ⟨digit, inside, rfl⟩ := List.mem_map.mp member
  exact all ⟨digit, small digit inside⟩

theorem Numeral.ExponentText.isWordChar {exponent : Option Int} {rest : List Char}
    (spelled : ExponentText exponent rest) : ∀ character ∈ rest, Token.IsWordChar character := by
  have mark {character : Char} (marked : character = 'e' ∨ character = 'E') :
      Token.IsWordChar character := by
    rcases marked with rfl | rfl <;> decide
  cases spelled with
  | absent => exact List.forall_mem_nil _
  | down marked row =>
    simp only [List.forall_mem_cons]
    exact ⟨mark marked, by decide, fun _ => Token.isWordChar_of_mem_text row.small⟩
  | up marked signed row =>
    simp only [List.forall_mem_cons, List.forall_mem_append]
    refine ⟨mark marked, ?_, fun _ => Token.isWordChar_of_mem_text row.small⟩
    rcases signed with rfl | rfl
    · exact List.forall_mem_nil _
    · exact List.forall_mem_singleton.mpr (by decide)

namespace Numeral.IsSpelled
variable {numeral : Numeral} {word : List Char}

theorem isWordChar (spelled : numeral.IsSpelled word) :
    ∀ character ∈ word, Token.IsWordChar character := by
  obtain ⟨whole, -, small, exponent, exponentSpelled, rfl⟩ := spelled
  simp only [List.forall_mem_append]
  refine ⟨?_, fun _ => Token.isWordChar_of_mem_text whole.small, ?_, exponentSpelled.isWordChar⟩
  · cases numeral.isNegative with
    | false => exact List.forall_mem_nil _
    | true => exact List.forall_mem_singleton.mpr (by decide)
  · cases shown : numeral.fraction with
    | nil => exact List.forall_mem_nil _
    | cons digit more =>
      rw [fractionText, List.forall_mem_cons]
      exact ⟨by decide, fun _ => Token.isWordChar_of_mem_text (shown ▸ small)⟩

theorem nonempty (spelled : numeral.IsSpelled word) : word ≠ [] := by
  intro none
  obtain ⟨whole, -, -, exponent, -, same⟩ := spelled
  have empty : Digits.text numeral.whole = [] := by
    simp only [none, List.nil_eq, List.append_eq_nil_iff] at same
    exact same.2.1
  exact whole.nonempty (List.map_eq_nil_iff.mp empty)

end Numeral.IsSpelled

theorem Token.IsSpelled.isWordByte {token : Token} {spelled : List UInt8}
    (spells : token.IsSpelled spelled) (word : token.isWord = true) :
    spelled ≠ [] ∧ (∀ byte ∈ spelled, Token.IsWordByte byte) ∧ Token.ofWord spelled = token := by
  cases spells with
  | mark found =>
    unfold punctuation? at found
    split at found <;> cases found <;> cases word
  | text => cases word
  | null => exact ⟨by decide, IsWord.isWordByte ⟨by decide, by decide⟩, by decide⟩
  | bool value =>
    cases value <;> exact ⟨by decide, IsWord.isWordByte ⟨by decide, by decide⟩, by decide⟩
  | number read =>
    refine ⟨fun none => read.nonempty (none ▸ rfl), fun byte member => ?_, ?_⟩
    · have valid : byte.toNat.isValidChar := .inl (by have := byte.toNat_lt; omega)
      have continues := (read.isWordChar _ (List.mem_map_of_mem member)).2
      rw [Spelling.toNat_ofNat valid] at continues
      simpa using continues
    · exact ofWord_numeral (Numeral.ofWord?_eq_some_iff.mpr read)

namespace Lexer
variable {lexer : Lexer} {reversed : List Token}

theorem Has.foldl_token (has : lexer.Has reversed) {token : Token} {spelled : List UInt8}
    (spells : token.IsSpelled spelled) (free : token.isWord = true → lexer.pending = .nothing) :
    (spelled.foldl step lexer).Has (token :: reversed) ∧
      (token.isWord = false → (spelled.foldl step lexer).pending = .nothing) := by
  cases kind : token.isWord with
  | true =>
    obtain ⟨nonempty, continues, same⟩ := spells.isWordByte kind
    obtain ⟨read, pending⟩ := lexer
    obtain rfl : pending = .nothing := free kind
    cases has
    exact ⟨same ▸ foldl_wordBytes nonempty continues, nofun⟩
  | false =>
    cases spells with
    | mark found =>
      rw [List.foldl_cons, List.foldl_nil, has.step_punctuation found]
      exact ⟨rfl, fun _ => rfl⟩
    | text formed =>
      rw [has.foldl_string formed]
      exact ⟨rfl, fun _ => rfl⟩
    | null | bool | number => cases kind

theorem Has.foldl_laidOut {row : List Token} {bytes : List UInt8} (laid : IsLaidOut row bytes)
    (separated : Separated row) (has : lexer.Has reversed)
    (free : ∀ token ∈ row.head?, token.isWord = true → lexer.pending = .nothing) :
    (bytes.foldl step lexer).Has (row.reverse ++ reversed) := by
  induction laid generalizing lexer reversed with
  | nil => exact has
  | space blank behind ih =>
    rw [List.foldl_cons, has.step_space blank]
    exact ih separated (has_between reversed) fun _ _ _ => rfl
  | @token token spelled bytes row spells behind ih =>
    obtain ⟨next, later⟩ := List.isChain_cons.mp separated
    obtain ⟨read, ended⟩ := has.foldl_token spells (free token rfl)
    rw [List.foldl_append, List.reverse_cons, List.append_assoc]
    refine ih later read fun other first word => ended ?_
    cases kind : token.isWord with
    | false => rfl
    | true => rw [next other first kind] at word; cases word

end Lexer

/-- A row that can be laid out and read again: it holds no junk, and no word follows a word. -/
structure IsLegible (row : List Token) : Prop where
  separated : Separated row
  clean : .junk ∉ row

theorem tokens_eq_iff {row : List Token} (legible : IsLegible row) {bytes : List UInt8} :
    tokens bytes = row ↔ IsLaidOut row bytes := by
  constructor
  · rintro rfl
    exact isLaidOut_tokens legible.clean
  · intro laid
    have read :=
      Lexer.Has.foldl_laidOut laid legible.separated (Lexer.has_between []) fun _ _ _ => rfl
    rw [List.append_nil] at read
    rw [tokens, Lexer.start, read.finish, List.reverse_reverse]

/-- A legible row that begins with no word, so that a word may stand before it. -/
structure GoesOn (row : List Token) : Prop where
  legible : IsLegible row
  unjoined : ∀ token ∈ row.head?, token.isWord = false

theorem goesOn_nil : GoesOn [] := ⟨⟨.nil, List.not_mem_nil⟩, nofun⟩

theorem GoesOn.cons {row : List Token} (behind : GoesOn row) (token : Token)
    (clean : token ≠ .junk) : IsLegible (token :: row) where
  separated := List.isChain_cons.mpr
    ⟨fun next first _ => behind.unjoined next first, behind.legible.separated⟩
  clean := by simp [behind.legible.clean, Ne.symm clean]

theorem IsLegible.mark {row : List Token} (legible : IsLegible row) (token : Token)
    (clean : token ≠ .junk) (plain : token.isWord = false) : GoesOn (token :: row) where
  legible.separated := by
    refine List.isChain_cons.mpr ⟨fun _ _ word => ?_, legible.separated⟩
    rw [plain] at word
    cases word
  legible.clean := by simp [legible.clean, Ne.symm clean]
  unjoined _ first := by
    cases first
    exact plain

theorem IsLegible.member {row : List Token} (legible : IsLegible row) (name : Spelling) :
    IsLegible (.text name :: .colon :: row) :=
  ((legible.mark .colon nofun rfl).legible.mark (.text name) nofun rfl).legible

end GridDiffusion.Json
