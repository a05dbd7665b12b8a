import GridDiffusion.Proofs.Json.Numeral
/-! The texts of numerals: an optional minus, digits without a zero in front, an optional fraction
and an optional exponent. What is read as a numeral is exactly what is spelled so. -/
namespace GridDiffusion

structure Digits.IsRow (digits : List Nat) : Prop where
  nonempty : digits ≠ []
  small : ∀ digit ∈ digits, digit < 10

def Digits.text (digits : List Nat) : List Char := digits.map Nat.digitChar

theorem digit?_eq_some_iff {character : Char} {digit : Nat} :
    digit? character = some digit ↔ digit < 10 ∧ character = Nat.digitChar digit := by
  constructor
  · intro found
    obtain ⟨⟨low, high⟩, same⟩ := Option.ite_none_right_eq_some.mp found
    have above : 48 ≤ character.toNat := low
    have below : character.toNat ≤ 57 := high
    have zero : '0'.toNat = 48 := rfl
    obtain rfl : character.toNat - 48 = digit := Option.some.inj same
    have small : character.toNat - 48 < 10 := by omega
    refine ⟨small, Char.toNat_inj.mp ?_⟩
    rw [Nat.toNat_digitChar_of_lt_ten small]
    omega
  · intro shown
    obtain ⟨small, rfl⟩ := shown
    exact digit?_digitChar small

theorem mapM_digit?_eq_some_iff {characters : List Char} {digits : List Nat} :
    characters.mapM digit? = some digits ↔
      (∀ digit ∈ digits, digit < 10) ∧ characters = Digits.text digits := by
  induction characters generalizing digits with
  | nil => cases digits <;> simp [Digits.text]
  | cons character rest ih =>
    cases digits with
    | nil => simp [Digits.text, List.mapM_cons, Option.bind_eq_some_iff]
    | cons digit more =>
      simp only [List.mapM_cons, Option.bind_eq_bind, Option.bind_eq_some_iff, Option.pure_def,
        Option.some.injEq, List.cons.injEq, ih, digit?_eq_some_iff, Digits.text, List.map_cons,
        List.forall_mem_cons]
      constructor
      · rintro ⟨_, ⟨small, rfl⟩, _, ⟨others, rfl⟩, rfl, rfl⟩
        exact ⟨⟨small, others⟩, rfl, rfl⟩
      · rintro ⟨⟨small, others⟩, rfl, rfl⟩
        exact ⟨digit, ⟨small, rfl⟩, more, ⟨others, rfl⟩, rfl, rfl⟩

theorem Digits.read?_eq_some_iff {characters : List Char} {size : Nat} :
    Digits.read? characters = some size ↔
      ∃ digits, IsRow digits ∧ characters = text digits ∧ value 10 digits = size := by
  have empty {digits : List Nat} : text digits = [] ↔ digits = [] := List.map_eq_nil_iff
  rw [read?, Option.ite_none_left_eq_some, Option.map_eq_some_iff, List.isEmpty_iff]
  simp only [mapM_digit?_eq_some_iff]
  constructor
  · intro read
    obtain ⟨nonempty, digits, ⟨small, rfl⟩, amount⟩ := read
    exact ⟨digits, ⟨fun none => nonempty (empty.mpr none), small⟩, rfl, amount⟩
  · intro shown
    obtain ⟨digits, row, rfl, amount⟩ := shown
    exact ⟨fun none => row.nonempty (empty.mp none), digits, ⟨row.small, rfl⟩, amount⟩

theorem Digits.read?_repr (number : Nat) : Digits.read? number.repr.toList = some number := by
  obtain ⟨digits, spells⟩ := Digits.exists_spells number
  refine Digits.read?_eq_some_iff.mpr ⟨digits, ⟨spells.nonempty, spells.small⟩, ?_, spells.value⟩
  rw [Nat.toList_repr, spells.text, text]

namespace Json.Numeral

/-- The texts of an exponent: a mark, a sign where it has one, and digits, the first of which may be
zeros. -/
inductive ExponentText : Option Int → List Char → Prop
  | absent : ExponentText none []
  | up {mark : Char} {sign : List Char} {digits : List Nat} (marked : mark = 'e' ∨ mark = 'E')
    (signed : sign = [] ∨ sign = ['+']) (row : Digits.IsRow digits) :
    ExponentText (some (Digits.value 10 digits)) (mark :: (sign ++ Digits.text digits))
  | down {mark : Char} {digits : List Nat} (marked : mark = 'e' ∨ mark = 'E')
    (row : Digits.IsRow digits) :
    ExponentText (some (-(Digits.value 10 digits : Int))) (mark :: '-' :: Digits.text digits)

/-- The text of the digits behind the point, which stands where there are any. -/
def fractionText : List Nat → List Char
  | [] => []
  | digit :: more => '.' :: Digits.text (digit :: more)

def signText (isNegative : Bool) : List Char := if isNegative then ['-'] else []

structure IsSpelled (numeral : Numeral) (word : List Char) : Prop where
  whole : Digits.IsRow numeral.whole
  noLeadingZero : numeral.whole.length = 1 ∨ numeral.whole.head? ≠ some 0
  fraction : ∀ digit ∈ numeral.fraction, digit < 10
  text : ∃ exponent, ExponentText numeral.exponent exponent ∧
    word = signText numeral.isNegative ++
      (Digits.text numeral.whole ++ (fractionText numeral.fraction ++ exponent))

def Stops (rest : List Char) : Prop := ∀ character ∈ rest.head?, digit? character = none

theorem takeDigits_append {digits : List Nat} {rest : List Char}
    (small : ∀ digit ∈ digits, digit < 10) (stops : Stops rest) :
    takeDigits (Digits.text digits ++ rest) = (digits, rest) := by
  induction digits with
  | nil =>
    cases rest with
    | nil => rfl
    | cons character more => simp [takeDigits, Digits.text, stops character rfl]
  | cons digit digits ih =>
    have first := digit?_digitChar (small digit List.mem_cons_self)
    have others := ih fun other member => small other (.tail _ member)
    simp only [takeDigits, Prod.mk.injEq, Digits.text] at others
    simp [takeDigits, Digits.text, first, others]

theorem stops_nil : Stops [] := nofun

theorem exists_takeDigits_repr (number : Nat) {rest : List Char} (stops : Stops rest) :
    ∃ digits, Digits.Spells digits number ∧
      takeDigits (number.repr.toList ++ rest) = (digits, rest) := by
  obtain ⟨digits, spells⟩ := Digits.exists_spells number
  refine ⟨digits, spells, ?_⟩
  rw [Nat.toList_repr, spells.text]
  exact takeDigits_append spells.small stops

theorem takeDigits_spec (characters : List Char) :
    characters = Digits.text (takeDigits characters).1 ++ (takeDigits characters).2 ∧
      ∀ digit ∈ (takeDigits characters).1, digit < 10 := by
  induction characters with
  | nil => exact ⟨rfl, List.forall_mem_nil _⟩
  | cons character rest ih =>
    cases found : digit? character with
    | none => simp [takeDigits, found, Digits.text]
    | some digit =>
      obtain ⟨small, rfl⟩ := digit?_eq_some_iff.mp found
      obtain ⟨split, others⟩ := ih
      have taken : takeDigits (Nat.digitChar digit :: rest) =
          (digit :: (takeDigits rest).1, (takeDigits rest).2) := by
        simp [takeDigits, found]
      rw [taken]
      refine ⟨?_, List.forall_mem_cons.mpr ⟨small, others⟩⟩
      rw [Digits.text, List.map_cons, List.cons_append, ← Digits.text, ← split]

theorem text_append_ne_sign {digits : List Nat} (row : Digits.IsRow digits) {sign : Char}
    (signed : sign = '-' ∨ sign = '+') (more rest : List Char) :
    Digits.text digits ++ more ≠ sign :: rest := by
  intro same
  cases digits with
  | nil => exact row.nonempty rfl
  | cons first others =>
    obtain ⟨begins, -⟩ := List.cons.inj same
    have digit := digit?_digitChar (row.small first List.mem_cons_self)
    rw [begins] at digit
    rcases signed with rfl | rfl <;> cases digit

theorem takeExponent?_eq_some_iff {rest : List Char} {exponent : Option Int} :
    takeExponent? rest = some exponent ↔ ExponentText exponent rest := by
  constructor
  · intro read
    unfold takeExponent? at read
    split at read
    · cases read
      exact .absent
    next mark more =>
      obtain ⟨marked, read⟩ := Option.ite_none_right_eq_some.mp read
      split at read <;>
        simp only [Option.map_eq_some_iff, Option.bind_eq_bind, Option.bind_eq_some_iff,
          Option.pure_def, Option.some.injEq, Digits.read?_eq_some_iff] at read <;>
        obtain ⟨_, ⟨_, ⟨digits, row, rfl, rfl⟩, rfl⟩, rfl⟩ := read
      · exact .down marked row
      · exact .up marked (.inr rfl) row
      · exact .up marked (.inl rfl) row
  · intro spelled
    cases spelled with
    | absent => rfl
    | down marked row =>
      have read := Digits.read?_eq_some_iff.mpr ⟨_, row, rfl, rfl⟩
      simp [takeExponent?, marked, read]
    | up marked signed row =>
      have read := Digits.read?_eq_some_iff.mpr ⟨_, row, rfl, rfl⟩
      rcases signed with rfl | rfl
      · rw [List.nil_append, ← (Digits.text _).append_nil, takeExponent?, if_pos marked]
        · simp [read]
        · exact text_append_ne_sign row (.inl rfl) []
        · exact text_append_ne_sign row (.inr rfl) []
      · simp [takeExponent?, marked, read]

/-- What follows the digits of a numeral is its end, a point or the mark of an exponent. -/
theorem ExponentText.head {exponent : Option Int} {rest : List Char}
    (spelled : ExponentText exponent rest) {character : Char} (first : character ∈ rest.head?) :
    character = 'e' ∨ character = 'E' := by
  cases spelled with
  | absent => cases first
  | up marked | down marked =>
    cases first
    exact marked

theorem ExponentText.stops {exponent : Option Int} {rest : List Char}
    (spelled : ExponentText exponent rest) : Stops rest := by
  intro character first
  rcases spelled.head first with rfl | rfl <;> decide

theorem ExponentText.stops_fractionText {exponent : Option Int} {rest : List Char}
    (spelled : ExponentText exponent rest) (fraction : List Nat) :
    Stops (fractionText fraction ++ rest) := by
  cases fraction with
  | nil => exact spelled.stops
  | cons digit more =>
    intro character first
    cases first
    rfl

theorem takeFraction?_append {fraction : List Nat} {exponent : Option Int} {rest : List Char}
    (small : ∀ digit ∈ fraction, digit < 10) (spelled : ExponentText exponent rest) :
    takeFraction? (fractionText fraction ++ rest) = some (fraction, rest) := by
  cases fraction with
  | nil =>
    rw [fractionText, List.nil_append]
    unfold takeFraction?
    split
    · rcases spelled.head rfl with marked | marked <;> cases marked
    · rfl
  | cons digit more =>
    have taken := takeDigits_append small spelled.stops
    rw [fractionText, List.cons_append, takeFraction?, taken]

theorem takeFraction?_spec {characters rest : List Char} {fraction : List Nat}
    (read : takeFraction? characters = some (fraction, rest)) :
    characters = fractionText fraction ++ rest ∧ ∀ digit ∈ fraction, digit < 10 := by
  unfold takeFraction? at read
  split at read
  next more =>
    obtain ⟨split, small⟩ := takeDigits_spec more
    cases taken : takeDigits more with
    | mk digits tail =>
      rw [taken] at read split small
      cases digits with
      | nil => cases read
      | cons digit digits =>
        cases read
        exact ⟨congrArg ('.' :: ·) split, small⟩
  · cases read
    exact ⟨rfl, List.forall_mem_nil _⟩

def ofUnsigned? (isNegative : Bool) (unsigned : List Char) : Option Numeral := do
  let (whole, rest) := takeDigits unsigned
  guard (whole.head? != none && (whole.length = 1 || whole.head? != some 0))
  let (fraction, rest) ← takeFraction? rest
  let exponent ← takeExponent? rest
  pure { isNegative, whole, fraction, exponent }

theorem ofWord?_plain {word : List Char} (plain : ∀ rest, word ≠ '-' :: rest) :
    ofWord? word = ofUnsigned? false word := by
  cases word with
  | nil => rfl
  | cons first rest =>
    simp [ofWord?, ofUnsigned?]

theorem ofUnsigned?_eq_some_iff {isNegative : Bool} {unsigned : List Char} {numeral : Numeral} :
    ofUnsigned? isNegative unsigned = some numeral ↔
      numeral.isNegative = isNegative ∧ numeral.IsSpelled (signText isNegative ++ unsigned) := by
  have guarded {whole : List Nat} :
      (whole.head? != none && (whole.length = 1 || whole.head? != some 0)) = true ↔
        whole ≠ [] ∧ (whole.length = 1 ∨ whole.head? ≠ some 0) := by
    simp
  constructor
  · intro read
    simp only [ofUnsigned?, Option.bind_eq_bind, Option.bind_eq_some_iff, Option.pure_def,
      Option.some.injEq, Option.guard_eq_some', guarded] at read
    obtain ⟨_, ⟨nonempty, leading⟩, ⟨fraction, rest⟩, fractionRead, exponent, exponentRead, rfl⟩ :=
      read
    obtain ⟨split, small⟩ := takeDigits_spec unsigned
    obtain ⟨behind, fractionSmall⟩ := takeFraction?_spec fractionRead
    have spelled := takeExponent?_eq_some_iff.mp exponentRead
    exact ⟨rfl, ⟨nonempty, small⟩, leading, fractionSmall, rest, spelled, by rw [← behind, ← split]⟩
  · intro spelled
    obtain ⟨rfl, row, leading, small, exponent, spelled, same⟩ := spelled
    obtain rfl := List.append_cancel_left same
    have taken := takeDigits_append row.small (spelled.stops_fractionText numeral.fraction)
    have fraction := takeFraction?_append small spelled
    have exponent := takeExponent?_eq_some_iff.mpr spelled
    have passed := (Option.guard_eq_some' ()).mpr (guarded.mpr ⟨row.nonempty, leading⟩)
    simp only [ofUnsigned?, taken, passed, fraction, exponent, Option.bind_eq_bind,
      Option.bind_some, Option.pure_def]

/-- What is read as a numeral is exactly what is spelled as that numeral. -/
theorem ofWord?_eq_some_iff {word : List Char} {numeral : Numeral} :
    ofWord? word = some numeral ↔ numeral.IsSpelled word := by
  by_cases signed : ∃ rest, word = '-' :: rest
  · obtain ⟨rest, rfl⟩ := signed
    have behind : ofWord? ('-' :: rest) = ofUnsigned? true rest := rfl
    rw [behind, ofUnsigned?_eq_some_iff]
    refine ⟨And.right, fun spelled => ⟨?_, spelled⟩⟩
    obtain ⟨row, -, -, exponent, -, same⟩ := spelled
    cases negative : numeral.isNegative with
    | true => rfl
    | false =>
      rw [negative] at same
      exact absurd same.symm (text_append_ne_sign row (.inl rfl) _ _)
  · have plain (rest : List Char) : word ≠ '-' :: rest := fun same => signed ⟨rest, same⟩
    rw [ofWord?_plain plain, ofUnsigned?_eq_some_iff]
    refine ⟨And.right, fun spelled => ⟨?_, spelled⟩⟩
    obtain ⟨-, -, -, exponent, -, same⟩ := spelled
    cases negative : numeral.isNegative with
    | false => rfl
    | true => exact absurd (negative ▸ same) (plain _)

/-- A numeral that stands for a whole number: it has no point and no exponent, and is no negative
zero. -/
structure IsWhole (numeral : Numeral) (value : Int) : Prop where
  plain : numeral.fraction = [] ∧ numeral.exponent = none
  size : (Digits.value 10 numeral.whole : Int) = if numeral.isNegative then -value else value
  notMinusZero : numeral.isNegative = true → value ≠ 0

theorem value?_eq_int_iff {numeral : Numeral} {value : Int} :
    numeral.value? = some (.int value) ↔
      numeral.IsWhole value ∧ -(maxBelowZero : Int) ≤ value ∧ value ≤ maxWord64 := by
  have plain : numeral.isPlain = true ↔ numeral.fraction = [] ∧ numeral.exponent = none := by
    simp [isPlain]
  constructor
  · intro read
    unfold value? at read
    dsimp only at read
    split at read
    next shown =>
      simp only [Bool.and_eq_true, decide_eq_true_eq, plain, Bool.not_eq_true'] at shown
      obtain ⟨⟨form, positive⟩, fits⟩ := shown
      cases read
      exact ⟨⟨form, by simp [positive], by simp [positive]⟩, by omega, by omega⟩
    split at read
    next shown =>
      simp only [Bool.and_eq_true, decide_eq_true_eq, plain] at shown
      obtain ⟨⟨⟨form, negative⟩, positive⟩, fits⟩ := shown
      cases read
      exact ⟨⟨form, by simp [negative], fun _ => by omega⟩, by omega, by omega⟩
    · obtain ⟨double, -, same⟩ := Option.map_eq_some_iff.mp read
      cases same
  · intro whole
    obtain ⟨⟨form, size, apart⟩, low, high⟩ := whole
    unfold value?
    cases sign : numeral.isNegative with
    | false =>
      simp only [sign, Bool.false_eq_true, if_false] at size
      have fits : Digits.value 10 numeral.whole ≤ maxWord64 := by omega
      simp [plain.mpr form, fits, size]
    | true =>
      simp only [sign, if_true] at size
      have positive : 0 < Digits.value 10 numeral.whole := by
        have := apart sign
        omega
      have fits : Digits.value 10 numeral.whole ≤ maxBelowZero := by omega
      simp [plain.mpr form, positive, fits, size]

end Json.Numeral
end GridDiffusion
