import Mathlib.Data.Option.Basic
import GridDiffusion.Json.Numeral
/-! Whole numbers as numerals: the decimal text of a number is read back as that number. -/
namespace GridDiffusion

/-- Digits that spell a number without a zero in front. -/
structure Digits.Spells (digits : List Nat) (number : Nat) : Prop where
  small : ∀ digit ∈ digits, digit < 10
  text : Nat.toDigits 10 number = digits.map Nat.digitChar
  value : Digits.value 10 digits = number
  nonempty : digits ≠ []
  noLeadingZero : digits.length = 1 ∨ digits.head? ≠ some 0

theorem Digits.spells_singleton {digit : Nat} (small : digit < 10) :
    Digits.Spells [digit] digit where
  small := by simpa using small
  text := by simp [Nat.toDigits_of_lt_base small]
  value := by simp [Digits.value]
  nonempty := by simp
  noLeadingZero := .inl rfl

theorem Digits.Spells.concat {digits : List Nat} {number last : Nat}
    (spells : Digits.Spells digits number) (positive : 0 < number) (small : last < 10) :
    Digits.Spells (digits ++ [last]) (10 * number + last) where
  small := by
    intro digit member
    rcases List.mem_append.mp member with earlier | here
    · exact spells.small digit earlier
    · exact List.mem_singleton.mp here ▸ small
  text := by
    rw [← Nat.toDigits_append_toDigits (by decide) positive small, spells.text,
      Nat.toDigits_of_lt_base small]
    simp
  value := by
    have front : digits.foldl (fun total digit => total * 10 + digit) 0 = number := spells.value
    simp only [Digits.value, List.foldl_append, front, List.foldl_cons, List.foldl_nil]
    omega
  nonempty := by simp
  noLeadingZero := by
    right
    rcases spells.noLeadingZero with single | apart
    · obtain ⟨digit, rfl⟩ := List.length_eq_one_iff.mp single
      have same : digit = number := by simpa [Digits.value] using spells.value
      simp only [List.cons_append, List.head?_cons, ne_eq, Option.some.injEq]
      omega
    · cases digits with
      | nil => exact absurd rfl spells.nonempty
      | cons first rest => simpa using apart

theorem Digits.exists_spells (number : Nat) : ∃ digits, Digits.Spells digits number := by
  induction number using Nat.strongRecOn with
  | _ number ih =>
    by_cases small : number < 10
    · exact ⟨[number], Digits.spells_singleton small⟩
    · obtain ⟨digits, spells⟩ := ih (number / 10) (by omega)
      have whole : 10 * (number / 10) + number % 10 = number := Nat.div_add_mod number 10
      exact ⟨_, whole ▸ spells.concat (by omega) (Nat.mod_lt _ (by decide))⟩

theorem digit?_digitChar :
    ∀ {digit : Nat}, digit < 10 → digit? (Nat.digitChar digit) = some digit := by
  decide

theorem digitChar_ne_minus : ∀ {digit : Nat}, digit < 10 → Nat.digitChar digit ≠ '-' := by
  decide

namespace Json.Numeral

theorem takeDigits_digits {digits : List Nat} (small : ∀ digit ∈ digits, digit < 10) :
    takeDigits (digits.map Nat.digitChar) = (digits, []) := by
  induction digits with
  | nil => rfl
  | cons digit rest ih =>
    have reads := digit?_digitChar (small digit List.mem_cons_self)
    have tail := ih fun other member => small other (.tail _ member)
    simp only [takeDigits, Prod.mk.injEq] at tail
    simp [takeDigits, reads, tail]

def ofDigits (isNegative : Bool) (digits : List Nat) : Numeral :=
  { isNegative, whole := digits, fraction := [], exponent := none }

theorem ofWord?_digits {digits : List Nat} {number : Nat}
    (spells : Digits.Spells digits number) :
    ofWord? (digits.map Nat.digitChar) = some (ofDigits false digits) ∧
      ofWord? ('-' :: digits.map Nat.digitChar) = some (ofDigits true digits) := by
  have taken := takeDigits_digits spells.small
  cases digits with
  | nil => exact absurd rfl spells.nonempty
  | cons first rest =>
    have leading : rest = [] ∨ ¬ first = 0 := by simpa using spells.noLeadingZero
    have passed := (Option.guard_eq_some' ()).2 leading
    have unsigned := digitChar_ne_minus (spells.small first List.mem_cons_self)
    rw [List.map_cons] at taken ⊢
    constructor
    · simp [ofWord?, unsigned, taken, passed, takeFraction?, takeExponent?, ofDigits]
    · simp [ofWord?, taken, passed, takeFraction?, takeExponent?, ofDigits]

theorem value?_ofDigits {digits : List Nat} {number : Nat}
    (spells : Digits.Spells digits number) :
    (number ≤ maxWord64 → (ofDigits false digits).value? = some (.int number)) ∧
      (0 < number → number ≤ maxBelowZero →
        (ofDigits true digits).value? = some (.int (-(number : Int)))) := by
  constructor
  · intro fits
    simp [value?, ofDigits, isPlain, spells.value, fits]
  · intro positive fits
    simp [value?, ofDigits, isPlain, spells.value, positive, fits]

/-- The text of a whole number is a numeral, and within 64 bits the numeral has its value. -/
theorem exists_numeral_repr (value : Int) :
    ∃ numeral, ofWord? value.repr.toList = some numeral ∧
      (-(maxBelowZero : Int) ≤ value → value ≤ maxWord64 →
        numeral.value? = some (.int value)) := by
  obtain ⟨digits, spells⟩ := Digits.exists_spells value.natAbs
  rw [Int.repr_eq_if]
  split
  next positive =>
    have size : value.toNat = value.natAbs := by omega
    refine ⟨ofDigits false digits, ?_, fun above below => ?_⟩
    · rw [Nat.toList_repr, size, spells.text]
      exact (ofWord?_digits spells).1
    · rw [(value?_ofDigits spells).1 (by omega)]
      congr 2
      omega
  next negative =>
    have size : (-value).toNat = value.natAbs := by omega
    refine ⟨ofDigits true digits, ?_, fun above below => ?_⟩
    · rw [String.toList_append, Nat.toList_repr, size, spells.text]
      exact (ofWord?_digits spells).2
    · rw [(value?_ofDigits spells).2 (by omega) (by omega)]
      congr 2
      omega

end Json.Numeral
end GridDiffusion
