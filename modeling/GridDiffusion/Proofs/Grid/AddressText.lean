import GridDiffusion.Grid.AddressText
import GridDiffusion.Proofs.Json.NumeralText
/-! The text of a socket address of four octets, which is read back as that address. -/
namespace GridDiffusion

open Json.Numeral (Stops exists_takeDigits_repr)

/-- An address of four octets, which has no zone. -/
inductive Address.IsShort : Address → Prop
  | intro (first second third fourth : UInt8) (port : UInt16) :
    IsShort ⟨.ipv4 first second third fourth, port, 0⟩

namespace Host
variable {rest : List Char}

theorem takeOctet?_repr (octet : UInt8) (stops : Stops rest) :
    takeOctet? (octet.toNat.repr.toList ++ rest) = some (octet, rest) := by
  obtain ⟨digits, spells, taken⟩ := exists_takeDigits_repr octet.toNat stops
  obtain ⟨read, -⟩ := Prod.mk.inj taken
  have below : octet.toNat ≤ 255 := Nat.le_of_lt_succ octet.toNat_lt
  have length : digits.length = octet.toNat.repr.toList.length := by
    rw [Nat.toList_repr, spells.text, List.length_map]
  have few : digits.length ≤ 3 := by
    rw [length, String.length_toList]
    exact (Nat.length_repr_le_iff (by decide)).mpr (by omega)
  have plain : ¬ (digits.length > 1 ∧ digits.head? = some 0) := by
    rintro ⟨several, zero⟩
    rcases spells.noLeadingZero with single | apart
    · omega
    · exact apart zero
  have dropped : (octet.toNat.repr.toList ++ rest).drop digits.length = rest :=
    List.drop_left' length.symm
  simp only [takeOctet?, read, spells.value, dropped]
  simp [spells.nonempty, Nat.not_lt.mpr few, plain, below]

theorem takeOctets?_text (first second third fourth : UInt8) (stops : Stops rest) :
    takeOctets? ((ipv4 first second third fourth).text.toList ++ rest) =
      some (ipv4 first second third fourth, rest) := by
  have text : (ipv4 first second third fourth).text = first.toNat.repr ++ "." ++ second.toNat.repr ++
      "." ++ third.toNat.repr ++ "." ++ fourth.toNat.repr := rfl
  have point (behind : List Char) : Stops ('.' :: behind) := by simp [Stops, digit?]
  simp [text, takeOctets?, takeOctet?_repr, point, takeMark?, stops, -Nat.toList_repr]

end Host

namespace Address

theorem port?_repr (port : UInt16) : port? (':' :: port.toNat.repr.toList) = some port := by
  simp [port?, Host.takeMark?, bounded?, Digits.read?_repr, port.toNat_lt, -Nat.toList_repr]

theorem IsShort.ofText?_text {address : Address} (short : address.IsShort) :
    ofText? address.text = some address := by
  cases short with
  | intro first second third fourth port =>
    have colon : Stops (':' :: port.toNat.repr.toList) := by simp [Stops, digit?]
    have octets := Host.takeOctets?_text first second third fourth colon
    simp [ofText?, shortForm?, text, octets, port?_repr, -Nat.toList_repr]

end Address
end GridDiffusion
