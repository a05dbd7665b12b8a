import GridDiffusion.Grid.Address
import GridDiffusion.Number.Digits
/-! The text of a socket address: reading every accepted spelling and writing the canonical one. A
reader takes what it reads from the front of a row of characters and answers what follows. -/
namespace GridDiffusion

namespace Host

def takeMark? (mark : Char) : List Char → Option (List Char)
  | character :: rest => if character = mark then some rest else none
  | [] => none

/-- Read decimal digits of an octet: at most three, without a zero before others. -/
def takeOctet? (characters : List Char) : Option (UInt8 × List Char) :=
  let digits := (characters.takeWhile (digit? · |>.isSome)).filterMap digit?
  let value := Digits.value 10 digits
  if digits.isEmpty || digits.length > 3 || (digits.length > 1 && digits.head? = some 0) then none
  else if value ≤ 255 then some (value.toUInt8, characters.drop digits.length)
  else none

def takeOctets? (characters : List Char) : Option (Host × List Char) := do
  let (first, rest) ← takeOctet? characters
  let (second, rest) ← takeOctet? (← takeMark? '.' rest)
  let (third, rest) ← takeOctet? (← takeMark? '.' rest)
  let (fourth, rest) ← takeOctet? (← takeMark? '.' rest)
  pure (.ipv4 first second third fourth, rest)

def takeGroup? (characters : List Char) : Option (UInt16 × List Char) :=
  let digits := (characters.takeWhile (hexDigit? · |>.isSome)).filterMap hexDigit?
  if digits.isEmpty || digits.length > 4 then none
  else some ((Digits.value 16 digits).toUInt16, characters.drop digits.length)

def takeSeparator? (isFirst : Bool) (characters : List Char) : Option (List Char) :=
  if isFirst then some characters else takeMark? ':' characters

/-- Two groups from four octets at the end of a row of groups. -/
def takeOctetGroups? (characters : List Char) : Option (List UInt16 × List Char) := do
  match ← takeOctets? characters with
  | (.ipv4 first second third fourth, rest) =>
    pure ([first.toUInt16 * 256 + second.toUInt16, third.toUInt16 * 256 + fourth.toUInt16], rest)
  | _ => none

/-- Read groups up to a limit. Where two more fit, four octets may end the row. Answer the groups,
whether octets ended them, and what follows. -/
def takeGroups : (limit : Nat) → (isFirst : Bool) → List Char → List UInt16 × Bool × List Char
  | 0, _, characters => ([], false, characters)
  | limit + 1, isFirst, characters =>
    match takeSeparator? isFirst characters with
    | none => ([], false, characters)
    | some rest =>
      match if limit = 0 then none else takeOctetGroups? rest with
      | some (pair, rest) => (pair, true, rest)
      | none =>
        match takeGroup? rest with
        | none => ([], false, characters)
        | some (group, rest) =>
          let (groups, ended, rest) := takeGroups limit false rest
          (group :: groups, ended, rest)

/-- Eight groups, from a row that may be shorter and is filled up with zeros. -/
def ofGroups (groups : List UInt16) : Host := .ipv6 (Vector.ofFn fun index => groups.getD index 0)

/-- Read eight groups, or fewer with a double colon in place of the zeros left out. -/
def takeIpv6? (characters : List Char) : Option (Host × List Char) :=
  let (head, ended, rest) := takeGroups 8 true characters
  if head.length = 8 then some (ofGroups head, rest)
  else if ended then none
  else do
    let rest ← takeMark? ':' (← takeMark? ':' rest)
    let (tail, _, rest) := takeGroups (7 - head.length) true rest
    pure (ofGroups (head ++ List.replicate (8 - head.length - tail.length) 0 ++ tail), rest)

/-- The start and length of the longest row of zero groups, the first of equally long ones. -/
def longestZeros (groups : List UInt16) : Nat × Nat :=
  let runs := (List.range groups.length).map fun start =>
    (start, ((groups.drop start).takeWhile (· = 0)).length)
  runs.foldl (fun best run => if best.2 < run.2 then run else best) (0, 0)

private def groupsText (groups : List UInt16) : String :=
  ":".intercalate (groups.map fun group => String.ofList (Nat.toDigits 16 group.toNat))

private def octetsText (octets : List Nat) : String := ".".intercalate (octets.map Nat.repr)

/-- The canonical text: the first longest row of two or more zero groups becomes a double colon,
and a host of four octets in the place made for them is written with its octets. -/
def text : Host → String
  | .ipv4 first second third fourth =>
    octetsText [first.toNat, second.toNat, third.toNat, fourth.toNat]
  | .ipv6 groups =>
    match groups.toList with
    | [0, 0, 0, 0, 0, 0xFFFF, high, low] =>
      "::ffff:" ++ octetsText
        [high.toNat / 256, high.toNat % 256, low.toNat / 256, low.toNat % 256]
    | groups =>
      let (start, length) := longestZeros groups
      if length > 1 then
        groupsText (groups.take start) ++ "::" ++ groupsText (groups.drop (start + length))
      else groupsText groups

end Host

namespace Address

def bounded? (limit : Nat) (characters : List Char) : Option Nat :=
  match Digits.read? characters with
  | some value => if value < limit then some value else none
  | none => none

/-- Read a zone after a percent sign; without one the zone is zero. -/
def takeZone (characters : List Char) : UInt32 × List Char :=
  match characters with
  | '%' :: rest =>
    match bounded? UInt32.size (rest.takeWhile (digit? · |>.isSome)) with
    | some zone => (zone.toUInt32, rest.dropWhile (digit? · |>.isSome))
    | none => (0, characters)
  | _ => (0, characters)

def port? (characters : List Char) : Option UInt16 := do
  let digits ← Host.takeMark? ':' characters
  (bounded? UInt16.size digits).map Nat.toUInt16

def shortForm? (characters : List Char) : Option Address := do
  let (host, rest) ← Host.takeOctets? characters
  pure { host, port := ← port? rest }

def longForm? (characters : List Char) : Option Address := do
  let (host, rest) ← Host.takeIpv6? (← Host.takeMark? '[' characters)
  let (zone, rest) := takeZone rest
  pure { host, port := ← port? (← Host.takeMark? ']' rest), zone }

/-- Read the text of an address. Host names are none. -/
def ofText? (text : String) : Option Address :=
  (shortForm? text.toList).or (longForm? text.toList)

def text (address : Address) : String :=
  let host := address.host.text
  let placed := match address.host with
    | .ipv4 .. => host
    | .ipv6 _ =>
      "[" ++ host ++ (if address.zone = 0 then "" else "%" ++ address.zone.toNat.repr) ++ "]"
  placed ++ ":" ++ address.port.toNat.repr

end Address
end GridDiffusion
