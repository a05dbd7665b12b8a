import Mathlib.Data.List.Perm.Subperm
import GridDiffusion.Probe.Survey
import GridDiffusion.Proofs.Grid.Addressing
import GridDiffusion.Proofs.SortedMap
/-! Surveys by what arrives: every cell is given the last pong that was read from its own address,
and as long as no cell answers twice the order of arrival and what else arrives make no difference.
-/
namespace GridDiffusion

/-- Whether a host is of four octets. -/
def Host.IsShort : Host → Prop
  | .ipv4 .. => True
  | .ipv6 .. => False

/-- An address of a host of four octets has no zone. -/
def Address.IsProper (address : Address) : Prop := address.host.IsShort → address.zone = 0

/-- The cell that is found at an address is the one that has exactly this address. -/
def Grid.Attributes (grid : Grid) (address : Address) : Prop :=
  ∀ coord, grid.coordAt? address = some coord ↔ grid.addressOf coord = .ok address

theorem Grid.attributes_of_isProper {grid : Grid} {address : Address}
    (short : grid.base.host.IsShort) (base : grid.base.IsProper) (proper : address.IsProper) :
    grid.Attributes address := by
  intro coord
  constructor
  · intro found
    have host := (coordAt?_eq_some_iff.mp found).1
    have zone : address.zone = grid.base.zone := by rw [proper (host ▸ short), base short]
    exact (coordAt?_eq_some_iff_of_zone zone).mp found
  · exact coordAt?_addressOf

theorem Datagram.pong?_eq_some_iff {datagram : Datagram} {status : NodeStatus} :
    datagram.pong? = some status ↔
      ∃ sender, Message.decode datagram.bytes = .ok (.pong sender status) := by
  unfold pong?
  split
  next sender said read => simp [read]
  next other =>
    refine iff_of_false nofun ?_
    rintro ⟨sender, read⟩
    exact other sender status read

namespace Survey

variable {grid : Grid} {coord : Coord} {statuses : SortedMap Coord NodeStatus}
  {arrivals before others : List Datagram} {datagram : Datagram}

/-- What the pongs from a cell's address say, in the order of their arrival. -/
def reportsOf (grid : Grid) (coord : Coord) (arrivals : List Datagram) : List NodeStatus :=
  (arrivals.filter fun datagram => grid.addressOf coord = .ok datagram.source).filterMap Datagram.pong?

theorem reportsOf_append (grid : Grid) (coord : Coord) (front back : List Datagram) :
    reportsOf grid coord (front ++ back) = reportsOf grid coord front ++ reportsOf grid coord back := by
  rw [reportsOf, List.filter_append, List.filterMap_append]
  rfl

theorem reportsOf_singleton (grid : Grid) (coord : Coord) (datagram : Datagram) :
    reportsOf grid coord [datagram] =
      if grid.addressOf coord = .ok datagram.source then datagram.pong?.toList else [] := by
  by_cases own : grid.addressOf coord = .ok datagram.source
  · cases said : datagram.pong? <;> simp [reportsOf, own, said]
  · simp [reportsOf, own]

theorem mem_reportsOf_iff {status : NodeStatus} : status ∈ reportsOf grid coord arrivals ↔
    ∃ datagram ∈ arrivals, grid.addressOf coord = .ok datagram.source ∧
      ∃ sender, Message.decode datagram.bytes = .ok (.pong sender status) := by
  simp only [reportsOf, List.mem_filterMap, List.mem_filter, decide_eq_true_iff, and_assoc,
    Datagram.pong?_eq_some_iff]

theorem reportsOf_ne_nil_iff : reportsOf grid coord arrivals ≠ [] ↔
    ∃ datagram ∈ arrivals, grid.addressOf coord = .ok datagram.source ∧
      ∃ sender status, Message.decode datagram.bytes = .ok (.pong sender status) := by
  constructor
  · intro reported
    obtain ⟨status, inside⟩ := List.exists_mem_of_ne_nil _ reported
    obtain ⟨datagram, arrived, own, sender, said⟩ := mem_reportsOf_iff.mp inside
    exact ⟨datagram, arrived, own, sender, status, said⟩
  · rintro ⟨datagram, arrived, own, sender, status, said⟩
    exact List.ne_nil_of_mem (mem_reportsOf_iff.mpr ⟨datagram, arrived, own, sender, said⟩)

theorem contains_of_reportsOf (reported : reportsOf grid coord arrivals ≠ []) :
    grid.contains coord = true := by
  obtain ⟨datagram, -, own, -⟩ := reportsOf_ne_nil_iff.mp reported
  exact Grid.exists_addressOf_iff.mp ⟨_, own⟩

def IsComplete (grid : Grid) (arrivals : List Datagram) : Prop :=
  ∀ coord, grid.contains coord = true → reportsOf grid coord arrivals ≠ []

/-- Every cell is given what it said last. -/
def Reflects (grid : Grid) (statuses : SortedMap Coord NodeStatus) (arrivals : List Datagram) : Prop :=
  ∀ coord, statuses.get? coord = (reportsOf grid coord arrivals).getLast?

theorem reflects_empty (grid : Grid) : Reflects grid .empty [] := fun _ => rfl

theorem get?_enter (attributes : grid.Attributes datagram.source)
    (statuses : SortedMap Coord NodeStatus) (coord : Coord) :
    (enter grid statuses datagram).get? coord =
      (reportsOf grid coord [datagram]).getLast?.or (statuses.get? coord) := by
  rw [reportsOf_singleton]
  unfold enter
  split
  next cell status found said =>
    have placed : coord = cell ↔ grid.addressOf coord = .ok datagram.source := by
      rw [← attributes coord, found, Option.some.injEq, eq_comm]
    rw [SortedMap.get?_insert, said]
    simp only [placed]
    split <;> rfl
  next silent =>
    split
    next own =>
      have unsaid : datagram.pong? = none := Option.eq_none_iff_forall_ne_some.mpr fun status said =>
        silent coord status ((attributes coord).mpr own) said
      rw [unsaid]
      rfl
    · rfl

theorem Reflects.enter (reflects : Reflects grid statuses before)
    (attributes : grid.Attributes datagram.source) :
    Reflects grid (Survey.enter grid statuses datagram) (before ++ [datagram]) := by
  intro coord
  rw [get?_enter attributes, reflects coord, reportsOf_append, List.getLast?_append]

theorem Reflects.size_lt_iff (reflects : Reflects grid statuses before) :
    statuses.size < grid.cellCount ↔ ¬ IsComplete grid before := by
  have listed (coord : Coord) :
      coord ∈ statuses.entries.map Prod.fst ↔ reportsOf grid coord before ≠ [] := by
    rw [← List.getLast?_isSome, ← reflects coord, Option.isSome_iff_exists]
    simp [SortedMap.get?_eq_some_iff]
  have keys : (statuses.entries.map Prod.fst).length = statuses.size := List.length_map _
  have cells : grid.coords.length = grid.cellCount := grid.isExact.length
  constructor
  · intro less complete
    have all : grid.coords ⊆ statuses.entries.map Prod.fst := fun coord inside =>
      (listed coord).mpr (complete coord (Grid.mem_coords_iff.mp inside))
    have most := (List.subperm_of_subset grid.nodup_coords all).length_le
    omega
  · intro incomplete
    by_contra full
    have onGrid : statuses.entries.map Prod.fst ⊆ grid.coords := fun coord inside =>
      Grid.mem_coords_iff.mpr (contains_of_reportsOf ((listed coord).mp inside))
    have same := (List.subperm_of_subset statuses.nodup_keys onGrid).perm_of_length_le (by omega)
    exact incomplete fun coord inside =>
      (listed coord).mp (same.mem_iff.mpr (Grid.mem_coords_iff.mpr inside))

/-- What is read of what arrives after some datagrams: all up to where every cell has sent a pong,
or all there is. -/
structure IsRead (grid : Grid) (before arrivals seen rest : List Datagram) : Prop where
  joined : arrivals = seen ++ rest
  ends : rest = [] ∨ IsComplete grid (before ++ seen)
  needed : ∀ front datagram back, seen = front ++ datagram :: back → ¬ IsComplete grid (before ++ front)

theorem reflects_read (reflects : Reflects grid statuses before)
    (attributes : ∀ datagram ∈ arrivals, grid.Attributes datagram.source) :
    ∃ seen rest, IsRead grid before arrivals seen rest ∧
      Reflects grid (read grid statuses arrivals) (before ++ seen) := by
  induction arrivals generalizing statuses before with
  | nil => exact ⟨[], [], ⟨rfl, .inl rfl, by simp⟩, by rwa [List.append_nil]⟩
  | cons datagram arrivals ih =>
    obtain ⟨first, others⟩ := List.forall_mem_cons.mp attributes
    rw [read]
    by_cases left : statuses.size < grid.cellCount
    · have incomplete := reflects.size_lt_iff.mp left
      obtain ⟨seen, rest, isRead, after⟩ := ih (reflects.enter first) others
      rw [List.append_assoc] at after
      refine ⟨datagram :: seen, rest, ⟨by rw [isRead.joined, List.cons_append], ?_, ?_⟩, ?_⟩
      · simpa using isRead.ends
      · intro front other back cut
        cases front with
        | nil => rwa [List.append_nil]
        | cons head front =>
          obtain ⟨rfl, later⟩ := List.cons_eq_cons.mp cut
          simpa using isRead.needed front other back later
      · rwa [if_pos left]
    · have complete := not_not.mp (mt reflects.size_lt_iff.mpr left)
      refine ⟨[], datagram :: arrivals, ⟨rfl, .inr ?_, by simp⟩, ?_⟩
      · rwa [List.append_nil]
      · rwa [if_neg left, List.append_nil]

def IsSingle (grid : Grid) (arrivals : List Datagram) : Prop :=
  ∀ coord, (reportsOf grid coord arrivals).length ≤ 1

/-- Where no cell has sent two pongs, what is not read says nothing of a cell that was not read. -/
theorem reflects_read_of_isSingle (single : IsSingle grid arrivals)
    (attributes : ∀ datagram ∈ arrivals, grid.Attributes datagram.source) :
    Reflects grid (read grid .empty arrivals) arrivals := by
  obtain ⟨seen, rest, isRead, reflects⟩ :=
    reflects_read (reflects_empty grid) attributes
  intro coord
  rw [reflects coord, List.nil_append]
  have parts : reportsOf grid coord arrivals = reportsOf grid coord seen ++ reportsOf grid coord rest := by
    rw [isRead.joined, reportsOf_append]
  have unread : reportsOf grid coord rest = [] := by
    rcases isRead.ends with rfl | complete
    · rfl
    · by_contra more
      have read : reportsOf grid coord seen ≠ [] := complete coord (contains_of_reportsOf more)
      have most := single coord
      rw [parts, List.length_append] at most
      have first := List.length_pos_iff.mpr read
      have second := List.length_pos_iff.mpr more
      omega
  rw [parts, unread, List.append_nil]

/-- A datagram that says nothing of any cell: one that is no message, or another message than a
pong, or that comes from elsewhere. -/
inductive IsSilent (grid : Grid) (datagram : Datagram) : Prop
  | unreadable {cause : CodecError} (failed : Message.decode datagram.bytes = .error cause)
  | other {message : Message} (read : Message.decode datagram.bytes = .ok message)
    (noPong : message.kind ≠ .pong)
  | foreign (elsewhere : ∀ coord, grid.addressOf coord ≠ .ok datagram.source)

/-- The same datagrams in another order, with silent ones put in or left out. -/
inductive Rearranged (grid : Grid) : List Datagram → List Datagram → Prop
  | perm {left right : List Datagram} (perm : left.Perm right) : Rearranged grid left right
  | insert {front back : List Datagram} {datagram : Datagram} (silent : IsSilent grid datagram) :
    Rearranged grid (front ++ back) (front ++ datagram :: back)
  | remove {front back : List Datagram} {datagram : Datagram} (silent : IsSilent grid datagram) :
    Rearranged grid (front ++ datagram :: back) (front ++ back)
  | trans {first second third : List Datagram} (left : Rearranged grid first second)
    (right : Rearranged grid second third) : Rearranged grid first third

theorem IsSilent.reportsOf_eq_nil (silent : IsSilent grid datagram) (coord : Coord) :
    reportsOf grid coord [datagram] = [] := by
  refine List.eq_nil_iff_forall_not_mem.mpr fun status reported => ?_
  obtain ⟨_, inside, own, sender, said⟩ := mem_reportsOf_iff.mp reported
  cases List.mem_singleton.mp inside
  cases silent with
  | unreadable failed => cases failed.symm.trans said
  | other read noPong =>
    cases read.symm.trans said
    exact noPong rfl
  | foreign elsewhere => exact elsewhere coord own

theorem IsSilent.reportsOf_insert (silent : IsSilent grid datagram) (coord : Coord)
    (front back : List Datagram) :
    reportsOf grid coord (front ++ datagram :: back) = reportsOf grid coord (front ++ back) := by
  have apart : datagram :: back = [datagram] ++ back := rfl
  rw [apart, reportsOf_append, reportsOf_append, silent.reportsOf_eq_nil coord, List.nil_append,
    reportsOf_append]

theorem Rearranged.perm_reportsOf (rearranged : Rearranged grid arrivals others) (coord : Coord) :
    (reportsOf grid coord arrivals).Perm (reportsOf grid coord others) := by
  induction rearranged with
  | perm perm => exact (perm.filter _).filterMap _
  | insert silent => rw [silent.reportsOf_insert]
  | remove silent => rw [silent.reportsOf_insert]
  | trans _ _ left right => exact left.trans right

theorem eq_of_perm_of_length_le_one {Entry : Type} {left right : List Entry}
    (perm : left.Perm right) (short : left.length ≤ 1) : right = left := by
  match left, short with
  | [], _ => exact perm.nil_eq.symm
  | [_], _ => exact List.perm_singleton.mp perm.symm

/-- Where no cell has sent two pongs, the order of arrival and silent datagrams make no difference.
-/
theorem ofArrivals_rearranged (single : IsSingle grid arrivals)
    (attributes : ∀ datagram ∈ arrivals, grid.Attributes datagram.source)
    (rearranged : Rearranged grid arrivals others)
    (attributesOthers : ∀ datagram ∈ others, grid.Attributes datagram.source) :
    ofArrivals grid others = ofArrivals grid arrivals := by
  have same (coord : Coord) : reportsOf grid coord others = reportsOf grid coord arrivals :=
    eq_of_perm_of_length_le_one (rearranged.perm_reportsOf coord) (single coord)
  have singleOthers : IsSingle grid others := fun coord => same coord ▸ single coord
  rw [ofArrivals, ofArrivals, mk.injEq]
  refine ⟨rfl, SortedMap.ext_get? fun coord => ?_⟩
  rw [reflects_read_of_isSingle singleOthers attributesOthers coord,
    reflects_read_of_isSingle single attributes coord, same]

/-- A survey gives every cell what the last pong says that was read from exactly the cell's address,
where one was read; and what is read are all datagrams up to where every cell has sent a pong. While
no cell has sent two pongs, the survey is the same in whatever order the datagrams arrive, with or
without others that say nothing of any cell. -/
theorem attributed_by_source {grid : Grid} {arrivals : List Datagram}
    (short : grid.base.host.IsShort) (proper : grid.base.IsProper)
    (sources : ∀ datagram ∈ arrivals, datagram.source.IsProper) :
    (∃ seen rest, IsRead grid [] arrivals seen rest ∧
      (ofArrivals grid arrivals).size = grid.size ∧
      ∀ coord, (ofArrivals grid arrivals).status? coord = (reportsOf grid coord seen).getLast? ∧
        (((ofArrivals grid arrivals).status? coord).isSome = true ↔ ∃ datagram ∈ seen,
          grid.addressOf coord = .ok datagram.source ∧
            ∃ sender status, Message.decode datagram.bytes = .ok (.pong sender status))) ∧
    (IsSingle grid arrivals → ∀ others, Rearranged grid arrivals others →
      (∀ datagram ∈ others, datagram.source.IsProper) →
      ofArrivals grid others = ofArrivals grid arrivals) := by
  have attributes {list : List Datagram} (all : ∀ datagram ∈ list, datagram.source.IsProper) :
      ∀ datagram ∈ list, grid.Attributes datagram.source := fun datagram inside =>
    Grid.attributes_of_isProper short proper (all datagram inside)
  refine ⟨?_, fun single others rearranged all =>
    ofArrivals_rearranged single (attributes sources) rearranged (attributes all)⟩
  obtain ⟨seen, rest, isRead, reflects⟩ := reflects_read (reflects_empty grid) (attributes sources)
  refine ⟨seen, rest, isRead, rfl, fun coord => ?_⟩
  have given : (ofArrivals grid arrivals).status? coord = (reportsOf grid coord seen).getLast? :=
    reflects coord
  refine ⟨given, ?_⟩
  rw [given, List.getLast?_isSome, reportsOf_ne_nil_iff]

/-- A pong that states a position off the grid. -/
def strayPong : ByteArray :=
  ("\x7b\"type\":\"pong\",\"sender_id\":\"n\",\"data\":\x7b\"alive\":true,\"grid_x\":7," ++
    "\"grid_y\":7,\"information_count\":0,\"information\":\x7b\x7d,\"generation\":5," ++
    "\"neighbors\":3\x7d\x7d").toUTF8

/-- A pong from the last cell of four, an empty datagram, and a pong from elsewhere. -/
def strayArrivals : List Datagram :=
  [⟨⟨.loopback, 9003, 0⟩, strayPong⟩, ⟨⟨.loopback, 9000, 0⟩, .empty⟩,
    ⟨⟨.ipv4 10 0 0 1, 9001, 0⟩, strayPong⟩]

theorem attributed_by_source_stray :
    (∃ seen rest, IsRead .fourCells [] strayArrivals seen rest ∧
      (ofArrivals .fourCells strayArrivals).status? ⟨1, 1⟩ =
        (reportsOf .fourCells ⟨1, 1⟩ seen).getLast?) ∧
    (ofArrivals .fourCells strayArrivals).status? ⟨1, 1⟩ = some ⟨true, ⟨7, 7⟩, 0, .empty, 5, 3⟩ ∧
    ofArrivals .fourCells [strayArrivals[2], strayArrivals[0]] =
      ofArrivals .fourCells strayArrivals := by
  have sources : ∀ datagram ∈ strayArrivals, datagram.source.IsProper := by
    simp [strayArrivals, Address.IsProper]
  have failed : Message.decode strayArrivals[1].bytes = .error .malformed := by decide +kernel
  have empty : IsSilent .fourCells strayArrivals[1] := .unreadable failed
  have foreign : IsSilent .fourCells strayArrivals[2] := .foreign fun coord own => by
    obtain ⟨-, same⟩ := Grid.addressOf_eq_ok_iff.mp own
    cases congrArg Address.host same
  have single : IsSingle .fourCells strayArrivals := fun coord => by
    have parts : strayArrivals = [strayArrivals[0]] ++ ([strayArrivals[1]] ++ [strayArrivals[2]]) := rfl
    rw [parts, reportsOf_append, reportsOf_append, empty.reportsOf_eq_nil, foreign.reportsOf_eq_nil,
      List.append_nil, List.append_nil, reportsOf_singleton]
    split
    · exact Option.length_toList_le
    · exact Nat.zero_le 1
  have fewer : Rearranged .fourCells ([strayArrivals[0]] ++ strayArrivals[1] :: [strayArrivals[2]])
      ([strayArrivals[0]] ++ [strayArrivals[2]]) := .remove empty
  have swapped : Rearranged .fourCells strayArrivals [strayArrivals[2], strayArrivals[0]] :=
    fewer.trans (.perm (.swap ..))
  have short : Grid.fourCells.base.host.IsShort := trivial
  have proper : Grid.fourCells.base.IsProper := fun _ => rfl
  obtain ⟨⟨seen, rest, isRead, -, given⟩, alike⟩ := attributed_by_source short proper sources
  refine ⟨⟨seen, rest, isRead, (given ⟨1, 1⟩).1⟩, by decide +kernel, alike single _ swapped ?_⟩
  simp [strayArrivals, Address.IsProper]

end Survey
end GridDiffusion
