import Mathlib.Data.List.DropRight
import GridDiffusion.Probe.Report
import GridDiffusion.Proofs.Json.NumeralText
/-! The map of a survey: its lines can be read back, mark by mark, however wide the marks are, so
two surveys show the same map only if they say the same of every cell. -/
namespace GridDiffusion

open Json.Numeral (Stops takeDigits exists_takeDigits_repr stops_nil)

theorem Text.newline_notMem_toDigits (count : Nat) : '\n' ∉ Nat.toDigits 10 count := fun ends =>
  absurd (Nat.isDigit_of_mem_toDigits (by decide) (by decide) ends) (by decide)

theorem Text.toList_trimEnd (text : String) :
    (trimEnd text).toList = text.toList.rdropWhile GridDiffusion.isBlank := by
  rw [trimEnd, String.toList_ofList, List.rdropWhile]

theorem Text.rdropWhile_append_spaces (line : List Char) (gap : Nat) :
    (line ++ List.replicate gap ' ').rdropWhile GridDiffusion.isBlank =
      line.rdropWhile GridDiffusion.isBlank := by
  induction gap with
  | zero => rw [List.replicate_zero, List.append_nil]
  | succ gap ih =>
    rw [List.replicate_succ', ← List.append_assoc, List.rdropWhile_concat_pos _ _ _ (by decide), ih]

theorem isBlank_eq_false_of_isDigit {character : Char} (digit : character.isDigit = true) :
    isBlank character = false := by
  have range : 48 ≤ character.toNat ∧ character.toNat ≤ 57 := by
    simpa [Char.isDigit, UInt32.le_iff_toNat_le] using digit
  have apart : ∀ blanks ∈ blankRanges, blanks.2 < 48 ∨ 57 < blanks.1 := by decide
  rw [isBlank, List.any_eq_false]
  intro blanks member
  have outside := apart blanks member
  simp only [Bool.and_eq_true, decide_eq_true_eq]
  omega

namespace CellMark
variable {mark other : CellMark} {marks others : List CellMark} {line rest : List Char}

/-- A line as marks from left to right, with spaces or none between one and the next. -/
inductive Spells : List CellMark → List Char → Prop
  | last (mark : CellMark) : Spells [mark] mark.text.toList
  | more (mark : CellMark) (gap : Nat) {marks : List CellMark} {line : List Char}
    (behind : Spells marks line) :
    Spells (mark :: marks) (mark.text.toList ++ (List.replicate gap ' ' ++ line))

theorem exists_toList_text (mark : CellMark) : ∃ sign digits, mark.text.toList = sign :: digits ∧
    sign ≠ ' ' ∧ digit? sign = none := by
  cases mark with
  | silent => exact ⟨'.', [], rfl, by decide, by decide⟩
  | dead => exact ⟨'x', [], rfl, by decide, by decide⟩
  | alive itemCount => exact ⟨'#', itemCount.repr.toList, by simp [text], by decide, by decide⟩

theorem isBlank_eq_false_of_mem_text {character : Char} (inside : character ∈ mark.text.toList) :
    isBlank character = false := by
  cases mark with
  | silent | dead =>
    obtain rfl := List.mem_singleton.mp inside
    decide
  | alive itemCount =>
    rw [text, String.toList_append, List.mem_append, Nat.toList_repr] at inside
    rcases inside with sign | digit
    · obtain rfl := List.mem_singleton.mp sign
      decide
    · exact isBlank_eq_false_of_isDigit (Nat.isDigit_of_mem_toDigits (by decide) (by decide) digit)

theorem Spells.exists_head (spells : Spells marks line) :
    ∃ sign behind, line = sign :: behind ∧ sign ≠ ' ' ∧ digit? sign = none := by
  cases spells with
  | last mark =>
    obtain ⟨sign, digits, text, apart, noDigit⟩ := mark.exists_toList_text
    exact ⟨sign, digits, text, apart, noDigit⟩
  | more mark gap behind =>
    obtain ⟨sign, digits, text, apart, noDigit⟩ := mark.exists_toList_text
    exact ⟨sign, _, by rw [text, List.cons_append], apart, noDigit⟩

/-- What follows a mark does not go on with its count. -/
theorem Spells.stops_gap (spells : Spells marks line) (gap : Nat) :
    Stops (List.replicate gap ' ' ++ line) := by
  obtain ⟨sign, behind, rfl, -, noDigit⟩ := spells.exists_head
  cases gap with
  | zero => simpa [Stops] using noDigit
  | succ gap => simp [Stops, List.replicate_succ, digit?]

theorem text_append_inj {behind : List Char} (stops : Stops rest) (ends : Stops behind)
    (same : mark.text.toList ++ rest = other.text.toList ++ behind) :
    mark = other ∧ rest = behind := by
  cases mark with
  | silent => cases other <;> simp_all [text]
  | dead => cases other <;> simp_all [text]
  | alive count =>
    cases other with
    | silent | dead => simp [text] at same
    | alive otherCount =>
      obtain ⟨digits, spells, taken⟩ := exists_takeDigits_repr count stops
      obtain ⟨otherDigits, others, otherTaken⟩ := exists_takeDigits_repr otherCount ends
      have counts : count.repr.toList ++ rest = otherCount.repr.toList ++ behind := by
        simpa [text] using same
      rw [counts, otherTaken] at taken
      obtain ⟨rfl, rfl⟩ := Prod.mk.inj taken
      exact ⟨by rw [← spells.value, ← others.value], rfl⟩

theorem Spells.dropWhile_gap (spells : Spells marks line) (gap : Nat) :
    (List.replicate gap ' ' ++ line).dropWhile (· = ' ') = line := by
  obtain ⟨sign, behind, rfl, apart, -⟩ := spells.exists_head
  rw [List.dropWhile_append_of_pos (by simp), List.dropWhile_cons_of_neg (by simpa using apart)]

theorem Spells.unique (one : Spells marks line) (two : Spells others line) : marks = others := by
  have nonempty {marks : List CellMark} {gap : Nat} {line : List Char} (behind : Spells marks line) :
      [] ≠ List.replicate gap ' ' ++ line := by
    obtain ⟨sign, more, rfl, -⟩ := behind.exists_head
    simp
  induction one generalizing others with
  | last mark =>
    generalize shown : mark.text.toList = line at two
    rw [← List.append_nil mark.text.toList] at shown
    cases two with
    | last other =>
      rw [← List.append_nil other.text.toList] at shown
      rw [(text_append_inj stops_nil stops_nil shown).1]
    | more other gap behind =>
      exact absurd (text_append_inj stops_nil (behind.stops_gap gap) shown).2 (nonempty behind)
  | more mark gap behind ih =>
    generalize shown : mark.text.toList ++ _ = line at two
    cases two with
    | last other =>
      rw [← List.append_nil other.text.toList] at shown
      exact absurd (text_append_inj (behind.stops_gap gap) stops_nil shown).2.symm (nonempty behind)
    | more other otherGap further =>
      obtain ⟨rfl, gaps⟩ :=
        text_append_inj (behind.stops_gap gap) (further.stops_gap otherGap) shown
      have lines := congrArg (List.dropWhile (· = ' ')) gaps
      rw [behind.dropWhile_gap, further.dropWhile_gap] at lines
      rw [ih (lines ▸ further)]

theorem Spells.isBlank_getLast (spells : Spells marks line) {last : Char}
    (ends : line.getLast? = some last) : isBlank last = false := by
  induction spells with
  | last mark => exact isBlank_eq_false_of_mem_text (List.mem_of_getLast? ends)
  | more mark gap behind ih =>
    obtain ⟨sign, rest, rfl, -⟩ := behind.exists_head
    exact ih (by simpa [List.getLast?_append] using ends)

theorem exists_spells_padded (mark : CellMark) (marks : List CellMark) :
    ∃ line gap, Spells (mark :: marks) line ∧ (String.join ((mark :: marks).map fun mark =>
      Text.padEnd 4 mark.text)).toList = line ++ List.replicate gap ' ' := by
  induction marks generalizing mark with
  | nil => exact ⟨_, 4 - mark.text.length, .last mark, by simp [Text.padEnd]⟩
  | cons next marks ih =>
    obtain ⟨line, gap, behind, padded⟩ := ih next
    refine ⟨_, gap, .more mark (4 - mark.text.length) behind, ?_⟩
    rw [List.map_cons, String.toList_join, List.flatMap_cons, ← String.toList_join, padded]
    simp [Text.padEnd]

/-- What is trimmed from a row is its padding: the line ends with its last mark. -/
theorem spells_rowText (mark : CellMark) (marks : List CellMark) :
    Spells (mark :: marks) (rowText (mark :: marks)).toList := by
  obtain ⟨line, gap, spells, padded⟩ := exists_spells_padded mark marks
  have trimmed : (rowText (mark :: marks)).toList = line := by
    rw [rowText, Text.toList_trimEnd, padded, Text.rdropWhile_append_spaces,
      List.rdropWhile_eq_self_iff]
    intro some blank
    rw [spells.isBlank_getLast (List.getLast?_eq_some_getLast some)] at blank
    cases blank
  rwa [trimmed]

theorem newline_notMem_text (mark : CellMark) : '\n' ∉ mark.text.toList := by
  intro ends
  exact absurd (isBlank_eq_false_of_mem_text ends) (by decide)

theorem newline_notMem_rowText (marks : List CellMark) : '\n' ∉ (rowText marks).toList := by
  intro ends
  rw [rowText, Text.toList_trimEnd] at ends
  have padded := (List.rdropWhile_prefix _ _).subset ends
  simp [Text.padEnd, newline_notMem_text] at padded

/-- Two answers that a map does not tell apart: none at all, those of dead nodes, and those of alive
nodes that count as many items. -/
inductive SameClass : Option NodeStatus → Option NodeStatus → Prop
  | silent : SameClass none none
  | dead {left right : NodeStatus} (first : left.alive = false) (second : right.alive = false) :
    SameClass (some left) (some right)
  | alive {left right : NodeStatus} (first : left.alive = true) (second : right.alive = true)
    (count : left.itemCount = right.itemCount) : SameClass (some left) (some right)

theorem ofStatus_eq_iff {left right : Option NodeStatus} :
    ofStatus left = ofStatus right ↔ SameClass left right := by
  constructor
  · intro same
    cases left with
    | none =>
      cases right with
      | none => exact .silent
      | some right => cases alive : right.alive <;> simp [ofStatus, alive] at same
    | some left =>
      cases right with
      | none => cases alive : left.alive <;> simp [ofStatus, alive] at same
      | some right =>
        cases first : left.alive with
        | false => cases second : right.alive <;> simp_all [ofStatus, SameClass.dead]
        | true => cases second : right.alive <;> simp_all [ofStatus, SameClass.alive]
  · intro same
    cases same with
    | silent => rfl
    | dead first second => simp [ofStatus, first, second]
    | alive first second count => simp [ofStatus, first, second, count]

end CellMark

/-- Lines that hold no end of a line are the lines of the text that they make, and nothing follows
the last end. -/
theorem Text.splitOn_ofLines {lines : List String} (unbroken : ∀ line ∈ lines, '\n' ∉ line.toList) :
    (ofLines lines).toList.splitOn '\n' = lines.map String.toList ++ [[]] := by
  have joined : (ofLines lines).toList = ['\n'].intercalate (lines.map String.toList ++ [[]]) := by
    clear unbroken
    rw [ofLines, String.toList_join]
    induction lines with
    | nil => rfl
    | cons line rest ih =>
      rw [List.map_cons, List.map_cons, List.flatMap_cons, ih, List.cons_append,
        List.intercalate_cons_of_ne_nil (by simp), String.toList_append]
      rfl
  rw [joined]
  refine List.splitOn_intercalate '\n' (List.forall_mem_append.mpr ⟨?_, by simp⟩) (by simp)
  simpa using unbroken

namespace Survey
variable {survey : Survey}

/-- The lines at the front of the rendered survey, one for each row of the grid. -/
def shownRows (survey : Survey) : List (List Char) :=
  (survey.render.toList.splitOn '\n').take survey.size.toNat

theorem shownRows_eq_map (survey : Survey) :
    survey.shownRows = survey.mapLines.map String.toList := by
  have rows : (survey.mapLines.map String.toList).length = survey.size.toNat := by simp [mapLines]
  have unbroken : ∀ line ∈ survey.mapLines, '\n' ∉ line.toList := by
    intro line member
    obtain ⟨row, -, rfl⟩ := List.mem_map.mp member
    exact CellMark.newline_notMem_rowText _
  have summary : '\n' ∉ (survey.responding.repr ++ "/" ++ survey.cellCount.repr ++ " responding, " ++
      survey.alive.repr ++ " alive").toList := by
    simp [Text.newline_notMem_toDigits]
  rw [shownRows, render, Text.splitOn_ofLines (List.forall_mem_append.mpr
    ⟨unbroken, List.forall_mem_singleton.mpr summary⟩), List.map_append, List.append_assoc,
    List.take_append_of_le_length (Nat.le_of_eq rows.symm), List.take_of_length_le (Nat.le_of_eq rows)]

theorem length_rowMarks (survey : Survey) (row : Nat) :
    (survey.rowMarks row).length = survey.size.toNat := by
  simp [rowMarks]

theorem getElem?_rowMarks {coord : Coord} (column : coord.x < survey.size) :
    (survey.rowMarks coord.y.toNat)[coord.x.toNat]? = some (survey.mark coord) := by
  simp [rowMarks, UInt32.lt_iff_toNat_lt.mp column]

theorem getElem?_shownRows {row : Nat} (within : row < survey.size.toNat) :
    survey.shownRows[row]? = some (CellMark.rowText (survey.rowMarks row)).toList := by
  simp [shownRows_eq_map, mapLines, within]

theorem spells_rowMarks (survey : Survey) {row : Nat} (within : row < survey.size.toNat) :
    CellMark.Spells (survey.rowMarks row) (CellMark.rowText (survey.rowMarks row)).toList := by
  have length := survey.length_rowMarks row
  cases marks : survey.rowMarks row with
  | nil =>
    rw [marks, List.length_nil] at length
    omega
  | cons mark rest => exact CellMark.spells_rowText mark rest

/-- The map of a survey can be read: a line to a row, in each line a mark to a cell. -/
structure ShowsCells (survey : Survey) : Prop where
  lines : survey.shownRows.length = survey.size.toNat
  /-- A line is made of the marks of its cells from left to right, and of no other marks. -/
  marks {row : Nat} {line : List Char} : survey.shownRows[row]? = some line →
    ∃ marks, CellMark.Spells marks line ∧ (∀ others, CellMark.Spells others line → others = marks) ∧
      marks.length = survey.size.toNat ∧ ∀ coord : Coord, coord.x < survey.size → coord.y.toNat = row →
        marks[coord.x.toNat]? = some (survey.mark coord)
  trimmed {line : List Char} : line ∈ survey.shownRows → line.getLast? ≠ some ' '

theorem showsCells (survey : Survey) : survey.ShowsCells := by
  have lines : survey.shownRows.length = survey.size.toNat := by simp [shownRows_eq_map, mapLines]
  have spelled {row : Nat} {line : List Char} (shown : survey.shownRows[row]? = some line) :
      CellMark.Spells (survey.rowMarks row) line := by
    have within : row < survey.size.toNat := lines ▸ (List.getElem?_eq_some_iff.mp shown).1
    rw [getElem?_shownRows within, Option.some.injEq] at shown
    exact shown ▸ survey.spells_rowMarks within
  constructor
  case lines => exact lines
  case marks =>
    intro row line shown
    refine ⟨survey.rowMarks row, spelled shown, fun others other => other.unique (spelled shown),
      survey.length_rowMarks row, ?_⟩
    rintro coord column rfl
    exact getElem?_rowMarks column
  case trimmed =>
    intro line member
    obtain ⟨row, shown⟩ := List.mem_iff_getElem?.mp member
    exact fun ends => absurd ((spelled shown).isBlank_getLast ends) (by decide)

theorem toUInt32_lt {size : UInt32} {position : Nat} (within : position < size.toNat) :
    position.toUInt32 < size := by
  have exact : position.toUInt32.toNat = position :=
    UInt32.toNat_ofNat_of_lt' (Nat.lt_trans within size.toNat_lt)
  rwa [UInt32.lt_iff_toNat_lt, exact]

/-- Two surveys of one size show the same map exactly if they say the same of every cell, as far as
a mark goes; and each map can be read back. -/
theorem shownRows_eq_iff (first second : Survey) (size : first.size = second.size) :
    (first.shownRows = second.shownRows ↔ ∀ coord : Coord, coord.x < first.size →
      coord.y < first.size → CellMark.SameClass (first.status? coord) (second.status? coord)) ∧
    first.ShowsCells ∧ second.ShowsCells := by
  refine ⟨⟨fun same coord column row => ?_, fun same => ?_⟩, first.showsCells, second.showsCells⟩
  · have within := UInt32.lt_iff_toNat_lt.mp row
    have shown := getElem?_shownRows within
    rw [same, getElem?_shownRows (size ▸ within), Option.some.injEq] at shown
    have spelled := second.spells_rowMarks (size ▸ within)
    rw [shown] at spelled
    have marks := spelled.unique (first.spells_rowMarks within)
    have cell := getElem?_rowMarks column
    rw [← marks, getElem?_rowMarks (size ▸ column), Option.some.injEq] at cell
    exact CellMark.ofStatus_eq_iff.mp cell.symm
  · have rows : first.mapLines = second.mapLines := by
      unfold mapLines rowMarks
      rw [← size]
      refine List.map_congr_left fun row rowListed => congrArg CellMark.rowText ?_
      refine List.map_congr_left fun column columnListed => CellMark.ofStatus_eq_iff.mpr ?_
      exact same _ (toUInt32_lt (List.mem_range.mp columnListed))
        (toUInt32_lt (List.mem_range.mp rowListed))
    rw [shownRows_eq_map, shownRows_eq_map, rows]

/-- A survey of four cells in which a mark leaves no space before the next one. -/
def wideMarks (generation : UInt64) : Survey where
  size := 2
  statuses := .ofList
    [(⟨0, 0⟩, ⟨true, ⟨0, 0⟩, 1000, .empty, generation, 3⟩),
      (⟨1, 0⟩, ⟨false, ⟨1, 0⟩, 0, .empty, generation, 3⟩)]

theorem shownRows_eq_iff_wideMarks : (wideMarks 0).size = (wideMarks 7).size ∧
    (wideMarks 0).shownRows = (wideMarks 7).shownRows ∧ (wideMarks 0).ShowsCells ∧
      (wideMarks 0).mapLines = ["#1000x", ".   ."] := by
  obtain ⟨same, shows, -⟩ := shownRows_eq_iff (wideMarks 0) (wideMarks 7) rfl
  refine ⟨rfl, same.mpr ?_, shows, by decide +kernel⟩
  have axis {position : UInt32} (within : position < 2) : position = 0 ∨ position = 1 := by
    have below : position.toNat < 2 := UInt32.lt_iff_toNat_lt.mp within
    have zero : (0 : UInt32).toNat = 0 := rfl
    have one : (1 : UInt32).toNat = 1 := rfl
    rw [← UInt32.toNat_inj, ← UInt32.toNat_inj, zero, one]
    omega
  rintro ⟨x, y⟩ column row
  rcases axis column with rfl | rfl <;> rcases axis row with rfl | rfl <;>
    exact CellMark.ofStatus_eq_iff.mp (by decide +kernel)

end Survey
end GridDiffusion
