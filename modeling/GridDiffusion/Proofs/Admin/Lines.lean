import GridDiffusion.Admin.Session
import GridDiffusion.Proofs.Text.Bytes
/-! Streams as lines: a stream is split at its line ends in one way only, and it is split alike
whether it comes as a whole or in pieces. -/
namespace GridDiffusion

/-- A stream as complete lines, each with its end behind it, and a rest in which no line ends. -/
structure IsSplit (bytes : List UInt8) (lines : List (List UInt8)) (rest : List UInt8) : Prop where
  joined : bytes = lines.flatMap (· ++ [lineEnd]) ++ rest
  unbroken : ∀ line ∈ lines, lineEnd ∉ line
  unended : lineEnd ∉ rest

/-- The lines of a stream that has ended: the complete ones, and the rest unless there is none. -/
def AreLines (bytes : List UInt8) (lines : List (List UInt8)) : Prop :=
  ∃ complete rest, IsSplit bytes complete rest ∧
    lines = if rest = [] then complete else complete ++ [rest]

variable {bytes front back line rest more : List UInt8} {lines others : List (List UInt8)}

theorem completeLines_unended (unended : lineEnd ∉ rest) : completeLines rest = ([], rest) := by
  induction rest with
  | nil => rfl
  | cons byte rest ih =>
    simp only [List.mem_cons, not_or] at unended
    obtain ⟨apart, behind⟩ := unended
    have later := ih behind
    rw [completeLines] at later ⊢
    rw [List.foldr_cons, later, putByte, if_neg (Ne.symm apart)]

theorem completeLines_line (unbroken : lineEnd ∉ line) :
    completeLines (line ++ lineEnd :: more) =
      (line :: (completeLines more).1, (completeLines more).2) := by
  induction line with
  | nil => rfl
  | cons byte line ih =>
    simp only [List.mem_cons, not_or] at unbroken
    obtain ⟨apart, behind⟩ := unbroken
    have later := ih behind
    rw [completeLines] at later
    rw [completeLines, List.cons_append, List.foldr_cons, later, putByte, if_neg (Ne.symm apart)]

/-- A stream splits in one way only, and this is the way in which it is split. -/
theorem completeLines_of_isSplit (split : IsSplit bytes lines rest) :
    completeLines bytes = (lines, rest) := by
  obtain ⟨joined, unbroken, unended⟩ := split
  induction lines generalizing bytes with
  | nil => exact joined ▸ completeLines_unended unended
  | cons line lines ih =>
    obtain ⟨first, others⟩ := List.forall_mem_cons.mp unbroken
    rw [joined, List.flatMap_cons, List.append_assoc, List.append_assoc, List.singleton_append,
      completeLines_line first, ih rfl others]

theorem isSplit_completeLines (bytes : List UInt8) :
    IsSplit bytes (completeLines bytes).1 (completeLines bytes).2 := by
  induction bytes with
  | nil => exact ⟨rfl, List.forall_mem_nil _, List.not_mem_nil⟩
  | cons byte bytes ih =>
    have put : completeLines (byte :: bytes) = putByte byte (completeLines bytes) := rfl
    rw [put]
    obtain ⟨joined, unbroken, unended⟩ := ih
    generalize completeLines bytes = split at joined unbroken unended
    obtain ⟨lines, rest⟩ := split
    unfold putByte
    dsimp only at joined unbroken unended ⊢
    split
    next ends => exact ⟨by rw [joined, ends]; rfl,
      List.forall_mem_cons.mpr ⟨List.not_mem_nil, unbroken⟩, unended⟩
    next inside =>
      cases lines with
      | nil => exact ⟨by rw [joined]; rfl, unbroken, List.not_mem_cons_of_ne_of_not_mem
          (Ne.symm inside) unended⟩
      | cons line lines =>
        obtain ⟨first, others⟩ := List.forall_mem_cons.mp unbroken
        exact ⟨by rw [joined]; rfl, List.forall_mem_cons.mpr
          ⟨List.not_mem_cons_of_ne_of_not_mem (Ne.symm inside) first, others⟩, unended⟩

theorem completeLines_eq_iff : completeLines bytes = (lines, rest) ↔ IsSplit bytes lines rest := by
  refine ⟨fun same => ?_, completeLines_of_isSplit⟩
  have split := isSplit_completeLines bytes
  rwa [same] at split

theorem streamLines_eq_iff : streamLines bytes = lines ↔ AreLines bytes lines := by
  have unfolded : streamLines bytes = if (completeLines bytes).2 = [] then (completeLines bytes).1
      else (completeLines bytes).1 ++ [(completeLines bytes).2] := by
    simp only [streamLines, List.isEmpty_iff]
  rw [unfolded]
  constructor
  · rintro rfl
    exact ⟨_, _, isSplit_completeLines bytes, rfl⟩
  · rintro ⟨complete, rest, split, rfl⟩
    rw [completeLines_of_isSplit split]

theorem IsSplit.append (split : IsSplit front lines rest) (next : IsSplit (rest ++ back) others more) :
    IsSplit (front ++ back) (lines ++ others) more where
  joined := by rw [split.joined, List.append_assoc, next.joined, List.flatMap_append,
    List.append_assoc]
  unbroken := List.forall_mem_append.mpr ⟨split.unbroken, next.unbroken⟩
  unended := next.unended

theorem completeLines_append (split : completeLines front = (lines, rest)) :
    completeLines (front ++ back) =
      (lines ++ (completeLines (rest ++ back)).1, (completeLines (rest ++ back)).2) :=
  completeLines_of_isSplit
    ((completeLines_eq_iff.mp split).append (isSplit_completeLines (rest ++ back)))

theorem streamLines_append (split : completeLines front = (lines, rest)) :
    streamLines (front ++ back) = lines ++ streamLines (rest ++ back) := by
  simp only [streamLines, completeLines_append split]
  split
  · rfl
  · exact List.append_assoc ..

def IsLine (bytes : List UInt8) : Prop := ∃ content, bytes = content ++ [lineEnd] ∧ lineEnd ∉ content

theorem streamLines_line (unbroken : lineEnd ∉ line) : streamLines (line ++ [lineEnd]) = [line] :=
  streamLines_eq_iff.mpr ⟨[line], [],
    ⟨by simp, List.forall_mem_singleton.mpr unbroken, List.not_mem_nil⟩, rfl⟩

def IsText (line : List UInt8) : Prop := ∃ text, line = Text.bytes text

theorem isText_iff : isText line = true ↔ IsText line := by
  have same : (⟨line.toArray⟩ : ByteArray) = line.toByteArray := by
    rw [ByteArray.ext_iff, ← Array.toList_inj, List.toList_data_toByteArray]
  rw [isText, same, Option.isSome_iff_exists]
  simp only [Text.fromUTF8?_eq_some_iff, IsText]

end GridDiffusion
