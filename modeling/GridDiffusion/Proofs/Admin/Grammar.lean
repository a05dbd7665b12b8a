import GridDiffusion.Admin.Command
import GridDiffusion.Proofs.Json.Line
import GridDiffusion.Proofs.Message.Grammar
/-! The grammar of commands: which trees are tagged and with what, which of them are a command, and
which lines are none. -/
namespace GridDiffusion

namespace Json.Tree

/-- A tree with the tag of a variant, and what is left without it: an object that has one member of
the tag's name, or an array whose first item is the name of the variant. -/
inductive IsTagged (tag name : String) : Tree → Tree → Prop
  | object {before after : List (Spelling × Tree)} {spelling : Spelling} {own : Tree}
    (tagging : spelling.Means tag.toList) (named : own.IsText name)
    (single : ∀ member ∈ before ++ after, ¬ member.1.Means tag.toList) :
    IsTagged tag name (.object (before ++ (spelling, own) :: after)) (.object (before ++ after))
  | array {own : Tree} {items : List Tree} (named : own.IsText name) :
    IsTagged tag name (.array (own :: items)) (.array items)

/-- Nothing is left that a variant without fields could not have: any object, or an empty array. -/
inductive IsBare : Tree → Prop
  | object (members : List (Spelling × Tree)) : IsBare (.object members)
  | array : IsBare (.array [])

variable {tag name : String} {tree fields : Tree}

section Split

variable {Entry : Type} {keep : Entry → Bool} {one : Entry} {before after : List Entry}

theorem exists_of_filter_eq_singleton {entries : List Entry} (found : entries.filter keep = [one]) :
    ∃ before after, entries = before ++ one :: after ∧ keep one = true ∧
      ∀ other ∈ before ++ after, keep other = false := by
  obtain ⟨before, after, same, front, kept, back⟩ := List.filter_eq_cons_iff.mp found
  refine ⟨before, after, same, kept, List.forall_mem_append.mpr ⟨fun other inside => ?_, ?_⟩⟩
  · exact Bool.eq_false_iff.mpr (front other inside)
  · exact fun other inside => Bool.eq_false_iff.mpr (List.filter_eq_nil_iff.mp back other inside)

theorem filter_single (kept : keep one = true) (others : ∀ other ∈ before ++ after, keep other = false) :
    (before ++ one :: after).filter keep = [one] ∧
      (before ++ one :: after).filter (fun entry => !keep entry) = before ++ after := by
  obtain ⟨front, back⟩ := List.forall_mem_append.mp others
  constructor
  · rw [List.filter_append, List.filter_cons_of_pos kept,
      List.filter_eq_nil_iff.mpr fun other inside => Bool.eq_false_iff.mp (front other inside),
      List.filter_eq_nil_iff.mpr fun other inside => Bool.eq_false_iff.mp (back other inside),
      List.nil_append]
  · rw [List.filter_append, List.filter_cons_of_neg (by simp [kept]), ← List.filter_append,
      List.filter_eq_self]
    exact fun other inside => by rw [others other inside, Bool.not_false]

end Split

def isTag (tag : String) (member : Spelling × Tree) : Bool := member.1.text? = some tag

theorem isTag_eq_true_iff {member : Spelling × Tree} :
    isTag tag member = true ↔ member.1.Means tag.toList := by
  rw [isTag, decide_eq_true_iff, Spelling.text?_eq_some_iff]

theorem isTag_eq_false_iff {member : Spelling × Tree} :
    isTag tag member = false ↔ ¬ member.1.Means tag.toList := by
  rw [← isTag_eq_true_iff, Bool.not_eq_true]

theorem tagged?_object (tag : String) (members : List (Spelling × Tree)) :
    (object members).tagged? tag =
      match members.filter (isTag tag) with
      | [(_, tree)] =>
        tree.text?.map (·, .object (members.filter fun member => !isTag tag member))
      | _ => none := by
  simp only [tagged?, decide_not]
  rfl

theorem tagged?_eq_some_iff :
    tree.tagged? tag = some (name, fields) ↔ tree.IsTagged tag name fields := by
  constructor
  · intro split
    cases tree with
    | array items =>
      cases items with
      | nil => cases split
      | cons own items =>
        obtain ⟨text, read, same⟩ := Option.map_eq_some_iff.mp split
        cases same
        exact .array (text?_eq_some_iff.mp read)
    | object members =>
      rw [tagged?_object] at split
      split at split
      next spelling own found =>
        obtain ⟨text, read, same⟩ := Option.map_eq_some_iff.mp split
        cases same
        obtain ⟨before, after, rfl, kept, others⟩ := exists_of_filter_eq_singleton found
        rw [(filter_single kept others).2]
        exact .object (isTag_eq_true_iff.mp kept) (text?_eq_some_iff.mp read)
          fun member inside => isTag_eq_false_iff.mp (others member inside)
      · cases split
    | _ => cases split
  · intro tagged
    cases tagged with
    | array named => rw [tagged?, text?_eq_some_iff.mpr named, Option.map_some]
    | @object before after spelling own tagging named single =>
      have kept : isTag tag (spelling, own) = true := isTag_eq_true_iff.mpr tagging
      obtain ⟨found, left⟩ := filter_single kept fun member inside =>
        isTag_eq_false_iff.mpr (single member inside)
      rw [tagged?_object, found, left]
      simp only [text?_eq_some_iff.mpr named, Option.map_some]

/-- A tree has one tag at most. -/
theorem IsTagged.unique {other : String} {left : Tree} (tagged : tree.IsTagged tag name fields)
    (again : tree.IsTagged tag other left) : other = name ∧ left = fields := by
  have same := (tagged?_eq_some_iff.mpr again).symm.trans (tagged?_eq_some_iff.mpr tagged)
  cases same
  exact ⟨rfl, rfl⟩

theorem isBare_iff : tree.isBare = true ↔ tree.IsBare := by
  constructor
  · intro bare
    cases tree with
    | object members => exact .object members
    | array items => exact List.isEmpty_iff.mp bare ▸ .array
    | _ => cases bare
  · rintro (_ | _) <;> rfl

theorem Gives.unique {repeats : Repeats} {names : List String} {field other : Tree}
    (record : tree.IsRecord repeats names) (distinct : names.Nodup)
    (gives : tree.Gives names name field) (again : tree.Gives names name other) : other = field := by
  obtain ⟨read, found⟩ := Option.isSome_iff_exists.mp (isSome_record?_iff.mpr record)
  have first := (get?_record_iff found distinct).mpr gives
  have second := (get?_record_iff found distinct).mpr again
  exact Option.some.inj (second.symm.trans first)

/-- What a record gives for a field is as asked, also where it may be left out. -/
theorem Permits.suits {repeats : Repeats} {names : List String} {field : Tree} {Absent : Prop}
    {Suits : Tree → Prop} (permits : tree.Permits names name Absent Suits)
    (record : tree.IsRecord repeats names) (distinct : names.Nodup)
    (gives : tree.Gives names name field) : Suits field := by
  rcases permits with ⟨other, again, suits⟩ | ⟨absent, -⟩
  · exact gives.unique record distinct again ▸ suits
  · exact absurd gives (absent field)

end Json.Tree

open Json

namespace AdminCommand

def injectionNames : List String := ["info_id", "content", "energy"]

/-- The fields of an injection: an id and, where they are not left out, a content and an energy. -/
structure IsInjection (id content : String) (energy : UInt64) (fields : Tree) : Prop where
  record : fields.IsRecord .refused injectionNames
  id : fields.Requires injectionNames "info_id" (Tree.IsText id)
  content : fields.Permits injectionNames "content" ("" = content) (Tree.IsText content)
  energy : fields.Permits injectionNames "energy" (defaultEnergy = energy)
    (Tree.IsWhole energy.toNat)

/-- A command as a tree that its name tags. -/
inductive IsOf : AdminCommand → Tree → Prop
  | bare {command : AdminCommand} {tree fields : Tree} (simple : command ∈ bare)
    (tagged : tree.IsTagged "cmd" command.name fields) (nothing : fields.IsBare) : IsOf command tree
  | inject {id content : String} {energy : UInt64} {tree fields : Tree}
    (tagged : tree.IsTagged "cmd" "inject" fields) (shown : IsInjection id content energy fields) :
    IsOf (.inject id content energy) tree

/-- A line is a command: a document that has a value, and the command is that value. -/
def IsSpelled (command : AdminCommand) (line : List UInt8) : Prop :=
  ∃ tree : Tree, tree.IsDocument line ∧ tree.HasMeaning depthLimit ∧ command.IsOf tree

theorem nodup_injectionNames : injectionNames.Nodup := by decide

theorem bareOfName?_name {command : AdminCommand} (simple : command ∈ bare) :
    bareOfName? command.name = some command := by
  revert command
  decide

theorem bareOfName?_eq_some_iff {name : String} {command : AdminCommand} :
    bareOfName? name = some command ↔ command ∈ bare ∧ command.name = name := by
  constructor
  · intro found
    have same := List.find?_some found
    exact ⟨List.mem_of_find?_eq_some found, eq_of_beq same⟩
  · rintro ⟨simple, rfl⟩
    exact bareOfName?_name simple

theorem injectOfTree?_eq_some_iff {fields : Tree} {command : AdminCommand} :
    injectOfTree? fields = some command ↔ ∃ id content energy,
      IsInjection id content energy fields ∧ command = .inject id content energy := by
  constructor
  · intro read
    simp only [injectOfTree?, Option.bind_eq_bind, Option.bind_eq_some_iff, Option.pure_def,
      Option.some.injEq] at read
    obtain ⟨record, found, id, idRead, content, contentRead, energy, energyRead, rfl⟩ := read
    exact ⟨id, content, energy, {
      record := Tree.isSome_record?_iff.mp (Option.isSome_of_eq_some found)
      id := (Tree.required_eq_some_iff found nodup_injectionNames fun _ =>
        Tree.text?_eq_some_iff).mp idRead
      content := (Tree.optional_eq_some_iff found nodup_injectionNames fun _ =>
        Tree.text?_eq_some_iff).mp contentRead
      energy := (Tree.optional_eq_some_iff found nodup_injectionNames fun _ =>
        Tree.word?_eq_some_iff).mp energyRead }, rfl⟩
  · rintro ⟨id, content, energy, shown, rfl⟩
    obtain ⟨record, found⟩ := Option.isSome_iff_exists.mp (Tree.isSome_record?_iff.mpr shown.record)
    have idRead := (Tree.required_eq_some_iff found nodup_injectionNames fun _ =>
      Tree.text?_eq_some_iff).mpr shown.id
    have contentRead := (Tree.optional_eq_some_iff found nodup_injectionNames fun _ =>
      Tree.text?_eq_some_iff).mpr shown.content
    have energyRead := (Tree.optional_eq_some_iff found nodup_injectionNames fun _ =>
      Tree.word?_eq_some_iff).mpr shown.energy
    rw [injectOfTree?, ← injectionNames, found]
    simp only [idRead, contentRead, energyRead, Option.bind_eq_bind, Option.bind_some,
      Option.pure_def]

theorem name_ne_inject {command : AdminCommand} (simple : command ∈ bare) :
    command.name ≠ "inject" := by
  revert command
  decide

theorem ofTree?_eq_some_iff {tree : Tree} {command : AdminCommand} :
    ofTree? tree = some command ↔ tree.HasMeaning depthLimit ∧ command.IsOf tree := by
  rw [ofTree?, Option.ite_none_right_eq_some, Tree.isReadable, Tree.isReadable_iff]
  refine and_congr_right fun _ => ?_
  rw [Option.bind_eq_some_iff]
  constructor
  · rintro ⟨⟨name, fields⟩, split, read⟩
    have tagged := Tree.tagged?_eq_some_iff.mp split
    dsimp only at read
    by_cases injecting : name = "inject"
    · rw [if_pos injecting] at read
      obtain ⟨id, content, energy, shown, rfl⟩ := injectOfTree?_eq_some_iff.mp read
      exact .inject (injecting ▸ tagged) shown
    · rw [if_neg injecting] at read
      obtain ⟨nothing, found⟩ := Option.ite_none_right_eq_some.mp read
      obtain ⟨simple, rfl⟩ := bareOfName?_eq_some_iff.mp found
      exact .bare simple tagged (Tree.isBare_iff.mp nothing)
  · intro shown
    cases shown with
    | @bare _ _ fields simple tagged nothing =>
      refine ⟨(command.name, fields), Tree.tagged?_eq_some_iff.mpr tagged, ?_⟩
      dsimp only
      rw [if_neg (name_ne_inject simple), if_pos (Tree.isBare_iff.mpr nothing)]
      exact bareOfName?_eq_some_iff.mpr ⟨simple, rfl⟩
    | @inject _ _ _ _ fields tagged shown =>
      refine ⟨("inject", fields), Tree.tagged?_eq_some_iff.mpr tagged, ?_⟩
      exact injectOfTree?_eq_some_iff.mpr ⟨_, _, _, shown, rfl⟩

/-- What is read as a command is exactly what is spelled as it. -/
theorem ofBytes?_eq_some_iff {line : List UInt8} {command : AdminCommand} :
    ofBytes? line = some command ↔ command.IsSpelled line := by
  simp only [ofBytes?, Option.bind_eq_some_iff, Tree.ofBytes?_eq_some_iff, ofTree?_eq_some_iff,
    IsSpelled]

theorem ofBytes?_eq_none_iff {line : List UInt8} :
    ofBytes? line = none ↔ ∀ command : AdminCommand, ¬ command.IsSpelled line := by
  simp only [← ofBytes?_eq_some_iff, Option.eq_none_iff_forall_ne_some]

/-- What the fields of an injection have to be. -/
def Suits (name : String) (field : Tree) : Prop :=
  if name = "energy" then ∃ energy : UInt64, field.IsWhole energy.toNat
  else ∃ text, field.IsText text

/-- Faults of a line: it is blank or no document, has no tag or one that names no command, or is an
injection without an id or with a field of another kind. -/
inductive IsFaulty (line : List UInt8) : Prop
  | blank (spaces : ∀ byte ∈ line, Token.isSpace byte = true)
  | noDocument (none : ∀ tree : Tree, ¬ tree.IsDocument line)
  | untagged {tree : Tree} (document : tree.IsDocument line)
    (untagged : ∀ name fields, ¬ tree.IsTagged "cmd" name fields)
  | unknown {tree fields : Tree} {name : String} (document : tree.IsDocument line)
    (tagged : tree.IsTagged "cmd" name fields) (foreign : ∀ command : AdminCommand, command.name ≠ name)
  | missing {tree fields : Tree} (document : tree.IsDocument line)
    (tagged : tree.IsTagged "cmd" "inject" fields)
    (absent : ∀ field, ¬ fields.Gives injectionNames "info_id" field)
  | mistyped {tree fields field : Tree} {name : String} (document : tree.IsDocument line)
    (tagged : tree.IsTagged "cmd" "inject" fields) (gives : fields.Gives injectionNames name field)
    (unsuited : ¬ Suits name field)

theorem suits_of_isInjection {id content name : String} {energy : UInt64} {fields field : Tree}
    (shown : IsInjection id content energy fields) (gives : fields.Gives injectionNames name field) :
    Suits name field := by
  have listed : name ∈ injectionNames := by
    cases gives with
    | member listed _ => exact listed
    | item named _ => exact List.mem_of_getElem? named
  simp only [injectionNames, List.mem_cons, List.not_mem_nil, or_false] at listed
  rcases listed with rfl | rfl | rfl
  · exact ⟨id, Tree.Permits.suits (.inl shown.id : fields.Permits _ _ False _) shown.record
      nodup_injectionNames gives⟩
  · exact ⟨content, shown.content.suits shown.record nodup_injectionNames gives⟩
  · exact ⟨energy, shown.energy.suits shown.record nodup_injectionNames gives⟩

theorem IsFaulty.not_isSpelled {line : List UInt8} (faulty : IsFaulty line) (command : AdminCommand) :
    ¬ command.IsSpelled line := by
  rintro ⟨tree, document, -, shown⟩
  have only {other : Tree} (again : other.IsDocument line) : other = tree := by
    have read := Tree.ofBytes?_eq_some_iff.mpr again
    exact Option.some.inj (read.symm.trans (Tree.ofBytes?_eq_some_iff.mpr document))
  cases faulty with
  | blank spaces => exact Tree.not_isDocument_blank spaces tree document
  | noDocument none => exact none tree document
  | untagged again untagged =>
    obtain rfl := only again
    cases shown with
    | bare _ tagged _ | inject tagged _ => exact untagged _ _ tagged
  | @unknown _ _ name again foreignTag foreign =>
    obtain rfl := only again
    cases shown with
    | bare _ tagged _ => exact foreign command (foreignTag.unique tagged).1
    | inject tagged _ => exact foreign (.inject "" "" 0) (foreignTag.unique tagged).1
  | missing again injecting absent =>
    obtain rfl := only again
    cases shown with
    | bare simple tagged _ => exact name_ne_inject simple (injecting.unique tagged).1
    | inject tagged shown =>
      obtain ⟨-, rfl⟩ := injecting.unique tagged
      obtain ⟨field, gives, -⟩ := shown.id
      exact absent field gives
  | mistyped again injecting gives unsuited =>
    obtain rfl := only again
    cases shown with
    | bare simple tagged _ => exact name_ne_inject simple (injecting.unique tagged).1
    | inject tagged shown =>
      obtain ⟨-, rfl⟩ := injecting.unique tagged
      exact unsuited (suits_of_isInjection shown gives)

end AdminCommand
end GridDiffusion
