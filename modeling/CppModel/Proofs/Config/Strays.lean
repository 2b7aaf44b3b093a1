import CppModel.Proofs.Config.Decoding

/-!
# Keys that are no options

A key that no configuration knows is not passed over.  It may stand in the table of a class
or in that of anything in the class, at any depth and below records that are spelled by
lists: reading cannot get past the table that it stands in, so the class is refused.

The other half is that nothing else is in the way.  A table that spells a class is read as
the class.
-/

namespace CppModel.Config

open Toml (Value Table)

/-! ## Stray keys -/

/-- The record has a value under a key.  A list has its values under the names of the
fields, in order. -/
inductive Holds (names : List String) : Value → String → Value → Prop
  | table {entries : Table} {key : String} {inner : Value} (listed : (key, inner) ∈ entries) :
      Holds names (.table entries) key inner
  | list {values : List Value} {key : String} {inner : Value} (index : Nat)
      (named : names[index]? = some key) (listed : values[index]? = some inner) :
      Holds names (.list values) key inner

/-- The record has a value under a key that is no field. -/
def HasStray (names : List String) (value : Value) : Prop :=
  ∃ key inner, key ∉ names ∧ Holds names value key inner

namespace ClassConfig

/-- The names of the fields of a class. -/
def names : List String :=
  (default : ClassConfig).parts.map (·.name)

/-- The names of the fields of what a class lists under a key, nested classes apart. -/
def memberNames? : String → Option (List String)
  | "enums" => some ((default : EnumConfig).parts.map (·.name))
  | "constructors" => some ((default : ConstructorConfig).parts.map (·.name))
  | "methods" => some ((default : MethodConfig).parts.map (·.name))
  | "variables" => some ((default : VariableConfig).parts.map (·.name))
  | "arrays" => some ((default : ArrayConfig).parts.map (·.name))
  | _ => none

/-- Somewhere in the class, a table has a key that is no field of what it stands for. -/
inductive HasStrayKey : Value → Prop
  | own {value : Value} (stray : HasStray names value) : HasStrayKey value
  | member {value item : Value} {items : List Value} {key : String} {memberNames : List String}
      (isMember : memberNames? key = some memberNames) (held : Holds names value key (.list items))
      (isItem : item ∈ items) (stray : HasStray memberNames item) : HasStrayKey value
  | nested {value item : Value} {items : List Value}
      (held : Holds names value "classes" (.list items)) (isItem : item ∈ items)
      (stray : HasStrayKey item) : HasStrayKey value

end ClassConfig

/-! ## Failing -/

/-- Reading has come to a fault. -/
def Fails {Result : Type} (outcome : Except Fault Result) : Prop :=
  ∃ fault, outcome = .error fault

section Failing

variable {First Second : Type} {first : Except Fault First} {second : First → Except Fault Second}

theorem Fails.bind (failed : Fails first) : Fails (first >>= second) := by
  rcases failed with ⟨fault, rfl⟩
  exact ⟨fault, rfl⟩

theorem fails_bind_of_forall (failed : ∀ found, Fails (second found)) :
    Fails (first >>= second) := by
  cases first with
  | error fault => exact ⟨fault, rfl⟩
  | ok found => exact failed found

theorem Fails.map {change : First → Second} (failed : Fails first) : Fails (first.map change) := by
  rcases failed with ⟨fault, rfl⟩
  exact ⟨fault, rfl⟩

end Failing

theorem fails_readItems {Item : Type} {read : Value → Except Fault Item} {items : List Value}
    {item : Value} (isItem : item ∈ items) (failed : Fails (read item)) :
    Fails (readItems read items) := by
  induction items with
  | nil => cases isItem
  | cons first rest inductionHypothesis =>
      rw [readItems]
      rcases List.mem_cons.mp isItem with rfl | later
      · exact failed.bind
      · exact fails_bind_of_forall fun _ => (inductionHypothesis later).bind

namespace Schema

variable {Record : Type} {schema : Schema Record} {key : String} {inner : Value}

/-- Every field of the name refuses the value. -/
def Refuses (fields : List (Field Record)) (key : String) (inner : Value) : Prop :=
  ∀ field ∈ fields, field.name = key → ∀ record, Fails (field.read inner record)

theorem fails_readEntries {entries : Table} (refuses : Refuses schema.fields key inner)
    (listed : (key, inner) ∈ entries) (record : Record) :
    Fails (schema.readEntries entries record) := by
  induction entries generalizing record with
  | nil => cases listed
  | cons entry rest inductionHypothesis =>
      rw [readEntries]
      split
      · exact ⟨_, rfl⟩
      next field found =>
        rcases List.mem_cons.mp listed with rfl | later
        · have named : field.name = key := by simpa using List.find?_some found
          exact (refuses field (List.mem_of_find?_eq_some found) named record).bind
        · exact fails_bind_of_forall (inductionHypothesis later)

theorem fails_readPositions {fields : List (Field Record)} {values : List Value} {index : Nat}
    (refuses : Refuses fields key inner) (named : (fields.map (·.name))[index]? = some key)
    (listed : values[index]? = some inner) (position : Nat) (record : Record) :
    Fails (schema.readPositions position fields values record) := by
  induction fields generalizing values index position record with
  | nil => simp at named
  | cons field rest inductionHypothesis =>
      cases values with
      | nil => simp at listed
      | cons value others =>
          rw [readPositions]
          cases index with
          | zero =>
              cases listed
              exact (refuses field List.mem_cons_self (Option.some.inj named) record).bind
          | succ index =>
              have restRefuses : Refuses rest key inner :=
                fun other isOther => refuses other (List.mem_cons_of_mem _ isOther)
              exact fails_bind_of_forall
                (inductionHypothesis restRefuses named listed (position + 1))

/-- A record is not read if it has a value that is refused. -/
theorem fails_read {value : Value} (refuses : Refuses schema.fields key inner)
    (held : Holds schema.fieldNames value key inner) (surplus : Surplus) :
    Fails (schema.read surplus value) := by
  cases held with
  | table listed =>
      rw [read, readTable]
      have sorted : (key, inner) ∈ sortEntries _ := (List.mergeSort_perm _ _).mem_iff.mpr listed
      exact (fails_readEntries refuses sorted schema.initial).bind
  | list index named listed =>
      rw [read, readFields]
      exact (fails_readPositions refuses named listed 0 schema.initial).bind

theorem fails_read_of_hasStray {value : Value} (stray : HasStray schema.fieldNames value)
    (surplus : Surplus) : Fails (schema.read surplus value) := by
  rcases stray with ⟨key, inner, isStray, held⟩
  have refuses : Refuses schema.fields key inner := by
    rintro field isField rfl
    exact absurd (List.mem_map_of_mem isField) isStray
  exact fails_read refuses held surplus

/-- A record is not read if one of its lists has an item that is not. -/
theorem fails_read_of_item {Item : Type} {read : Value → Except Fault Item}
    {put : List Item → Record → Record} {value item : Value} {items : List Value}
    (distinct : schema.fieldNames.Nodup)
    (isField : Field.defaulted key (readList read) put ∈ schema.fields)
    (held : Holds schema.fieldNames value key (.list items)) (isItem : item ∈ items)
    (failed : Fails (read item)) (surplus : Surplus) : Fails (schema.read surplus value) := by
  apply fails_read _ held
  intro field isOther sameName record
  have same : field = .defaulted key (readList read) put :=
    List.inj_on_of_nodup_map distinct isOther isField sameName
  subst same
  exact (fails_readItems isItem failed).map

end Schema

namespace ClassConfig

/-- What a class lists under a key is not read if one of the items has a stray key. -/
theorem fails_read_of_member {surplus : Surplus} {readNested : Value → Except Fault ClassConfig}
    {value item : Value} {items : List Value} {key : String} {memberNames : List String}
    (isMember : memberNames? key = some memberNames)
    (held : Holds names value key (.list items)) (isItem : item ∈ items)
    (stray : HasStray memberNames item) :
    Fails ((schema surplus readNested).read surplus value) := by
  have distinct := nodup_fieldNames surplus readNested
  have fails {Item : Type} {members : Schema Item} {put : List Item → ClassConfig → ClassConfig}
      (index : Nat) (isField : (schema surplus readNested).fields[index]? =
        some (.defaulted key (readList (members.read surplus)) put))
      (sameNames : members.fieldNames = memberNames) :
      Fails ((schema surplus readNested).read surplus value) := by
    subst sameNames
    exact Schema.fails_read_of_item distinct (List.mem_of_getElem? isField) held isItem
      (Schema.fails_read_of_hasStray stray surplus) surplus
  unfold memberNames? at isMember
  split at isMember
  · cases isMember
    exact fails 4 rfl rfl
  · cases isMember
    exact fails 6 rfl rfl
  · cases isMember
    exact fails 7 rfl rfl
  · cases isMember
    exact fails 8 rfl rfl
  · cases isMember
    exact fails 9 rfl rfl
  · cases isMember

/-- A class with a stray key is not read, however deep the schema is unrolled. -/
theorem HasStrayKey.fails_readWithin {value : Value} (stray : HasStrayKey value)
    (surplus : Surplus) (depth : Nat) : Fails (readWithin surplus depth value) := by
  induction stray generalizing depth with
  | own stray =>
      cases depth with
      | zero => exact ⟨_, rfl⟩
      | succ depth =>
          have namesEq : names = (schema surplus (readWithin surplus depth)).fieldNames := rfl
          rw [namesEq] at stray
          exact Schema.fails_read_of_hasStray stray surplus
  | member isMember held isItem stray =>
      cases depth with
      | zero => exact ⟨_, rfl⟩
      | succ depth => exact fails_read_of_member isMember held isItem stray
  | nested held isItem _ inductionHypothesis =>
      cases depth with
      | zero => exact ⟨_, rfl⟩
      | succ depth =>
          have distinct := nodup_fieldNames surplus (readWithin surplus depth)
          have isField := @List.mem_of_getElem? _
            (schema surplus (readWithin surplus depth)).fields 5 _ rfl
          exact Schema.fails_read_of_item distinct isField held isItem (inductionHypothesis depth)
            surplus

/-- Tables of classes are decoded exactly.

A table that spells a class, with everything in the class spelled by tables or by lists, is
read as the class, as long as the sizes of its arrays fit into 64 bits with a sign.  A table
in which some key is no field of what its table stands for, at whatever depth, is refused as
a wrong configuration of a class. -/
theorem decodes_exactly :
    (∀ (config : ClassConfig) (entries : Table), config.Everywhere ClassOptions.SizesFit →
      config.Spells (.table entries) → fromTable entries = .ok config) ∧
      ∀ entries : Table, HasStrayKey (.table entries) →
        ∃ fault, fromTable entries = .error (.misconfigured .classType fault) := by
  constructor
  · intro config entries fits spelled
    exact fromTable_eq fits spelled
  · intro entries stray
    rcases stray.fails_readWithin .refused (Value.depth (.table entries)) with ⟨fault, failed⟩
    have refused : readTable entries = .error fault := failed
    refine ⟨fault, ?_⟩
    rw [fromTable, configure, refused]
    rfl

/-! ### A cabinet

A class whose enumeration and nested class are spelled by lists, the latter up to its last
option without a default, and whose array is spelled by a table. -/

/-- The enumeration, without the options that keep their defaults. -/
def wood : EnumConfig where
  name := "Wood"
  mark := "k"
  items := ["Oak"]
  documentation := "The wood."

/-- The array, which has a size and no items. -/
def doors : ArrayConfig where
  name := "m_doors"
  type := "Door"
  size := some 2

/-- The class inside, which is a struct. -/
def door : ClassConfig where
  options := { name := "Door", isStruct := true, base := "Panel", documentation := "One." }
  classes := []

/-- The class around it. -/
def cabinet : ClassConfig where
  options := { name := "Cabinet", enums := [wood], arrays := [doors] }
  classes := [door]

/-- A table that spells the class, with its options in another order. -/
def cabinetTable : Table :=
  [("classes", .list [.list
      [.string "Door", .boolean true, .string "Panel", .string "One."]]),
    ("name", .string "Cabinet"),
    ("arrays", .list [.table
      [("size", .integer 2), ("type", .string "Door"), ("name", .string "m_doors")]]),
    ("enums", .list [.list
      [.string "Wood", .string "k", .boolean false, .list [.string "Oak"],
        .string "The wood."]])]

theorem spells_wood :
    wood.Spells (.list [.string "Wood", .string "k", .boolean false, .list [.string "Oak"],
      .string "The wood."]) := by
  rw [EnumConfig.Spells, ← List.append_nil wood.parts]
  refine .list ?_ (by simp)
  simp [EnumConfig.parts, wood, Part.required, Part.optional, Part.defaulted, SpellsText,
    SpellsFlag, SpellsTexts, SpellsList]

theorem spells_doors :
    doors.Spells (.table
      [("size", .integer 2), ("type", .string "Door"), ("name", .string "m_doors")]) := by
  refine .table (by decide) ?_ ?_
  · simp [ArrayConfig.parts, doors, Part.required, Part.optional, Part.defaulted, SpellsText,
      SpellsSize]
  · simp [ArrayConfig.parts, doors, Part.required, Part.optional, Part.defaulted]

theorem spells_door :
    door.Spells (.list [.string "Door", .boolean true, .string "Panel", .string "One."]) := by
  rw [spells_iff, ← List.take_append_drop 4 door.parts]
  refine .list ?_ ?_
  · simp [parts, partsWith, door, Part.required, Part.optional, Part.defaulted, SpellsText,
      SpellsFlag]
  · simp [parts, partsWith, door, Part.defaulted]

theorem spells_cabinet : cabinet.Spells (.table cabinetTable) := by
  rw [spells_iff]
  refine .table (by decide) ?_ ?_
  · simp [parts, partsWith, cabinet, cabinetTable, Part.required, Part.optional, Part.defaulted,
      SpellsText, SpellsList]
    exact ⟨spells_door, spells_doors, spells_wood⟩
  · simp [parts, partsWith, cabinet, cabinetTable, Part.required, Part.optional, Part.defaulted]

/-- A method with a modifier that there is not. -/
def volatileTable : Table :=
  [("name", .string "A"),
    ("methods", .list [.table [("name", .string "f"), ("is_volatile", .boolean true)]])]

theorem cabinet_is_decoded :
    cabinet.Everywhere ClassOptions.SizesFit ∧ cabinet.Spells (.table cabinetTable) ∧
      fromTable cabinetTable = .ok cabinet ∧ HasStrayKey (.table volatileTable) ∧
      ∃ fault, fromTable volatileTable = .error (.misconfigured .classType fault) := by
  have fits : cabinet.Everywhere ClassOptions.SizesFit := by
    refine .intro ?_ ?_
    · simp [ClassOptions.SizesFit, doors, numberLimit]
    · intro inner isInner
      rw [List.mem_singleton.mp isInner]
      exact .intro (by simp [ClassOptions.SizesFit]) (by simp)
  have stray : HasStrayKey (.table volatileTable) := by
    have isStray : HasStray ((default : MethodConfig).parts.map (·.name))
        (.table [("name", .string "f"), ("is_volatile", .boolean true)]) :=
      ⟨"is_volatile", .boolean true, by decide, .table (by simp)⟩
    have held : Holds names (.table volatileTable) "methods"
        (.list [.table [("name", .string "f"), ("is_volatile", .boolean true)]]) :=
      .table (by simp [volatileTable])
    exact .member (by rfl) held List.mem_cons_self isStray
  exact ⟨fits, spells_cabinet, decodes_exactly.1 cabinet cabinetTable fits spells_cabinet, stray,
    decodes_exactly.2 volatileTable stray⟩

end ClassConfig

end CppModel.Config
