import CppModel.Proofs.Config.Spelling
import Mathlib.Data.List.Perm.Basic
import Mathlib.Data.List.Nodup

/-!
# Reading what is spelled

To read the spelling of an option is to fill a slot of the record, whatever the record holds
by then.  Slots may be filled in any order, and a slot for which nothing need be written is
left by its content as it was in the beginning.

So it does not matter in which order a table gives the options of a configuration, nor which
of those it leaves out that it may leave out: what is read is the configuration.  A list gives
the options in the order of the slots and leaves out the last ones.
-/

namespace CppModel.Config

open Toml (Value Table)

variable {Record : Type}

/-! ## Slots -/

/-- An option of a configuration, and what becomes of a record when it is read. -/
structure Slot (Record : Type) where
  part : Part
  fill : Record → Record

namespace Slot

/-- It does not matter which of the two slots is filled first. -/
def Commute (first second : Slot Record) : Prop :=
  ∀ record, first.fill (second.fill record) = second.fill (first.fill record)

/-- Fill slots one after another. -/
def fillAll (slots : List (Slot Record)) (record : Record) : Record :=
  slots.foldl (fun filled slot => slot.fill filled) record

theorem fillAll_append (slots others : List (Slot Record)) (record : Record) :
    fillAll (slots ++ others) record = fillAll others (fillAll slots record) :=
  List.foldl_append

/-- Slots that commute with each other may be filled in any order. -/
theorem fillAll_perm {slots others : List (Slot Record)} (commute : slots.Pairwise Commute)
    (same : slots.Perm others) (record : Record) :
    fillAll slots record = fillAll others record := by
  have commuteAll : ∀ first ∈ slots, ∀ second ∈ slots, first.Commute second :=
    commute.forall_of_forall_of_flip (fun _ _ _ => rfl)
      (commute.imp fun commutes filled => (commutes filled).symm)
  apply same.foldl_eq'
  intro first isFirst second isSecond filled
  exact commuteAll second isSecond first isFirst filled

theorem fillAll_of_idle {slots : List (Slot Record)} {record : Record}
    (idle : ∀ slot ∈ slots, slot.fill record = record) : fillAll slots record = record := by
  induction slots with
  | nil => rfl
  | cons slot rest inductionHypothesis =>
      rcases List.forall_mem_cons.mp idle with ⟨slotIdle, restIdle⟩
      rw [fillAll, List.foldl_cons, slotIdle]
      exact inductionHypothesis restIdle

end Slot

/-! ## Fields and slots -/

/-- Reading the field fills the slot, and the field is as present as the slot has it.  Only
values that are admitted are looked at. -/
structure Takes (admitted : Value → Prop) (initial : Record) (field : Field Record)
    (slot : Slot Record) : Prop where
  name : field.name = slot.part.name
  read : ∀ value, admitted value → slot.part.IsSpelled value →
    ∀ record, field.read value record = .ok (slot.fill record)
  omittable : slot.part.IsOmittable →
    field.presence ≠ .required ∧ slot.fill initial = initial
  droppable : slot.part.IsDroppable → field.presence = .defaulted ∧ slot.part.IsOmittable

namespace Takes

variable {Content : Type} {admitted : Value → Prop} {initial : Record} {name : String}
  {read : Value → Except Fault Content} {spelled : Value → Prop}

theorem ofRequired {content : Content} {put : Content → Record → Record}
    (reads : ∀ value, admitted value → spelled value → read value = .ok content) :
    Takes admitted initial (.required name read put)
      ⟨.required name spelled, put content⟩ where
  name := rfl
  read value isAdmitted isSpelled record :=
    congrArg (Except.map (put · record)) (reads value isAdmitted isSpelled)
  omittable isOmittable := isOmittable.elim
  droppable isDroppable := isDroppable.elim

theorem ofOptional {content : Option Content} {put : Option Content → Record → Record}
    {spells : Content → Value → Prop}
    (reads : ∀ present ∈ content, ∀ value, admitted value → spells present value →
      read value = .ok present)
    (idle : put none initial = initial) :
    Takes admitted initial (.optional name read put)
      ⟨.optional name content spells, put content⟩ where
  name := rfl
  read value isAdmitted isSpelled record := by
    rcases isSpelled with ⟨present, rfl, spelledPresent⟩
    exact congrArg (Except.map fun read => put (some read) record)
      (reads present rfl value isAdmitted spelledPresent)
  omittable isOmittable := by
    subst isOmittable
    exact ⟨Presence.noConfusion, idle⟩
  droppable isDroppable := isDroppable.elim

theorem ofDefaulted {content standard : Content} {put : Content → Record → Record}
    (reads : ∀ value, admitted value → spelled value → read value = .ok content)
    (idle : put standard initial = initial) :
    Takes admitted initial (.defaulted name read put)
      ⟨.defaulted name content standard spelled, put content⟩ where
  name := rfl
  read value isAdmitted isSpelled record :=
    congrArg (Except.map (put · record)) (reads value isAdmitted isSpelled)
  omittable isOmittable := by
    subst isOmittable
    exact ⟨Presence.noConfusion, idle⟩
  droppable isDroppable := ⟨rfl, isDroppable⟩

end Takes

/-- The schema has a field for every slot, and the slots together make up the configuration. -/
structure Describes (admitted : Value → Prop) (schema : Schema Record)
    (slots : List (Slot Record)) (config : Record) : Prop where
  takes : List.Forall₂ (Takes admitted schema.initial) schema.fields slots
  distinct : schema.fieldNames.Nodup
  commute : slots.Pairwise Slot.Commute
  whole : Slot.fillAll slots schema.initial = config

namespace Schema

variable {admitted : Value → Prop} {initial : Record} {schema : Schema Record}

/-! ## Lists -/

theorem readPositions_nil {fields : List (Field Record)} {dropped : List (Slot Record)}
    (takes : List.Forall₂ (Takes admitted initial) fields dropped)
    (droppable : ∀ slot ∈ dropped, slot.part.IsDroppable) (position : Nat) (record : Record) :
    schema.readPositions position fields [] record = .ok (record, []) := by
  induction takes generalizing position with
  | nil => rfl
  | cons taken _ inductionHypothesis =>
      rcases List.forall_mem_cons.mp droppable with ⟨firstDroppable, restDroppable⟩
      rw [readPositions, if_pos (taken.droppable firstDroppable).1]
      exact inductionHypothesis restDroppable (position + 1)

/-- A list fills the slots whose spellings it gives, from the first one on. -/
theorem readPositions_eq {fields : List (Field Record)} {given dropped : List (Slot Record)}
    {values : List Value}
    (takes : List.Forall₂ (Takes admitted initial) fields (given ++ dropped))
    (spelled : List.Forall₂ (fun slot value => slot.part.IsSpelled value) given values)
    (inside : ∀ value ∈ values, admitted value)
    (droppable : ∀ slot ∈ dropped, slot.part.IsDroppable) (position : Nat) (record : Record) :
    schema.readPositions position fields values record =
      .ok (Slot.fillAll given record, []) := by
  induction spelled generalizing fields position record with
  | nil => exact readPositions_nil takes droppable position record
  | cons firstSpelled _ inductionHypothesis =>
      cases takes with
      | cons taken restTaken =>
          rcases List.forall_mem_cons.mp inside with ⟨firstInside, restInside⟩
          rw [readPositions, taken.read _ firstInside firstSpelled]
          exact inductionHypothesis restTaken restInside (position + 1) _

/-! ## Tables -/

/-- The field of a slot is found by its name. -/
theorem exists_field {fields : List (Field Record)} {slots : List (Slot Record)}
    (takes : List.Forall₂ (Takes admitted initial) fields slots)
    (distinct : (fields.map (·.name)).Nodup) {slot : Slot Record} (isSlot : slot ∈ slots) :
    ∃ field, fields.find? (·.name == slot.part.name) = some field ∧
      Takes admitted initial field slot := by
  induction takes with
  | nil => cases isSlot
  | @cons field first fields rest taken _ inductionHypothesis =>
      rw [List.map_cons, List.nodup_cons] at distinct
      rcases List.mem_cons.mp isSlot with rfl | later
      · exact ⟨field, List.find?_cons_of_pos (by simpa using taken.name), taken⟩
      · rcases inductionHypothesis distinct.2 later with ⟨found, isFound, foundTakes⟩
        have apart : field.name ≠ slot.part.name := by
          intro same
          apply distinct.1
          rw [same, ← foundTakes.name]
          exact List.mem_map_of_mem (List.mem_of_find?_eq_some isFound)
        exact ⟨found, by rw [List.find?_cons_of_neg (by simpa using apart), isFound], foundTakes⟩

/-- The slot is one of those that are there, and the entry spells it. -/
structure Fills (admitted : Value → Prop) (slots : List (Slot Record))
    (entry : String × Value) (slot : Slot Record) : Prop where
  isSlot : slot ∈ slots
  name : slot.part.name = entry.1
  isSpelled : slot.part.IsSpelled entry.2
  isAdmitted : admitted entry.2

theorem readEntries_eq {slots chosen : List (Slot Record)} {entries : Table}
    (takes : List.Forall₂ (Takes admitted initial) schema.fields slots)
    (distinct : schema.fieldNames.Nodup)
    (fills : List.Forall₂ (Fills admitted slots) entries chosen) (record : Record) :
    schema.readEntries entries record = .ok (Slot.fillAll chosen record) := by
  induction fills generalizing record with
  | nil => rfl
  | @cons entry slot rest others first _ inductionHypothesis =>
      rcases exists_field takes distinct first.isSlot with ⟨field, found, taken⟩
      rw [first.name] at found
      rw [readEntries, field?, found]
      simp only [taken.read _ first.isAdmitted first.isSpelled]
      exact inductionHypothesis _

/-- Every entry of a spelled table fills a slot. -/
theorem exists_fills {slots : List (Slot Record)} {entries : Table}
    (spelled : ∀ entry ∈ entries, ∃ part ∈ slots.map (·.part),
      part.name = entry.1 ∧ part.IsSpelled entry.2)
    (inside : ∀ entry ∈ entries, admitted entry.2) :
    ∃ chosen, List.Forall₂ (Fills admitted slots) entries chosen := by
  induction entries with
  | nil => exact ⟨[], .nil⟩
  | cons entry rest inductionHypothesis =>
      rcases List.forall_mem_cons.mp spelled with ⟨firstSpelled, restSpelled⟩
      rcases List.forall_mem_cons.mp inside with ⟨firstInside, restInside⟩
      rcases firstSpelled with ⟨_, isPart, name, isSpelled⟩
      rcases List.mem_map.mp isPart with ⟨slot, isSlot, rfl⟩
      rcases inductionHypothesis restSpelled restInside with ⟨chosen, fills⟩
      exact ⟨slot :: chosen, .cons ⟨isSlot, name, isSpelled, firstInside⟩ fills⟩

section Choosing

variable {slots chosen : List (Slot Record)} {entries : Table}
  (fills : List.Forall₂ (Fills admitted slots) entries chosen)

include fills

theorem map_name_of_fills : chosen.map (·.part.name) = entries.map (·.1) := by
  induction fills with
  | nil => rfl
  | cons first _ inductionHypothesis =>
      rw [List.map_cons, List.map_cons, first.name, inductionHypothesis]

theorem mem_of_fills : ∀ slot ∈ chosen, slot ∈ slots := by
  induction fills with
  | nil => simp
  | cons first _ inductionHypothesis =>
      exact List.forall_mem_cons.mpr ⟨first.isSlot, inductionHypothesis⟩

/-- The slots are those that the entries fill and those that no entry names. -/
theorem perm_of_fills (distinctSlots : (slots.map (·.part.name)).Nodup)
    (distinctKeys : (entries.map (·.1)).Nodup) :
    slots.Perm (chosen ++ slots.filter fun slot => slot.part.name ∉ entries.map (·.1)) := by
  have named : chosen.Perm (slots.filter fun slot => slot.part.name ∈ entries.map (·.1)) := by
    rw [← map_name_of_fills fills] at distinctKeys ⊢
    apply (List.perm_ext_iff_of_nodup distinctKeys.of_map (distinctSlots.of_map.filter _)).mpr
    intro slot
    rw [List.mem_filter, decide_eq_true_eq]
    constructor
    · intro isChosen
      exact ⟨mem_of_fills fills slot isChosen, List.mem_map_of_mem isChosen⟩
    · rintro ⟨isSlot, isNamed⟩
      rcases List.mem_map.mp isNamed with ⟨other, isChosen, sameName⟩
      have same : other = slot :=
        List.inj_on_of_nodup_map distinctSlots (mem_of_fills fills other isChosen) isSlot sameName
      exact same ▸ isChosen
  have parted := List.filter_append_perm (fun slot => slot.part.name ∈ entries.map (·.1)) slots
  simp only [← decide_not] at parted
  exact parted.symm.trans (named.symm.append_right _)

end Choosing

theorem map_name_of_takes {fields : List (Field Record)} {slots : List (Slot Record)}
    (takes : List.Forall₂ (Takes admitted initial) fields slots) :
    slots.map (·.part.name) = fields.map (·.name) := by
  induction takes with
  | nil => rfl
  | cons taken _ inductionHypothesis =>
      rw [List.map_cons, List.map_cons, taken.name, inductionHypothesis]

/-- No required field is missing where only omittable options are left out. -/
theorem not_missing {fields : List (Field Record)} {slots : List (Slot Record)}
    {entries : Table} (takes : List.Forall₂ (Takes admitted initial) fields slots)
    (complete : ∀ slot ∈ slots,
      slot.part.name ∈ entries.map (·.1) ∨ slot.part.IsOmittable) :
    ∀ field ∈ fields,
      ¬ (field.presence == .required && !entries.any (·.1 == field.name)) = true := by
  induction takes with
  | nil => simp
  | @cons field slot _ _ taken _ inductionHypothesis =>
      rcases List.forall_mem_cons.mp complete with ⟨first, rest⟩
      refine List.forall_mem_cons.mpr ⟨?_, inductionHypothesis rest⟩
      rcases first with isGiven | isOmittable
      · rcases List.mem_map.mp isGiven with ⟨entry, listed, sameName⟩
        have isThere : entries.any (·.1 == field.name) = true :=
          List.any_eq_true.mpr ⟨entry, listed, by rw [taken.name, sameName, beq_self_eq_true]⟩
        rw [isThere]
        simp
      · simp [(taken.omittable isOmittable).1]

end Schema

/-! ## Records -/

/-- The values that stand in a list or under the keys of a table. -/
def contents : Value → List Value
  | .list values => values
  | .table entries => entries.map (·.2)
  | _ => []

namespace Describes

variable {admitted : Value → Prop} {schema : Schema Record} {slots : List (Slot Record)}
  {config : Record}

/-- Filling some slots makes up the configuration, if the others are idle. -/
theorem fillAll_eq (described : Describes admitted schema slots config)
    {given omitted : List (Slot Record)} (same : slots.Perm (given ++ omitted))
    (idle : ∀ slot ∈ omitted, slot.fill schema.initial = schema.initial) :
    Slot.fillAll given schema.initial = config := by
  have swapped : slots.Perm (omitted ++ given) := same.trans List.perm_append_comm
  rw [← described.whole, Slot.fillAll_perm described.commute swapped, Slot.fillAll_append,
    Slot.fillAll_of_idle idle]

theorem idle_of_omittable (described : Describes admitted schema slots config)
    {slot : Slot Record} (isSlot : slot ∈ slots) (isOmittable : slot.part.IsOmittable) :
    slot.fill schema.initial = schema.initial := by
  rcases Schema.exists_field described.takes described.distinct isSlot with ⟨_, _, taken⟩
  exact (taken.omittable isOmittable).2

/-- A table that spells the configuration is read as the configuration. -/
theorem readTable_eq (described : Describes admitted schema slots config) {entries : Table}
    (distinct : (entries.map (·.1)).Nodup)
    (spelled : ∀ entry ∈ entries, ∃ part ∈ slots.map (·.part),
      part.name = entry.1 ∧ part.IsSpelled entry.2)
    (complete : ∀ part ∈ slots.map (·.part),
      part.name ∈ entries.map (·.1) ∨ part.IsOmittable)
    (inside : ∀ entry ∈ entries, admitted entry.2) : schema.readTable entries = .ok config := by
  have sorted : (Schema.sortEntries entries).Perm entries := List.mergeSort_perm entries _
  rcases Schema.exists_fills (fun entry listed => spelled entry (sorted.mem_iff.mp listed))
    (fun entry listed => inside entry (sorted.mem_iff.mp listed)) with ⟨chosen, fills⟩
  have distinctSlots : (slots.map (·.part.name)).Nodup := by
    rw [Schema.map_name_of_takes described.takes]
    exact described.distinct
  have distinctKeys : ((Schema.sortEntries entries).map (·.1)).Nodup :=
    ((sorted.map _).nodup_iff).mpr distinct
  rw [List.forall_mem_map] at complete
  have whole : Slot.fillAll chosen schema.initial = config := by
    apply described.fillAll_eq (Schema.perm_of_fills fills distinctSlots distinctKeys)
    intro slot isOmitted
    rcases List.mem_filter.mp isOmitted with ⟨isSlot, notNamed⟩
    rw [decide_eq_true_eq, (sorted.map _).mem_iff] at notNamed
    exact described.idle_of_omittable isSlot ((complete slot isSlot).resolve_left notNamed)
  have nothingMissing : schema.missing? entries = none := by
    rw [Schema.missing?, Option.map_eq_none_iff, List.find?_eq_none]
    exact Schema.not_missing described.takes complete
  rw [Schema.readTable, Schema.readEntries_eq described.takes described.distinct fills, whole]
  simp only [bind, Except.bind, nothingMissing]
  rfl

/-- A list that spells the configuration is read as the configuration. -/
theorem readFields_eq (described : Describes admitted schema slots config)
    {given dropped : List (Slot Record)} (isParted : slots = given ++ dropped)
    {values : List Value}
    (spelled : List.Forall₂ (fun slot value => slot.part.IsSpelled value) given values)
    (droppable : ∀ slot ∈ dropped, slot.part.IsDroppable)
    (inside : ∀ value ∈ values, admitted value) (surplus : Surplus) :
    schema.readFields surplus values = .ok config := by
  subst isParted
  have whole : Slot.fillAll given schema.initial = config := by
    apply described.fillAll_eq (List.Perm.refl _)
    intro slot isDropped
    have isSlot : slot ∈ given ++ dropped := List.mem_append_right given isDropped
    rcases Schema.exists_field described.takes described.distinct isSlot with ⟨_, _, taken⟩
    exact (taken.omittable (taken.droppable (droppable slot isDropped)).2).2
  rw [Schema.readFields, Schema.readPositions_eq described.takes spelled inside droppable, whole]
  rfl

/-- What spells the configuration is read as the configuration, whether it is a table or a
list. -/
theorem read_eq (described : Describes admitted schema slots config) {value : Value}
    (spelled : SpellsRecord (slots.map (·.part)) value)
    (inside : ∀ inner ∈ contents value, admitted inner) (surplus : Surplus) :
    schema.read surplus value = .ok config := by
  generalize partsEq : slots.map (·.part) = parts at spelled
  cases spelled with
  | table distinct isSpelled complete =>
      subst partsEq
      exact described.readTable_eq distinct isSpelled complete (List.forall_mem_map.mp inside)
  | list isSpelled droppable =>
      rcases List.map_eq_append_iff.mp partsEq with ⟨given, dropped, isParted, rfl, rfl⟩
      rw [List.forall₂_map_left_iff] at isSpelled
      exact described.readFields_eq isParted isSpelled (List.forall_mem_map.mp droppable) inside
        surplus

end Describes

end CppModel.Config
