import CppModel.Proofs.Config.Building
import CppModel.Proofs.Config.Reading

/-!
# Decoding records

Every record has the fields that spell it, in the same order and with the same defaults, so
what spells a record is read as the record.  The records without records inside come first.
A class reads the classes nested in it once more by its own schema, which is unrolled as often
as the value has levels; a nested class lies below at least one level, so the unrolling never
ends too early.
-/

namespace CppModel.Config

open Toml (Value Table)

/-! ## Values -/

theorem readText_eq (text : String) (value : Value) (spelled : SpellsText text value) :
    readText value = .ok text := by
  subst spelled
  rfl

theorem readFlag_eq (flag : Bool) (value : Value) (spelled : SpellsFlag flag value) :
    readFlag value = .ok flag := by
  subst spelled
  rfl

/-- The least number that does not fit into 64 bits with a sign. -/
def numberLimit : Nat := 0x8000000000000000

theorem readSize_eq (size : Nat) (fits : size < numberLimit) (value : Value)
    (spelled : SpellsSize size value) : readSize value = .ok size := by
  subst spelled
  have small : (size : Int) < sizeLimit := by
    unfold numberLimit at fits
    unfold sizeLimit
    omega
  rw [readSize, if_neg (by omega), if_pos small, Int.toNat_natCast]

section Lists

variable {Item : Type} {spells : Item → Value → Prop} {read : Value → Except Fault Item}

theorem readItems_eq {items : List Item} {values : List Value}
    (spelled : List.Forall₂ spells items values)
    (reads : ∀ item ∈ items, ∀ value ∈ values, spells item value → read value = .ok item) :
    readItems read values = .ok items := by
  induction spelled with
  | nil => rfl
  | @cons item value items values first _ inductionHypothesis =>
      have firstRead := reads item List.mem_cons_self value List.mem_cons_self first
      have restRead : readItems read values = .ok items := by
        apply inductionHypothesis
        intro other isItem otherValue isValue
        exact reads other (List.mem_cons_of_mem _ isItem) otherValue
          (List.mem_cons_of_mem _ isValue)
      rw [readItems, firstRead, restRead]
      rfl

theorem readList_eq (items : List Item)
    (reads : ∀ item ∈ items, ∀ value, spells item value → read value = .ok item) (value : Value)
    (spelled : SpellsList spells items value) : readList read value = .ok items := by
  rcases spelled with ⟨values, rfl, isSpelled⟩
  exact readItems_eq isSpelled fun item isItem value _ => reads item isItem value

end Lists

theorem readTexts_eq (texts : List String) (value : Value) (spelled : SpellsTexts texts value) :
    readTexts value = .ok texts :=
  readList_eq texts (fun text _ => readText_eq text) value spelled

/-! ## Fields -/

namespace Takes

variable {Record : Type} {admitted : Value → Prop} {initial : Record} {name : String}

theorem text {put : String → Record → Record} (content : String) :
    Takes admitted initial (.required name readText put)
      ⟨.required name (SpellsText content), put content⟩ :=
  .ofRequired fun value _ => readText_eq content value

theorem optionalText {put : Option String → Record → Record} (content : Option String)
    (idle : put none initial = initial) :
    Takes admitted initial (.optional name readText put)
      ⟨.optional name content SpellsText, put content⟩ :=
  .ofOptional (fun present _ value _ => readText_eq present value) idle

theorem flag {put : Bool → Record → Record} (content : Bool) (idle : put false initial = initial) :
    Takes admitted initial (.defaulted name readFlag put)
      ⟨.defaulted name content false (SpellsFlag content), put content⟩ :=
  .ofDefaulted (fun value _ => readFlag_eq content value) idle

theorem texts {put : List String → Record → Record} (content : List String)
    (idle : put [] initial = initial) :
    Takes admitted initial (.defaulted name readTexts put)
      ⟨.defaulted name content [] (SpellsTexts content), put content⟩ :=
  .ofDefaulted (fun value _ => readTexts_eq content value) idle

theorem optionalTexts {put : Option (List String) → Record → Record}
    (content : Option (List String)) (idle : put none initial = initial) :
    Takes admitted initial (.optional name readTexts put)
      ⟨.optional name content SpellsTexts, put content⟩ :=
  .ofOptional (fun present _ value _ => readTexts_eq present value) idle

theorem items {Item : Type} {spells : Item → Value → Prop} {read : Value → Except Fault Item}
    {put : List Item → Record → Record} (content : List Item)
    (reads : ∀ item ∈ content, ∀ value, spells item value → read value = .ok item)
    (idle : put [] initial = initial) :
    Takes admitted initial (.defaulted name (readList read) put)
      ⟨.defaulted name content [] (SpellsList spells content), put content⟩ :=
  .ofDefaulted (fun value _ => readList_eq content reads value) idle

end Takes

/-- The slots of the flags of a member function. -/
def modifierSlots {Record : Type} (change : (Modifiers → Modifiers) → Record → Record)
    (modifiers : Modifiers) : List (Slot Record) :=
  List.zipWith (fun part modifier => ⟨part, change (·.set modifier (modifiers.has modifier))⟩)
    (modifierParts modifiers)
    [.static, .constexpr, .virtual, .pureVirtual, .const, .override, .final, .inline]

theorem takes_modifiers {Record : Type} {admitted : Value → Prop} {initial : Record}
    {change : (Modifiers → Modifiers) → Record → Record} (modifiers : Modifiers)
    (idle : ∀ modifier, change (·.set modifier false) initial = initial) :
    List.Forall₂ (Takes admitted initial) (modifierFields change)
      (modifierSlots change modifiers) :=
  .cons (.flag modifiers.isStatic (idle _)) <| .cons (.flag modifiers.isConstexpr (idle _)) <|
    .cons (.flag modifiers.isVirtual (idle _)) <|
    .cons (.flag modifiers.isPureVirtual (idle _)) <|
    .cons (.flag modifiers.isConst (idle _)) <| .cons (.flag modifiers.isOverride (idle _)) <|
    .cons (.flag modifiers.isFinal (idle _)) <| .cons (.flag modifiers.isInline (idle _)) .nil

/-! ## Records -/

/-- The schema describes the configuration in the options by which it is spelled.  The slots
follow from the fields and the options, so they need not be written down. -/
def Decodes {Record : Type} (admitted : Value → Prop) (schema : Schema Record) (config : Record)
    (parts : List Part) : Prop :=
  ∃ slots, slots.map (·.part) = parts ∧ Describes admitted schema slots config

/-- No value is left out. -/
def AnyValue (_ : Value) : Prop :=
  True

theorem Decodes.read_eq {Record : Type} {schema : Schema Record} {config : Record}
    {parts : List Part} (decodes : Decodes AnyValue schema config parts) (surplus : Surplus)
    (value : Value) (spelled : SpellsRecord parts value) :
    schema.read surplus value = .ok config := by
  rcases decodes with ⟨slots, rfl, described⟩
  exact described.read_eq spelled (fun _ _ => trivial) surplus

theorem EnumConfig.decodes (config : EnumConfig) :
    Decodes AnyValue EnumConfig.schema config config.parts := by
  have takes : List.Forall₂ (Takes AnyValue schema.initial) schema.fields _ :=
    .cons (.text config.name) <| .cons (.optionalText config.mark rfl) <|
    .cons (.flag config.isScoped rfl) <| .cons (.texts config.items rfl) <|
    .cons (.optionalText config.documentation rfl) .nil
  exact ⟨_, rfl, takes, by decide, by simp [Slot.Commute], rfl⟩

theorem VariableConfig.decodes (config : VariableConfig) :
    Decodes AnyValue VariableConfig.schema config config.parts := by
  have takes : List.Forall₂ (Takes AnyValue schema.initial) schema.fields _ :=
    .cons (.text config.name) <| .cons (.text config.type) <|
    .cons (.flag config.isStatic rfl) <| .cons (.flag config.isConst rfl) <|
    .cons (.flag config.isConstexpr rfl) <| .cons (.flag config.isExtern rfl) <|
    .cons (.optionalText config.value rfl) <| .cons (.optionalText config.documentation rfl) .nil
  exact ⟨_, rfl, takes, by decide, by simp [Slot.Commute], rfl⟩

theorem ArrayConfig.decodes (config : ArrayConfig)
    (fits : ∀ size ∈ config.size, size < numberLimit) :
    Decodes AnyValue ArrayConfig.schema config config.parts := by
  have takes : List.Forall₂ (Takes AnyValue schema.initial) schema.fields _ :=
    .cons (.text config.name) <| .cons (.text config.type) <|
    .cons (.flag config.isStatic rfl) <| .cons (.flag config.isConst rfl) <|
    .cons
      (.ofOptional (fun size isSize value _ => readSize_eq size (fits size isSize) value) rfl) <|
    .cons (.texts config.items rfl) <| .cons (.optionalText config.documentation rfl) .nil
  exact ⟨_, rfl, takes, by decide, by simp [Slot.Commute], rfl⟩

theorem ConstructorConfig.decodes (config : ConstructorConfig) :
    Decodes AnyValue ConstructorConfig.schema config config.parts := by
  have takes : List.Forall₂ (Takes AnyValue schema.initial) schema.fields _ :=
    .cons (.text config.name) <| .cons (.texts config.arguments rfl) <|
    .cons (.texts config.initializers rfl) <|
    .cons (.optionalTexts config.implementation rfl) <|
    .cons (.optionalText config.documentation rfl) <|
    .cons (.optionalText config.returnType rfl) <|
    takes_modifiers config.modifiers (by intro modifier; cases modifier <;> rfl)
  refine ⟨_, rfl, takes, by decide, ?_, ?_⟩
  · simp [Slot.Commute, modifierSlots, modifierParts, Modifiers.set]
  · simp [Slot.fillAll, modifierSlots, modifierParts, Modifiers.set, Modifiers.has]

theorem MethodConfig.decodes (config : MethodConfig) :
    Decodes AnyValue MethodConfig.schema config config.parts := by
  have takes : List.Forall₂ (Takes AnyValue schema.initial) schema.fields _ :=
    List.rel_append
      (List.rel_append
        (.cons (.text config.name) <| .cons (.optionalText config.returnType rfl) .nil)
        (takes_modifiers config.modifiers (by intro modifier; cases modifier <;> rfl)))
      (.cons (.texts config.arguments rfl) <| .cons (.optionalTexts config.implementation rfl) <|
        .cons (.optionalText config.documentation rfl) .nil)
  refine ⟨_, rfl, takes, by decide, ?_, ?_⟩
  · simp [Slot.Commute, modifierSlots, modifierParts, Modifiers.set]
  · simp [Slot.fillAll, modifierSlots, modifierParts, Modifiers.set, Modifiers.has]

/-! ## Classes -/

namespace ClassConfig

/-- Nested classes may be read in any way: the names of the fields stay the same. -/
theorem fieldNames_schema (surplus : Surplus) (readNested : Value → Except Fault ClassConfig) :
    (schema surplus readNested).fieldNames =
      ["name", "is_struct", "parent_class", "documentation", "enums", "classes", "constructors",
        "methods", "variables", "arrays"] :=
  rfl

theorem nodup_fieldNames (surplus : Surplus) (readNested : Value → Except Fault ClassConfig) :
    (schema surplus readNested).fieldNames.Nodup := by
  rw [fieldNames_schema]
  decide

/-- A class is described, given that its nested classes are read from what spells them. -/
theorem decodes {admitted : Value → Prop} {surplus : Surplus}
    {readNested : Value → Except Fault ClassConfig} (config : ClassConfig)
    (fits : ∀ array ∈ config.options.arrays, ∀ size ∈ array.size, size < numberLimit)
    (nested : ∀ value, admitted value → SpellsList Spells config.classes value →
      readList readNested value = .ok config.classes) :
    Decodes admitted (schema surplus readNested) config config.parts := by
  have takes : List.Forall₂ (Takes admitted (schema surplus readNested).initial)
      (schema surplus readNested).fields _ :=
    .cons (.text config.options.name) <|
    .cons (.flag config.options.isStruct rfl) <|
    .cons (.optionalText config.options.base rfl) <|
    .cons (.optionalText config.options.documentation rfl) <|
    .cons (.items config.options.enums (fun inner _ => inner.decodes.read_eq surplus) rfl) <|
    .cons (.ofDefaulted nested rfl) <|
    .cons (.items config.options.constructors (fun inner _ => inner.decodes.read_eq surplus) rfl) <|
    .cons (.items config.options.methods (fun inner _ => inner.decodes.read_eq surplus) rfl) <|
    .cons (.items config.options.dataMembers (fun inner _ => inner.decodes.read_eq surplus) rfl) <|
    .cons (.items config.options.arrays
      (fun inner isArray => (inner.decodes (fits inner isArray)).read_eq surplus) rfl) .nil
  refine ⟨_, rfl, takes, nodup_fieldNames surplus readNested, ?_, ?_⟩
  · simp [Slot.Commute, withOptions]
  · -- A class may hold classes, so it is not by definition made of its own fields.
    cases config
    simp [Slot.fillAll, withOptions]

end ClassConfig

/-! ## Depth -/

theorem depth_le_depthOfItems {values : List Value} :
    ∀ value ∈ values, value.depth ≤ Value.depthOfItems values := by
  induction values with
  | nil => simp
  | cons first rest inductionHypothesis =>
      rw [List.forall_mem_cons, Value.depthOfItems]
      constructor
      · exact Nat.le_max_left _ _
      · intro value listed
        exact Nat.le_trans (inductionHypothesis value listed) (Nat.le_max_right _ _)

theorem depth_le_depthOfEntries {entries : Table} :
    ∀ entry ∈ entries, entry.2.depth ≤ Value.depthOfEntries entries := by
  induction entries with
  | nil => simp
  | cons first rest inductionHypothesis =>
      rw [List.forall_mem_cons, Value.depthOfEntries]
      constructor
      · exact Nat.le_max_left _ _
      · intro entry listed
        exact Nat.le_trans (inductionHypothesis entry listed) (Nat.le_max_right _ _)

theorem depth_lt_of_mem_contents {value : Value} :
    ∀ inner ∈ contents value, inner.depth < value.depth := by
  cases value with
  | list values =>
      intro inner listed
      rw [Value.depth, Nat.lt_succ_iff]
      exact depth_le_depthOfItems inner listed
  | table entries =>
      rw [contents, List.forall_mem_map]
      intro entry listed
      rw [Value.depth, Nat.lt_succ_iff]
      exact depth_le_depthOfEntries entry listed
  | _ => simp [contents]

/-! ## Tables of classes -/

/-- The sizes of arrays are numbers that a document can hold. -/
def ClassOptions.SizesFit (options : ClassOptions) : Prop :=
  ∀ array ∈ options.arrays, ∀ size ∈ array.size, size < numberLimit

namespace ClassConfig

/-- A class is read from what spells it, as soon as the schema is unrolled deep enough. -/
theorem readWithin_eq {config : ClassConfig} (fits : config.Everywhere ClassOptions.SizesFit)
    (surplus : Surplus) (depth : Nat) (value : Value) (isWithin : value.depth ≤ depth)
    (spelled : config.Spells value) : readWithin surplus depth value = .ok config := by
  induction fits generalizing depth value with
  | @intro options classes here _ inductionHypothesis =>
      cases depth with
      | zero => exact absurd isWithin (Nat.not_le.mpr value.depth_pos)
      | succ depth =>
          have nested : ∀ list : Value, list.depth ≤ depth → SpellsList Spells classes list →
              readList (readWithin surplus depth) list = .ok classes := by
            rintro _ listWithin ⟨values, rfl, allSpelled⟩
            apply readItems_eq allSpelled
            intro inner isInner item isItem innerSpelled
            have lower : item.depth < (Value.list values).depth :=
              depth_lt_of_mem_contents item isItem
            exact inductionHypothesis inner isInner depth item (by omega) innerSpelled
          rcases decodes ⟨options, classes⟩ here nested with ⟨slots, partsEq, described⟩
          rw [spells_iff, ← partsEq] at spelled
          apply described.read_eq spelled
          intro inner isInside
          have lower := depth_lt_of_mem_contents inner isInside
          omega

theorem fromTable_eq {config : ClassConfig} (fits : config.Everywhere ClassOptions.SizesFit)
    {entries : Table} (spelled : config.Spells (.table entries)) :
    fromTable entries = .ok config := by
  have found : readTable entries = .ok config :=
    readWithin_eq fits .refused _ _ (Nat.le_refl _) spelled
  rw [fromTable, configure, found]
  rfl

end ClassConfig

end CppModel.Config
