import RpcRouting.Proofs.Path.Spelling
import RpcRouting.Router.Settings
/-! What the text of a configuration makes of the settings. Each key that settings know has an effect
wherever it is given, and any other key is refused; but in the table of a definition only the path and
the context field have an effect, and every other key is passed over. -/
namespace RpcRouting

/-! Fields that are read one after the other, each into a place of its own. -/

namespace Payload

/-- What fields give for a name: what the name's value means, or the default if it has none. -/
def Gives {α : Type} (fields : List (String × Payload)) (name : String)
    (Means : Payload → α → Prop) (default value : α) : Prop :=
  (fields.lookup name).elim (value = default) (Means · value)

section
variable {α ρ : Type} {fields rest : List (String × Payload)} {name other : String}
  {Means : Payload → α → Prop} {default value : α} {found : Payload}

theorem gives_of_not_mem (new : name ∉ fields.map (·.1)) :
    Gives fields name Means default value ↔ value = default := by
  have none : fields.lookup name = none := by
    refine List.lookup_eq_none_iff.mpr fun field member => bne_iff_ne.mpr ?_
    rintro rfl
    exact new (List.mem_map_of_mem member)
  rw [Gives, none]
  rfl

theorem gives_cons_self : Gives ((name, found) :: rest) name Means default value ↔
    Means found value := by
  rw [Gives, List.lookup_cons_self]
  rfl

theorem gives_cons_of_ne (different : other ≠ name) :
    Gives ((other, found) :: rest) name Means default value ↔
      Gives rest name Means default value := by
  rw [Gives, List.lookup_cons, beq_false_of_ne different.symm]
  rfl

/-- Reading fields with different names, by what their first one does. -/
theorem foldlM_eq_ok_iff {put : ρ → String → Payload → Except ShapeError ρ}
    (Fits : List (String × Payload) → ρ → ρ → Prop)
    (nil : ∀ before after, Fits [] before after ↔ before = after)
    (cons : ∀ name found rest before after, name ∉ rest.map (·.1) →
      (Fits ((name, found) :: rest) before after ↔
        ∃ between, put before name found = .ok between ∧ Fits rest between after))
    (nodup : (fields.map (·.1)).Nodup) (before after : ρ) :
    fields.foldlM (fun record field => put record field.1 field.2) before = .ok after ↔
      Fits fields before after := by
  induction fields generalizing before with
  | nil =>
    rw [nil]
    exact ⟨Except.ok.inj, congrArg Except.ok⟩
  | cons field rest ih =>
    obtain ⟨name, found⟩ := field
    obtain ⟨new, nodup⟩ := List.nodup_cons.mp nodup
    rw [List.foldlM_cons, cons name found rest before after new]
    dsimp only
    cases first : put before name found with
    | error error =>
      constructor
      · intro read
        cases read
      · rintro ⟨between, same, -⟩
        cases same
    | ok between =>
      simp only [Except.ok.injEq, exists_eq_left']
      exact ih nodup between

/-- What is read is put into the record. -/
theorem exists_map_eq_ok_iff {read : Except ShapeError α} {set : α → ρ} {P : ρ → Prop} :
    (∃ record, set <$> read = .ok record ∧ P record) ↔ ∃ value, read = .ok value ∧ P (set value) := by
  cases read with
  | error error =>
    constructor
    · rintro ⟨record, same, -⟩
      cases same
    · rintro ⟨value, same, -⟩
      cases same
  | ok value =>
    constructor
    · rintro ⟨record, same, holds⟩
      cases same
      exact ⟨value, rfl, holds⟩
    · rintro ⟨_, same, holds⟩
      cases same
      exact ⟨set value, rfl, holds⟩

end

theorem readBoolean_eq_ok_iff {value : Payload} {flag : Bool} :
    value.readBoolean = .ok flag ↔ value = .boolean flag := by
  cases value <;> simp [readBoolean]

theorem readSchemaPath_eq_ok_iff {value : Payload} {path : SchemaPath} :
    value.readSchemaPath = .ok path ↔
      ∃ text, value = .string text ∧ SchemaPath.parse text = .ok path := by
  cases value with
  | string text =>
    simp only [readSchemaPath, readString, string.injEq, exists_eq_left']
    change (SchemaPath.parse text).mapError _ = _ ↔ _
    cases SchemaPath.parse text <;> simp [Except.mapError]
  | _ =>
    constructor
    · intro read
      cases read
    · rintro ⟨text, same, -⟩
      cases same

end Payload

namespace Definition
open Payload (Gives)

/-- The field that a value names: null stands for none. -/
inductive NamesField : Payload → Option String → Prop
  | null : NamesField .null none
  | string (name : String) : NamesField (.string name) (some name)

theorem readOptional_eq_ok_iff {value : Payload} {field : Option String} :
    value.readOptional Payload.readString = .ok field ↔ NamesField value field := by
  constructor
  · intro read
    cases value <;> cases read <;> constructor
  · rintro ⟨⟩ <;> rfl

/-- The definition of which fields tell. Whatever else they hold tells nothing. -/
structure Told (fields : List (String × Payload)) (definition : Definition) : Prop where
  path : ∃ text, fields.lookup "path" = some (.string text) ∧
    SchemaPath.parse text = .ok definition.path
  contextField : Gives fields "context_field" NamesField none definition.contextField

/-- A definition is written as a table, or as the sequence of its values. -/
inductive Tells : Payload → Definition → Prop
  | table {fields : List (String × Payload)} {definition : Definition} :
      Told fields definition → Tells (.object fields) definition
  | sequence {items : List Payload} {definition : Definition} :
      Told (["path", "context_field"].zip items) definition → Tells (.array items) definition

/-- What fields that are read make of a draft. -/
def Draft.Becomes (fields : List (String × Payload)) (before after : Draft) : Prop :=
  Gives fields "path" (fun found path => ∃ read, found.readSchemaPath = .ok read ∧
    path = some read) before.path after.path ∧
  Gives fields "context_field" NamesField before.contextField after.contextField

theorem Draft.foldlM_put_iff {fields : List (String × Payload)}
    (nodup : (fields.map (·.1)).Nodup) (before after : Draft) :
    fields.foldlM (fun draft field => draft.put field.1 field.2) before = .ok after ↔
      Draft.Becomes fields before after := by
  refine Payload.foldlM_eq_ok_iff Draft.Becomes (fun before after => ?_)
    (fun name found rest before after new => ?_) nodup before after <;> unfold Draft.Becomes
  · obtain ⟨path, field⟩ := before
    obtain ⟨path', field'⟩ := after
    simp [Payload.gives_of_not_mem, eq_comm]
  · by_cases first : name = "path"
    · subst first
      have puts : before.put "path" found =
          (fun path => { before with path := some path }) <$> found.readSchemaPath := rfl
      rw [Payload.gives_cons_self, Payload.gives_cons_of_ne (by decide), puts,
        Payload.exists_map_eq_ok_iff]
      simp only [Payload.gives_of_not_mem new, ← and_assoc, exists_and_right]
    · by_cases second : name = "context_field"
      · subst second
        have puts : before.put "context_field" found =
            (fun field => { before with contextField := field }) <$>
              found.readOptional Payload.readString := rfl
        rw [Payload.gives_cons_self, Payload.gives_cons_of_ne (by decide), puts,
          Payload.exists_map_eq_ok_iff]
        simp only [readOptional_eq_ok_iff, Payload.gives_of_not_mem new]
        constructor
        · rintro ⟨path, named⟩
          exact ⟨_, named, path, rfl⟩
        · rintro ⟨field, named, path, rfl⟩
          exact ⟨path, named⟩
      · have puts : before.put name found = .ok before := by
          rw [put, if_neg first, if_neg second]
          rfl
        rw [Payload.gives_cons_of_ne first, Payload.gives_cons_of_ne second, puts]
        simp only [Except.ok.injEq, exists_eq_left']

theorem Draft.finish_eq_ok_iff {draft : Draft} {definition : Definition} :
    draft.finish = .ok definition ↔
      draft.path = some definition.path ∧ draft.contextField = definition.contextField := by
  obtain ⟨path, field⟩ := draft
  obtain ⟨path', field'⟩ := definition
  cases path with
  | none =>
    constructor
    · intro finished
      cases finished
    · rintro ⟨same, -⟩
      cases same
  | some path =>
    change (Except.ok _ : Except ShapeError Definition) = _ ↔ _
    simp

/-- Reading the fields of a definition with different names. -/
theorem read_fields_eq_ok_iff {fields : List (String × Payload)}
    (nodup : (fields.map (·.1)).Nodup) {definition : Definition} :
    (fields.foldlM (fun draft field => draft.put field.1 field.2) ⟨none, none⟩ >>= Draft.finish) =
      .ok definition ↔ Told fields definition := by
  constructor
  · intro read
    cases fold : fields.foldlM (fun draft field => Draft.put draft field.1 field.2) ⟨none, none⟩ with
    | error error =>
      rw [fold] at read
      cases read
    | ok draft =>
      rw [fold] at read
      obtain ⟨path, field⟩ := (Draft.foldlM_put_iff nodup _ _).mp fold
      obtain ⟨given, same⟩ := Draft.finish_eq_ok_iff.mp read
      refine ⟨?_, same ▸ field⟩
      unfold Gives at path
      cases found : fields.lookup "path" with
      | none =>
        rw [found, given] at path
        cases path
      | some value =>
        rw [found, given] at path
        obtain ⟨path', read, same⟩ := path
        cases same
        obtain ⟨text, rfl, spelled⟩ := Payload.readSchemaPath_eq_ok_iff.mp read
        exact ⟨text, rfl, spelled⟩
  · rintro ⟨⟨text, found, spelled⟩, field⟩
    have fold := (Draft.foldlM_put_iff nodup ⟨none, none⟩
      ⟨some definition.path, definition.contextField⟩).mpr ⟨?_, field⟩
    · rw [fold]
      rfl
    · unfold Gives
      rw [found]
      exact ⟨_, Payload.readSchemaPath_eq_ok_iff.mpr ⟨text, rfl, spelled⟩, rfl⟩

/-- A value is read as the definition that it tells of. -/
theorem read_eq_ok_iff {value : Payload} (distinct : value.Distinct) {definition : Definition} :
    read .ignored value = .ok definition ↔ Tells value definition := by
  cases distinct with
  | object nodup =>
    refine (read_fields_eq_ok_iff nodup).trans ⟨.table, fun tells => ?_⟩
    cases tells with
    | table told => exact told
  | array =>
    rename_i items _
    have nodup : ((["path", "context_field"].zip items).map (·.1)).Nodup := by
      rcases items with _ | ⟨first, _ | ⟨second, others⟩⟩ <;> simp
    cases items with
    | nil =>
      constructor
      · intro read
        cases read
      · intro tells
        cases tells with
        | sequence told =>
          obtain ⟨text, found, -⟩ := told.path
          cases found
    | cons first others =>
      have same : read .ignored (.array (first :: others)) =
          ((["path", "context_field"].zip (first :: others)).foldlM
            (fun draft field => Draft.put draft field.1 field.2) ⟨none, none⟩ >>= Draft.finish) := by
        unfold read Payload.readRecord
        simp
      rw [same, read_fields_eq_ok_iff nodup]
      refine ⟨.sequence, fun tells => ?_⟩
      cases tells with
      | sequence told => exact told
  | _ =>
    constructor
    · intro read
      cases read
    · intro tells
      cases tells

end Definition

namespace RouterSettings
open Payload (Gives)

/-- What a sequence of definitions tells. -/
def TellsAll (value : Payload) (definitions : List Definition) : Prop :=
  ∃ items, value = .array items ∧ List.Forall₂ Definition.Tells items definitions

/-- The settings that a document describes: it has no keys but theirs, and what is not given keeps its
default. -/
structure Describes (fields : List (String × Payload)) (settings : RouterSettings) : Prop where
  known : ∀ field ∈ fields, field.1 ∈ keys
  replay : Gives fields "replay_on_listen" (fun found flag => found = .boolean flag) true
    settings.replayOnListen
  fallback : Gives fields "routing_fallback_to_global" (fun found flag => found = .boolean flag) true
    settings.fallbackToGlobal
  definitions : Gives fields "rpc" TellsAll [] settings.definitions

theorem readDefinitions_eq_ok_iff {value : Payload} (distinct : value.Distinct)
    {definitions : List Definition} :
    readDefinitions value = .ok definitions ↔ TellsAll value definitions := by
  cases distinct with
  | array inner =>
    rename_i items
    have reads (definitions : List Definition) :
        List.Forall₂ (fun item definition => Definition.read .ignored item = .ok definition) items
          definitions ↔ List.Forall₂ Definition.Tells items definitions := by
      constructor
      · intro reads
        refine ((List.forall₂_and_left _ _).mpr ⟨inner, reads⟩).imp ?_
        rintro item definition ⟨distinct, read⟩
        exact (Definition.read_eq_ok_iff distinct).mp read
      · intro tells
        refine ((List.forall₂_and_left _ _).mpr ⟨inner, tells⟩).imp ?_
        rintro item definition ⟨distinct, told⟩
        exact (Definition.read_eq_ok_iff distinct).mpr told
    rw [readDefinitions, InstancePath.mapM_eq_ok_iff, reads]
    constructor
    · exact fun tells => ⟨items, rfl, tells⟩
    · rintro ⟨_, same, tells⟩
      cases same
      exact tells
  | _ =>
    constructor
    · intro read
      cases read
    · rintro ⟨_, same, -⟩
      cases same

/-- What fields that are read make of settings. -/
def Becomes (fields : List (String × Payload)) (before after : RouterSettings) : Prop :=
  (∀ field ∈ fields, field.1 ∈ keys) ∧
  Gives fields "replay_on_listen" (fun found flag => found.readBoolean = .ok flag)
    before.replayOnListen after.replayOnListen ∧
  Gives fields "routing_fallback_to_global" (fun found flag => found.readBoolean = .ok flag)
    before.fallbackToGlobal after.fallbackToGlobal ∧
  Gives fields "rpc" (fun found definitions => readDefinitions found = .ok definitions)
    before.definitions after.definitions

theorem becomes_nil {before after : RouterSettings} : Becomes [] before after ↔ before = after := by
  obtain ⟨replay, fallback, definitions⟩ := before
  obtain ⟨replay', fallback', definitions'⟩ := after
  simp [Becomes, Payload.gives_of_not_mem, eq_comm]

/-- What a key does to settings that are being read. -/
theorem put_cases (settings : RouterSettings) (key : String) (value : Payload) :
    key = "replay_on_listen" ∧ settings.put key value =
      (fun flag => { settings with replayOnListen := flag }) <$> value.readBoolean ∨
    key = "routing_fallback_to_global" ∧ settings.put key value =
      (fun flag => { settings with fallbackToGlobal := flag }) <$> value.readBoolean ∨
    key = "rpc" ∧ settings.put key value =
      (fun definitions => { settings with definitions }) <$> readDefinitions value ∨
    key ∉ keys ∧ settings.put key value = .error (.unknownField key keys) := by
  by_cases first : key = "replay_on_listen"
  · subst first
    exact .inl ⟨rfl, rfl⟩
  · by_cases second : key = "routing_fallback_to_global"
    · subst second
      exact .inr (.inl ⟨rfl, rfl⟩)
    · by_cases third : key = "rpc"
      · subst third
        exact .inr (.inr (.inl ⟨rfl, rfl⟩))
      · refine .inr (.inr (.inr ⟨by simp [keys, first, second, third], ?_⟩))
        rw [put, if_neg first, if_neg second, if_neg third]
        rfl

theorem becomes_cons {key : String} {value : Payload} {rest : List (String × Payload)}
    (new : key ∉ rest.map (·.1)) (before after : RouterSettings) :
    Becomes ((key, value) :: rest) before after ↔
      ∃ between, before.put key value = .ok between ∧ Becomes rest between after := by
  rcases before.put_cases key value with ⟨rfl, puts⟩ | ⟨rfl, puts⟩ | ⟨rfl, puts⟩ | ⟨unknown, puts⟩
  · have known : "replay_on_listen" ∈ keys := by decide
    rw [puts, Payload.exists_map_eq_ok_iff]
    simp only [Becomes, List.forall_mem_cons, Payload.gives_cons_self, Payload.gives_of_not_mem new]
    rw [Payload.gives_cons_of_ne (by decide), Payload.gives_cons_of_ne (by decide)]
    simp only [known, true_and]
    constructor
    · rintro ⟨others, read, later⟩
      exact ⟨_, read, others, rfl, later⟩
    · rintro ⟨flag, read, others, rfl, later⟩
      exact ⟨others, read, later⟩
  · have known : "routing_fallback_to_global" ∈ keys := by decide
    rw [puts, Payload.exists_map_eq_ok_iff]
    simp only [Becomes, List.forall_mem_cons, Payload.gives_cons_self, Payload.gives_of_not_mem new]
    rw [Payload.gives_cons_of_ne (by decide), Payload.gives_cons_of_ne (by decide)]
    simp only [known, true_and]
    constructor
    · rintro ⟨others, replay, read, later⟩
      exact ⟨_, read, others, replay, rfl, later⟩
    · rintro ⟨flag, read, others, replay, rfl, later⟩
      exact ⟨others, replay, read, later⟩
  · have known : "rpc" ∈ keys := by decide
    rw [puts, Payload.exists_map_eq_ok_iff]
    simp only [Becomes, List.forall_mem_cons, Payload.gives_cons_self, Payload.gives_of_not_mem new]
    rw [Payload.gives_cons_of_ne (by decide), Payload.gives_cons_of_ne (by decide)]
    simp only [known, true_and]
    constructor
    · rintro ⟨others, replay, fallback, read⟩
      exact ⟨_, read, others, replay, fallback, rfl⟩
    · rintro ⟨definitions, read, others, replay, fallback, rfl⟩
      exact ⟨others, replay, fallback, read⟩
  · rw [puts]
    constructor
    · rintro ⟨known, -⟩
      exact absurd (known _ List.mem_cons_self) unknown
    · rintro ⟨between, same, -⟩
      cases same

/-- A table with different keys is read as the settings that it describes. -/
theorem read_eq_ok_iff {fields : List (String × Payload)}
    (distinct : (Payload.object fields).Distinct) {settings : RouterSettings} :
    read (.object fields) = .ok settings ↔ Describes fields settings := by
  obtain ⟨nodup, inner⟩ : (fields.map (·.1)).Nodup ∧ ∀ field ∈ fields, field.2.Distinct := by
    cases distinct with
    | object nodup inner => exact ⟨nodup, inner⟩
  refine (Payload.foldlM_eq_ok_iff Becomes (fun _ _ => becomes_nil)
    (fun key value rest before after new => becomes_cons new before after) nodup default
    settings).trans ?_
  have told : Gives fields "rpc" (fun found definitions => readDefinitions found = .ok definitions)
      [] settings.definitions ↔ Gives fields "rpc" TellsAll [] settings.definitions := by
    unfold Gives
    cases found : fields.lookup "rpc" with
    | none => exact Iff.rfl
    | some value =>
      have given : ("rpc", value) ∈ fields := by
        obtain ⟨before, after, rfl, -⟩ := List.lookup_eq_some_iff.mp found
        simp
      exact readDefinitions_eq_ok_iff (inner _ given)
  unfold Becomes
  simp only [Payload.readBoolean_eq_ok_iff]
  constructor
  · rintro ⟨known, replay, fallback, definitions⟩
    exact ⟨known, replay, fallback, told.mp definitions⟩
  · rintro ⟨known, replay, fallback, definitions⟩
    exact ⟨known, replay, fallback, told.mpr definitions⟩

end RouterSettings
end RpcRouting
