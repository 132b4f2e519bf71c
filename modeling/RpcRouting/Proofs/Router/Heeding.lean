import Mathlib
import RpcRouting.Proofs.Router.Configuring
import RpcRouting.Proofs.Toml.Distinct
/-! Which keys of a configuration have an effect on the settings. Every key of the document itself has
one, or the document is refused; of the keys in the table of a definition the path and the context
field have one, and any other key is passed over, whatever is given for it. -/
namespace RpcRouting

/-- A field that is refused wherever it is read. -/
theorem Payload.foldlM_ne_ok {ρ : Type} {fields : List (String × Payload)}
    {put : ρ → String → Payload → Except ShapeError ρ} {field : String × Payload}
    (member : field ∈ fields)
    (refused : ∀ before after, put before field.1 field.2 ≠ .ok after) (before after : ρ) :
    fields.foldlM (fun record field => put record field.1 field.2) before ≠ .ok after := by
  induction fields generalizing before with
  | nil => cases member
  | cons first rest ih =>
    rw [List.foldlM_cons]
    intro read
    cases next : put before first.1 first.2 with
    | error error =>
      rw [next] at read
      cases read
    | ok between =>
      rw [next] at read
      rcases List.mem_cons.mp member with rfl | later
      · exact refused before between next
      · exact ih later between read

namespace Definition

/-- What is given for a key that a definition does not know is passed over. -/
theorem read_of_unknown {key : String} (unknown : ¬(key = "path" ∨ key = "context_field"))
    (left right : List (String × Payload)) (value : Payload) :
    read .ignored (.object (left ++ (key, value) :: right)) =
      read .ignored (.object (left ++ right)) := by
  have passed (draft : Draft) : draft.put key value = .ok draft := by
    obtain ⟨first, second⟩ := not_or.mp unknown
    rw [Draft.put, if_neg first, if_neg second]
    rfl
  change (List.foldlM (fun draft field => Draft.put draft field.1 field.2) ⟨none, none⟩
      (left ++ (key, value) :: right) >>= Draft.finish) =
    (List.foldlM (fun draft field => Draft.put draft field.1 field.2) ⟨none, none⟩
      (left ++ right) >>= Draft.finish)
  simp only [List.foldlM_append, List.foldlM_cons, passed]
  rfl

/-- What no path and no context field is. -/
theorem exists_put_ne_ok {key : String} (known : key = "path" ∨ key = "context_field") :
    ∃ other, ∀ before after, Draft.put before key other ≠ .ok after := by
  rcases known with rfl | rfl
  · exact ⟨.null, fun before after read => by cases read⟩
  · exact ⟨.boolean true, fun before after read => by cases read⟩

theorem exists_read_ne_ok {key : String} (known : key = "path" ∨ key = "context_field")
    (left right : List (String × Payload)) :
    ∃ other, ∀ definition, read .ignored (.object (left ++ (key, other) :: right)) ≠
      .ok definition := by
  obtain ⟨other, refused⟩ := exists_put_ne_ok known
  refine ⟨other, fun definition read => ?_⟩
  have member : (key, other) ∈ left ++ (key, other) :: right := by simp
  change (List.foldlM (fun draft field => Draft.put draft field.1 field.2) ⟨none, none⟩
      (left ++ (key, other) :: right) >>= Draft.finish) = .ok definition at read
  cases fold : List.foldlM (fun draft field => Draft.put draft field.1 field.2) ⟨none, none⟩
      (left ++ (key, other) :: right) with
  | error error =>
    rw [fold] at read
    cases read
  | ok draft => exact Payload.foldlM_ne_ok member refused _ _ fold

end Definition

namespace RouterSettings

theorem readDefinitions_congr {item item' : Payload}
    (same : Definition.read .ignored item = Definition.read .ignored item')
    (before after : List Payload) :
    readDefinitions (.array (before ++ item :: after)) =
      readDefinitions (.array (before ++ item' :: after)) := by
  simp only [readDefinitions, List.mapM_append, List.mapM_cons, same]

theorem readDefinitions_ne_ok {item : Payload}
    (refused : ∀ definition, Definition.read .ignored item ≠ .ok definition)
    (before after : List Payload) (definitions : List Definition) :
    readDefinitions (.array (before ++ item :: after)) ≠ .ok definitions := by
  intro read
  rw [readDefinitions, List.mapM_append, List.mapM_cons] at read
  cases first : before.mapM (Definition.read .ignored) with
  | error error =>
    rw [first] at read
    cases read
  | ok front =>
    cases next : Definition.read .ignored item with
    | error error =>
      rw [first, next] at read
      cases read
    | ok definition => exact refused definition next

/-- Only what is read of the definitions has an effect. -/
theorem read_congr {value value' : Payload} (same : readDefinitions value = readDefinitions value')
    (front back : List (String × Payload)) :
    read (.object (front ++ ("rpc", value) :: back)) =
      read (.object (front ++ ("rpc", value') :: back)) := by
  have puts (settings : RouterSettings) : settings.put "rpc" value = settings.put "rpc" value' := by
    change (fun definitions => { settings with definitions }) <$> readDefinitions value =
      (fun definitions => { settings with definitions }) <$> readDefinitions value'
    rw [same]
  change List.foldlM (fun settings (field : String × Payload) => put settings field.1 field.2)
      default (front ++ ("rpc", value) :: back) =
    List.foldlM (fun settings (field : String × Payload) => put settings field.1 field.2)
      default (front ++ ("rpc", value') :: back)
  simp only [List.foldlM_append, List.foldlM_cons, puts]

theorem read_ne_ok {key : String} {value : Payload}
    (refused : ∀ before after, RouterSettings.put before key value ≠ .ok after)
    (front back : List (String × Payload)) (settings : RouterSettings) :
    read (.object (front ++ (key, value) :: back)) ≠ .ok settings := by
  have member : (key, value) ∈ front ++ (key, value) :: back := by simp
  exact Payload.foldlM_ne_ok member refused default settings

/-- Null is no value for any key. -/
theorem put_null_ne_ok (key : String) (before after : RouterSettings) :
    before.put key .null ≠ .ok after := by
  rcases before.put_cases key .null with ⟨-, puts⟩ | ⟨-, puts⟩ | ⟨-, puts⟩ | ⟨-, puts⟩ <;>
    rw [puts] <;> rintro ⟨⟩

/-- The settings depend on the value at a place of a document: there is another value with which the
document is not read as it is with this one. -/
def Heeds (document : Payload → List (String × Payload)) (value : Payload) : Prop :=
  ∃ other, read (.object (document other)) ≠ read (.object (document value))

theorem heeds_key {front back : List (String × Payload)} {key : String} {value : Payload}
    {settings : RouterSettings}
    (accepted : read (.object (front ++ (key, value) :: back)) = .ok settings) :
    Heeds (fun value => front ++ (key, value) :: back) value := by
  refine ⟨.null, fun same => ?_⟩
  rw [accepted] at same
  exact read_ne_ok (put_null_ne_ok key) front back settings same

/-- In the table of a definition the path and the context field have an effect, and no other key. -/
theorem heeds_inner_iff {front back left right : List (String × Payload)} {before after : List Payload}
    {key : String} {value : Payload} {settings : RouterSettings}
    (accepted : read (.object (front ++ ("rpc",
      .array (before ++ .object (left ++ (key, value) :: right) :: after)) :: back)) = .ok settings) :
    Heeds (fun value => front ++ ("rpc",
      .array (before ++ .object (left ++ (key, value) :: right) :: after)) :: back) value ↔
      key = "path" ∨ key = "context_field" := by
  by_cases known : key = "path" ∨ key = "context_field"
  · refine iff_of_true ?_ known
    obtain ⟨other, refused⟩ := Definition.exists_read_ne_ok known left right
    refine ⟨other, fun same => ?_⟩
    rw [accepted] at same
    refine read_ne_ok (fun first last => ?_) front back settings same
    have none := readDefinitions_ne_ok refused before after
    intro put
    change (fun definitions => { first with definitions }) <$> readDefinitions _ = _ at put
    cases reads : readDefinitions
        (.array (before ++ .object (left ++ (key, other) :: right) :: after)) with
    | error error =>
      rw [reads] at put
      cases put
    | ok definitions => exact none definitions reads
  · refine iff_of_false ?_ known
    rintro ⟨other, differs⟩
    refine differs (read_congr (readDefinitions_congr ?_ before after) front back)
    rw [Definition.read_of_unknown known, Definition.read_of_unknown known]

/-- Every TOML document that is accepted is read as the settings that it describes, and every other one
is refused; so is any that has an unknown key of its own. Each key of the document itself has an
effect. In the table of a definition only the path and the context field have one: any other key is
passed over. -/
theorem heeds_known_keys {parser : TomlParser} (lawful : parser.Lawful) {text : String}
    {document : Payload} (valid : parser text = some document) :
    ∃ fields, document = .object fields ∧
    (∀ settings, readText parser text = .ok settings ↔ Describes fields settings) ∧
    ((∃ field ∈ fields, field.1 ∉ keys) → ∃ error, readText parser text = .error (.shape error)) ∧
    ∀ settings, readText parser text = .ok settings →
      (∀ front key value back, fields = front ++ (key, value) :: back →
        Heeds (fun value => front ++ (key, value) :: back) value) ∧
      ∀ front before left key value right after back,
        fields = front ++ ("rpc",
          .array (before ++ .object (left ++ (key, value) :: right) :: after)) :: back →
        (Heeds (fun value => front ++ ("rpc",
          .array (before ++ .object (left ++ (key, value) :: right) :: after)) :: back) value ↔
          key = "path" ∨ key = "context_field") := by
  obtain ⟨fields, rfl⟩ := lawful.table valid
  have distinct := lawful.distinct valid
  have parsed : readText parser text = (read (.object fields)).mapError .shape := by
    unfold readText
    rw [valid]
  have reads (settings : RouterSettings) :
      readText parser text = .ok settings ↔ read (.object fields) = .ok settings := by
    rw [parsed]
    cases read (.object fields) <;> simp [Except.mapError]
  refine ⟨fields, rfl, fun settings => (reads settings).trans (read_eq_ok_iff distinct), ?_, ?_⟩
  · rintro ⟨field, member, unknown⟩
    rw [parsed]
    cases result : read (.object fields) with
    | error error => exact ⟨error, rfl⟩
    | ok settings =>
      exact absurd (((read_eq_ok_iff distinct).mp result).known field member) unknown
  · intro settings accepted
    rw [reads] at accepted
    constructor
    · rintro front key value back rfl
      exact heeds_key accepted
    · rintro front before left key value right after back rfl
      exact heeds_inner_iff accepted

/-- A misspelt context field among keys that have an effect. -/
theorem heeds_known_keys_misspelt :
    TomlParser.Lawful Toml.parse ∧
    Toml.parse "replay_on_listen=false\n[[rpc]]\npath='/a'\ncontext_feild='node'" =
      some (.object [("replay_on_listen", .boolean false),
        ("rpc", .array [.object [("path", .string "/a"), ("context_feild", .string "node")]])]) ∧
    Heeds (fun value => [("replay_on_listen", value),
      ("rpc", .array [.object [("path", .string "/a"), ("context_feild", .string "node")]])])
      (.boolean false) ∧
    ¬Heeds (fun value => [("replay_on_listen", .boolean false),
      ("rpc", .array [.object [("path", .string "/a"), ("context_feild", value)]])])
      (.string "node") := by
  have document : Toml.parse "replay_on_listen=false\n[[rpc]]\npath='/a'\ncontext_feild='node'" =
      some (.object [("replay_on_listen", .boolean false),
        ("rpc", .array [.object [("path", .string "/a"), ("context_feild", .string "node")]])]) := by
    cbv
  have accepted : readText Toml.parse
      "replay_on_listen=false\n[[rpc]]\npath='/a'\ncontext_feild='node'" =
      .ok ⟨false, true, [⟨⟨true, [⟨"a", by decide⟩], by simp⟩, none⟩]⟩ := by
    cbv
  obtain ⟨fields, same, -, -, heeded⟩ := heeds_known_keys Toml.lawful_parse document
  cases same
  obtain ⟨own, inner⟩ := heeded _ accepted
  refine ⟨Toml.lawful_parse, document, own [] _ _ _ rfl, fun heeds => ?_⟩
  have known := (inner [("replay_on_listen", .boolean false)] [] [("path", .string "/a")]
    "context_feild" (.string "node") [] [] [] rfl).mp heeds
  simp at known

/-- A definition with a misspelt context field is accepted, as one without a context. -/
theorem misspelt_key_accepted : ¬∀ parser : TomlParser, parser.Lawful →
    ∀ text settings fields items table,
      parser text = some (.object fields) → readText parser text = .ok settings →
        fields.lookup "rpc" = some (.array items) → .object table ∈ items →
          ∀ field ∈ table, field.1 = "path" ∨ field.1 = "context_field" := by
  intro strict
  have document : Toml.parse "[[rpc]]\npath='/a'\ncontext_feild='node'" = some (.object
      [("rpc", .array [.object [("path", .string "/a"), ("context_feild", .string "node")]])]) := by
    cbv
  have accepted : readText Toml.parse "[[rpc]]\npath='/a'\ncontext_feild='node'" =
      .ok ⟨true, true, [⟨⟨true, [⟨"a", by decide⟩], by simp⟩, none⟩]⟩ := by
    cbv
  have known := strict Toml.parse Toml.lawful_parse _ _ _ _ _ document accepted rfl List.mem_cons_self
    ("context_feild", .string "node") (by simp)
  simp at known

end RouterSettings
end RpcRouting
