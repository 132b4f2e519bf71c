import Mathlib.Data.List.Nodup
import RpcRouting.Router.Settings
import RpcRouting.Toml.Reader
/-! The reader of TOML texts is a lawful parser: a document gives no key twice. Whatever its statements
do to the tables, and whatever its values hold, each table keeps one entry a key; so does each object
of what is read. -/
namespace RpcRouting

namespace Toml

/-- A node in which no table has a key twice. -/
inductive Node.Distinct : Node → Prop
  | value {payload : Payload} : payload.Distinct → Distinct (.value payload)
  | table {entries : List (String × Node)} (origin : Origin) : (entries.map (·.1)).Nodup →
      (∀ entry ∈ entries, entry.2.Distinct) → Distinct (.table origin entries)
  | tables {items : List (List (String × Node))} :
      (∀ entries ∈ items, (entries.map (·.1)).Nodup) →
      (∀ entries ∈ items, ∀ entry ∈ entries, entry.2.Distinct) → Distinct (.tables items)

namespace Entries

structure Distinct (entries : Entries) : Prop where
  nodup : (entries.map (·.1)).Nodup
  inner : ∀ entry ∈ entries, entry.2.Distinct

theorem distinct_nil : Distinct [] := ⟨.nil, List.forall_mem_nil _⟩

theorem Distinct.table {entries : Entries} (distinct : entries.Distinct) (origin : Origin) :
    (Node.table origin entries).Distinct :=
  .table origin distinct.nodup distinct.inner

theorem distinct_of_table {origin : Origin} {entries : Entries}
    (distinct : (Node.table origin entries).Distinct) : entries.Distinct := by
  cases distinct with
  | table _ nodup inner => exact ⟨nodup, inner⟩

theorem distinct_tables_iff {items : List Entries} :
    (Node.tables items).Distinct ↔ ∀ entries ∈ items, entries.Distinct := by
  constructor
  · intro distinct entries member
    cases distinct with
    | tables nodup inner => exact ⟨nodup entries member, inner entries member⟩
  · intro distinct
    exact .tables (fun entries member => (distinct entries member).nodup)
      fun entries member => (distinct entries member).inner

/-! What is done to entries. -/

theorem mem_of_lookup {α : Type} {entries : List (String × α)} {key : String} {found : α}
    (is : entries.lookup key = some found) : (key, found) ∈ entries := by
  obtain ⟨before, after, rfl, -⟩ := List.lookup_eq_some_iff.mp is
  simp

theorem not_mem_of_lookup {α : Type} {entries : List (String × α)} {key : String}
    (new : entries.lookup key = none) : key ∉ entries.map (·.1) := by
  intro member
  obtain ⟨entry, given, rfl⟩ := List.mem_map.mp member
  simpa using List.lookup_eq_none_iff.mp new entry given

variable {entries entries' : Entries} {key : String} {node : Node}

theorem Distinct.of_lookup (distinct : entries.Distinct) (found : entries.lookup key = some node) :
    node.Distinct :=
  distinct.inner _ (mem_of_lookup found)

theorem Distinct.concat (distinct : entries.Distinct) (new : key ∉ entries.map (·.1))
    (tidy : node.Distinct) : Distinct (entries ++ [(key, node)]) := by
  constructor
  · rw [List.map_append, List.map_singleton, ← List.concat_eq_append, List.nodup_concat]
    exact ⟨new, distinct.nodup⟩
  · intro entry member
    rcases List.mem_append.mp member with old | added
    · exact distinct.inner entry old
    · cases List.mem_singleton.mp added
      exact tidy

theorem Distinct.filter (distinct : entries.Distinct) (keep : String × Node → Bool) :
    Distinct (entries.filter keep) :=
  ⟨distinct.nodup.sublist (List.filter_sublist.map _),
    fun entry member => distinct.inner entry (List.mem_of_mem_filter member)⟩

theorem Distinct.replace (distinct : entries.Distinct) (tidy : node.Distinct) :
    (entries.replace key node).Distinct := by
  have keys : (entries.replace key node).map (·.1) = entries.map (·.1) := by
    rw [Entries.replace, List.map_map]
    refine List.map_congr_left fun entry _ => ?_
    by_cases same : entry.1 = key
    · simp [same]
    · simp [same]
  refine ⟨keys ▸ distinct.nodup, fun entry member => ?_⟩
  obtain ⟨old, given, rfl⟩ := List.mem_map.mp member
  split
  · exact tidy
  · exact distinct.inner old given

/-- Whatever is done to the table at the end of a path, the tables above it keep one entry a key. -/
theorem Distinct.update {made : Origin} {act : Origin → Entries → Option Entries}
    (acts : ∀ origin entries entries', entries.Distinct → act origin entries = some entries' →
      entries'.Distinct)
    {path : List String} {origin : Origin} (distinct : entries.Distinct)
    (done : update made act path origin entries = some entries') : entries'.Distinct := by
  induction path generalizing origin entries entries' with
  | nil => exact acts origin entries entries' distinct done
  | cons key path ih =>
    rw [Entries.update] at done
    split at done
    · rename_i new
      obtain ⟨inner, below, same⟩ := Option.bind_eq_some_iff.mp done
      cases same
      exact distinct.concat (not_mem_of_lookup new) ((ih distinct_nil below).table made)
    · cases done
    · rename_i origin inner found
      split at done
      · cases done
      · obtain ⟨inner', below, same⟩ := Option.bind_eq_some_iff.mp done
        cases same
        have inside := distinct_of_table (distinct.of_lookup found)
        exact distinct.replace ((ih inside below).table origin)
    · rename_i items found
      obtain ⟨last, ends, done⟩ := Option.bind_eq_some_iff.mp done
      obtain ⟨inner', below, same⟩ := Option.bind_eq_some_iff.mp done
      cases same
      have inside := distinct_tables_iff.mp (distinct.of_lookup found)
      refine distinct.replace (distinct_tables_iff.mpr fun table member => ?_)
      rcases List.mem_append.mp member with old | new
      · exact inside table ((List.dropLast_sublist items).subset old)
      · cases List.mem_singleton.mp new
        exact ih (inside last (List.mem_of_getLast? ends)) below

theorem Distinct.assign {path : List String} {payload : Payload} (distinct : entries.Distinct)
    (tidy : payload.Distinct) (done : entries.assign path key payload = some entries') :
    entries'.Distinct := by
  refine distinct.update (fun origin entries entries' distinct done => ?_) done
  split at done
  · cases done
  · rename_i new
    cases done
    have new : entries.lookup key = none := by
      simpa only [Bool.not_eq_true, Option.isSome_eq_false_iff, Option.isNone_iff_eq_none] using
        (not_or.mp new).2
    exact distinct.concat (not_mem_of_lookup new) (.value tidy)

theorem Distinct.declare {path : List String} (distinct : entries.Distinct)
    (done : entries.declare path key = some entries') : entries'.Distinct := by
  refine distinct.update (fun origin entries entries' distinct done => ?_) done
  split at done
  · rename_i new
    cases done
    exact distinct.concat (not_mem_of_lookup new) (distinct_nil.table _)
  · rename_i inner found
    cases done
    refine (distinct.filter _).concat ?_ ((distinct_of_table (distinct.of_lookup found)).table _)
    simp
  · cases done

theorem Distinct.append {path : List String} (distinct : entries.Distinct)
    (done : entries.append path key = some entries') : entries'.Distinct := by
  refine distinct.update (fun origin entries entries' distinct done => ?_) done
  split at done
  · rename_i new
    cases done
    refine distinct.concat (not_mem_of_lookup new) (distinct_tables_iff.mpr fun table member => ?_)
    cases List.mem_singleton.mp member
    exact distinct_nil
  · rename_i items found
    cases done
    have inside := distinct_tables_iff.mp (distinct.of_lookup found)
    refine distinct.replace (distinct_tables_iff.mpr fun table member => ?_)
    rcases List.mem_append.mp member with old | new
    · exact inside table old
    · cases List.mem_singleton.mp new
      exact distinct_nil
  · cases done

end Entries

/-! The payload that a table stands for. -/

theorem keys_entriesToPayloads (entries : Entries) :
    (entriesToPayloads entries).map (·.1) = entries.map (·.1) := by
  induction entries with
  | nil => rw [entriesToPayloads, List.map_nil, List.map_nil]
  | cons entry rest ih =>
    obtain ⟨key, node⟩ := entry
    rw [entriesToPayloads, List.map_cons, List.map_cons, ih]

theorem mem_entriesToPayloads {entries : Entries} {field : String × Payload}
    (member : field ∈ entriesToPayloads entries) :
    ∃ entry ∈ entries, field.2 = entry.2.toPayload := by
  induction entries with
  | nil =>
    rw [entriesToPayloads] at member
    cases member
  | cons entry rest ih =>
    obtain ⟨key, node⟩ := entry
    rw [entriesToPayloads] at member
    rcases List.mem_cons.mp member with rfl | later
    · exact ⟨(key, node), List.mem_cons_self, rfl⟩
    · obtain ⟨entry, member, same⟩ := ih later
      exact ⟨entry, List.mem_cons_of_mem _ member, same⟩

theorem mem_itemsToPayloads {items : List Entries} {item : Payload}
    (member : item ∈ itemsToPayloads items) :
    ∃ entries ∈ items, item = .object (entriesToPayloads entries) := by
  induction items with
  | nil =>
    rw [itemsToPayloads] at member
    cases member
  | cons entries rest ih =>
    rw [itemsToPayloads] at member
    rcases List.mem_cons.mp member with rfl | later
    · exact ⟨entries, List.mem_cons_self, rfl⟩
    · obtain ⟨entries, member, same⟩ := ih later
      exact ⟨entries, List.mem_cons_of_mem _ member, same⟩

theorem Node.Distinct.toPayload {node : Node} (distinct : node.Distinct) :
    node.toPayload.Distinct := by
  induction distinct with
  | value tidy =>
    rw [Node.toPayload]
    exact tidy
  | table origin nodup _ ih =>
    rw [Node.toPayload]
    refine .object (keys_entriesToPayloads _ ▸ nodup) fun field member => ?_
    obtain ⟨entry, member, same⟩ := mem_entriesToPayloads member
    exact same ▸ ih entry member
  | tables nodup _ ih =>
    rw [Node.toPayload]
    refine .array fun item member => ?_
    obtain ⟨entries, table, rfl⟩ := mem_itemsToPayloads member
    refine .object (keys_entriesToPayloads _ ▸ nodup entries table) fun field member => ?_
    obtain ⟨entry, member, same⟩ := mem_entriesToPayloads member
    exact same ▸ ih entries table entry member

theorem Entries.Distinct.object {entries : Entries} (distinct : entries.Distinct) :
    (Payload.object (entriesToPayloads entries)).Distinct := by
  have table := (distinct.table .declared).toPayload
  rwa [Node.toPayload] at table

/-! Reading. -/

theorem distinct_of_scalar? {token : List Char} {payload : Payload}
    (read : scalar? token = some payload) : payload.Distinct := by
  unfold scalar? at read
  repeat' split at read
  all_goals cases read
  all_goals constructor
  all_goals simp

theorem distinct_of_readScalar {text rest : List Char} {payload : Payload}
    (read : readScalar text = some (payload, rest)) : payload.Distinct := by
  unfold readScalar at read
  dsimp only at read
  repeat' split at read
  all_goals
    obtain ⟨found, scalar, same⟩ := Option.map_eq_some_iff.mp read
    cases same
    exact distinct_of_scalar? scalar

/-- What the three readers answer with so much fuel. -/
structure ReadsDistinct (fuel : Nat) : Prop where
  value {depth : Nat} {text rest : List Char} {payload : Payload} :
    readValue fuel depth text = some (payload, rest) → payload.Distinct
  items {depth : Nat} {text rest : List Char} {items : List Payload} :
    readItems fuel depth text = some (items, rest) → ∀ item ∈ items, item.Distinct
  pairs {depth : Nat} {text rest : List Char} {entries entries' : Entries} : entries.Distinct →
    readPairs fuel depth entries text = some (entries', rest) → entries'.Distinct

namespace ReadsDistinct
variable {fuel : Nat}

theorem value_succ (reads : ReadsDistinct fuel) {depth : Nat} {text rest : List Char}
    {payload : Payload} (read : readValue (fuel + 1) depth text = some (payload, rest)) :
    payload.Distinct := by
  rw [readValue.eq_def] at read
  dsimp only at read
  split at read
  · obtain ⟨found, -, same⟩ := Option.map_eq_some_iff.mp read
    cases same
    exact .string found.1
  · obtain ⟨found, -, same⟩ := Option.map_eq_some_iff.mp read
    cases same
    exact .string found.1
  · split at read
    · obtain ⟨found, items, same⟩ := Option.bind_eq_some_iff.mp read
      cases same
      exact .array (reads.items items)
    · cases read
  · split at read
    · split at read
      · cases read
        exact .object .nil (List.forall_mem_nil _)
      · obtain ⟨found, pairs, same⟩ := Option.bind_eq_some_iff.mp read
        cases same
        exact (reads.pairs Entries.distinct_nil pairs).object
    · cases read
  · exact distinct_of_readScalar read

theorem items_succ (reads : ReadsDistinct fuel) {depth : Nat} {text rest : List Char}
    {items : List Payload} (read : readItems (fuel + 1) depth text = some (items, rest)) :
    ∀ item ∈ items, item.Distinct := by
  rw [readItems.eq_def] at read
  dsimp only at read
  obtain ⟨start, -, read⟩ := Option.bind_eq_some_iff.mp read
  split at read
  · cases read
    exact List.forall_mem_nil _
  · obtain ⟨first, value, read⟩ := Option.bind_eq_some_iff.mp read
    obtain ⟨behind, -, read⟩ := Option.bind_eq_some_iff.mp read
    split at read
    · cases read
      exact List.forall_mem_singleton.mpr (reads.value value)
    · obtain ⟨others, later, same⟩ := Option.bind_eq_some_iff.mp read
      cases same
      exact List.forall_mem_cons.mpr ⟨reads.value value, reads.items later⟩
    · cases read

theorem pairs_succ (reads : ReadsDistinct fuel) {depth : Nat} {text rest : List Char}
    {entries entries' : Entries} (distinct : entries.Distinct)
    (read : readPairs (fuel + 1) depth entries text = some (entries', rest)) :
    entries'.Distinct := by
  rw [readPairs.eq_def] at read
  dsimp only at read
  obtain ⟨key, -, read⟩ := Option.bind_eq_some_iff.mp read
  split at read
  · obtain ⟨payload, value, read⟩ := Option.bind_eq_some_iff.mp read
    obtain ⟨entered, assigned, read⟩ := Option.bind_eq_some_iff.mp read
    have distinct := distinct.assign (reads.value value) assigned
    split at read
    · cases read
      exact distinct
    · exact reads.pairs distinct read
    · cases read
  · cases read

end ReadsDistinct

theorem readsDistinct (fuel : Nat) : ReadsDistinct fuel := by
  induction fuel with
  | zero =>
    constructor
    · intro depth text rest payload read
      cases read
    · intro depth text rest items read
      cases read
    · intro depth text rest entries entries' _ read
      cases read
  | succ fuel ih => exact ⟨ih.value_succ, ih.items_succ, ih.pairs_succ⟩

/-- The value that a statement gives to a key, if it is an assignment. -/
def Statement.payload? : Statement → Option Payload
  | .assignment _ _ payload => some payload
  | .header _ _ | .itemHeader _ _ => none

theorem distinct_of_readStatements {fuel : Nat} {text : List Char} {statements : List Statement}
    (read : readStatements fuel text = some statements) :
    ∀ statement ∈ statements, ∀ payload ∈ statement.payload?, payload.Distinct := by
  induction fuel generalizing text statements with
  | zero => cases read
  | succ fuel ih =>
    have header {statement : Statement} {line : Option (List Char)}
        (bare : statement.payload? = none)
        (read : (do return statement :: (← readStatements fuel (← line))) = some statements) :
        ∀ statement ∈ statements, ∀ payload ∈ statement.payload?, payload.Distinct := by
      obtain ⟨behind, -, read⟩ := Option.bind_eq_some_iff.mp read
      obtain ⟨others, later, same⟩ := Option.bind_eq_some_iff.mp read
      cases same
      refine List.forall_mem_cons.mpr ⟨fun payload given => ?_, ih later⟩
      rw [bare] at given
      cases given
    rw [readStatements.eq_def] at read
    dsimp only at read
    split at read
    · cases read
      exact List.forall_mem_nil _
    · obtain ⟨behind, -, read⟩ := Option.bind_eq_some_iff.mp read
      exact ih read
    · obtain ⟨key, -, read⟩ := Option.bind_eq_some_iff.mp read
      split at read
      · exact header rfl read
      · cases read
    · obtain ⟨key, -, read⟩ := Option.bind_eq_some_iff.mp read
      split at read
      · exact header rfl read
      · cases read
    · split at read
      · exact ih read
      · obtain ⟨key, -, read⟩ := Option.bind_eq_some_iff.mp read
        split at read
        · obtain ⟨found, value, read⟩ := Option.bind_eq_some_iff.mp read
          obtain ⟨behind, -, read⟩ := Option.bind_eq_some_iff.mp read
          obtain ⟨others, later, same⟩ := Option.bind_eq_some_iff.mp read
          cases same
          refine List.forall_mem_cons.mpr ⟨fun payload given => ?_, ih later⟩
          cases given
          exact (readsDistinct _).value value
        · cases read

theorem distinct_of_build {statements : List Statement} {entries : Entries}
    (values : ∀ statement ∈ statements, ∀ payload ∈ statement.payload?, payload.Distinct)
    (built : build statements = some entries) : entries.Distinct := by
  unfold build at built
  obtain ⟨⟨header, found⟩, steps, rfl⟩ := Option.map_eq_some_iff.mp built
  generalize start : (([], []) : List String × Entries) = before at steps
  have distinct : Entries.Distinct before.2 := start ▸ Entries.distinct_nil
  clear start built
  induction statements generalizing before with
  | nil =>
    cases steps
    exact distinct
  | cons statement rest ih =>
    obtain ⟨next, first, steps⟩ := Option.bind_eq_some_iff.mp steps
    obtain ⟨here, later⟩ := List.forall_mem_cons.mp values
    refine ih later next steps ?_
    cases statement with
    | assignment path key payload =>
      obtain ⟨entered, done, same⟩ := Option.bind_eq_some_iff.mp first
      cases same
      exact distinct.update (fun _ _ _ distinct done => distinct.assign (here payload rfl) done) done
    | header path key =>
      obtain ⟨entered, done, same⟩ := Option.bind_eq_some_iff.mp first
      cases same
      exact distinct.declare done
    | itemHeader path key =>
      obtain ⟨entered, done, same⟩ := Option.bind_eq_some_iff.mp first
      cases same
      exact distinct.append done

/-- What is read is a table that statements have built. -/
theorem built_of_parse {text : String} {document : Payload} (read : parse text = some document) :
    ∃ entries : Entries, entries.Distinct ∧ document = .object (entriesToPayloads entries) := by
  unfold parse at read
  obtain ⟨statements, given, read⟩ := Option.bind_eq_some_iff.mp read
  obtain ⟨entries, built, same⟩ := Option.bind_eq_some_iff.mp read
  cases same
  exact ⟨entries, distinct_of_build (distinct_of_readStatements given) built, rfl⟩

theorem lawful_parse : TomlParser.Lawful parse := by
  constructor
  case table =>
    intro text document read
    obtain ⟨entries, -, rfl⟩ := built_of_parse read
    exact ⟨_, rfl⟩
  case distinct =>
    intro text document read
    obtain ⟨entries, distinct, rfl⟩ := built_of_parse read
    exact distinct.object

end Toml
end RpcRouting
