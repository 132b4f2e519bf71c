import RpcRouting.Proofs.Path.Spelling
/-! Printed paths are read back. What is printed spells the path, with one exception: an entry
without keys is printed like a plain node, and so it is read back as one. -/
namespace RpcRouting

namespace Text

/-- A text that does not end in white space. -/
def EndsPlainly (text : List Char) : Prop := ∃ front c, text = front ++ [c] ∧ isBlank c = false

theorem EndsPlainly.append {text : List Char} (ends : EndsPlainly text) (before : List Char) :
    EndsPlainly (before ++ text) := by
  obtain ⟨front, c, rfl, plain⟩ := ends
  exact ⟨before ++ front, c, (List.append_assoc ..).symm, plain⟩

theorem EndsPlainly.getLast? {text : List Char} (ends : EndsPlainly text) :
    ∀ c ∈ text.getLast?, isBlank c = false := by
  obtain ⟨front, last, rfl, plain⟩ := ends
  intro c found
  rw [List.getLast?_concat] at found
  cases found
  exact plain

end Text

namespace PathArgument
open Text (EndsPlainly)

theorem endsPlainly_chars (name : QualifiedName) : EndsPlainly name.chars := by
  refine ⟨name.chars.dropLast, name.chars.getLast name.chars_ne_nil, ?_, ?_⟩
  · rw [List.dropLast_append_getLast]
  · exact QualifiedName.isBlank_of_mem_chars (List.getLast_mem _)

theorem SpellsKeys.endsPlainly (spelled : SpellsKeys text keys) (listing : keys ≠ []) :
    EndsPlainly text := by
  induction spelled with
  | nil => exact absurd rfl listing
  | cons first others ih =>
    rename_i text key rest keys
    cases others with
    | nil =>
      rw [List.append_nil]
      cases first with
      | mk name spelled =>
        rename_i spelling value
        exact ⟨'[' :: (name.chars ++ '=' :: spelling), ']', by simp, by decide⟩
    | cons => exact (ih (List.cons_ne_nil _ _)).append _

theorem SpellsArgument.endsPlainly (spelled : SpellsArgument text arg) : EndsPlainly text := by
  cases spelled with
  | node name => exact endsPlainly_chars name
  | entry name spelled listing => exact (spelled.endsPlainly listing).append _

/-! Printing a segment. -/

/-- An entry without keys. It has the text of a plain node. -/
def isKeyless : PathArgument → Bool
  | .node _ => false
  | .entry _ keys => keys.toList.isEmpty

/-- The argument as its text tells it. -/
def told (arg : PathArgument) : PathArgument := if arg.isKeyless then .node arg.name else arg

theorem spellsValue_renderValue (value : List Char) : SpellsValue (renderValue value) value := by
  induction value with
  | nil => exact .nil
  | cons c rest ih =>
    rw [renderValue]
    split
    · exact .escaped c ih
    · rename_i plain
      exact .plain (by simpa using plain) ih

theorem spellsKey_renderKey (key : Key) : SpellsKey (renderKey key) key := by
  have spelled : SpellsKey _ key := .mk key.1 (spellsValue_renderValue key.2.toList)
  simpa [renderKey] using spelled

theorem spellsKeys_flatMap (keys : List Key) : SpellsKeys (keys.flatMap renderKey) keys := by
  induction keys with
  | nil => exact .nil
  | cons key rest ih => exact .cons (spellsKey_renderKey key) ih

theorem spellsArgument_renderChars (arg : PathArgument) :
    SpellsArgument arg.renderChars arg.told := by
  cases arg with
  | node name => exact .node name
  | entry name keys =>
    cases listed : keys.toList with
    | nil =>
      have told : (entry name keys).told = .node name := by
        simp [PathArgument.told, isKeyless, listed, PathArgument.name]
      rw [told, renderChars, listed, List.flatMap_nil, List.append_nil]
      exact .node name
    | cons key rest =>
      have told : (entry name keys).told = .entry name keys := by
        simp [PathArgument.told, isKeyless, listed]
      rw [told, renderChars]
      exact .entry name (spellsKeys_flatMap keys.toList) (by simp [listed]) fun _ => rfl

theorem told_eq_self_iff {arg : PathArgument} : arg.told = arg ↔ arg.isKeyless = false := by
  cases arg with
  | node name => simp [told, isKeyless]
  | entry name keys => simp [told, isKeyless]

end PathArgument

namespace InstancePath
open PathArgument
open Text (EndsPlainly)

theorem endsPlainly_flatMap {segments : List (List Char)} {args : List PathArgument}
    (spelled : List.Forall₂ SpellsArgument segments args) (some : args ≠ []) :
    EndsPlainly (segments.flatMap ('/' :: ·)) := by
  induction spelled with
  | nil => exact absurd rfl some
  | cons first others ih =>
    rename_i segment arg segments args
    rw [List.flatMap_cons]
    cases others with
    | nil =>
      rw [List.flatMap_nil, List.append_nil]
      exact first.endsPlainly.append ['/']
    | cons => exact (ih (List.cons_ne_nil _ _)).append _

/-- There is no white space around what spells a path. -/
theorem Spells.trim (spelled : Spells text path) : Text.trim text = text := by
  obtain ⟨body, starts⟩ := spelled.starts
  refine Text.trim_eq_self ?_ ?_
  · rw [starts]
    rintro c ⟨⟩
    decide
  · cases spelled with
    | root =>
      rintro c ⟨⟩
      decide
    | steps spelled some => exact (endsPlainly_flatMap spelled some).getLast?

/-- The path as its text tells it: entries without keys have become plain nodes. -/
def told (path : InstancePath) : InstancePath := ⟨path.args.map (·.told)⟩

theorem spells_renderChars (path : InstancePath) : Spells path.renderChars path.told := by
  obtain ⟨args⟩ := path
  cases args with
  | nil => exact .root
  | cons arg rest =>
    have printed : renderChars ⟨arg :: rest⟩ =
        ((arg :: rest).map PathArgument.renderChars).flatMap ('/' :: ·) := by
      rw [List.flatMap_map]
      rfl
    rw [printed]
    refine .steps ?_ (by simp)
    rw [List.forall₂_map_left_iff, List.forall₂_map_right_iff]
    exact List.forall₂_same.mpr fun arg _ => spellsArgument_renderChars arg

theorem parse_render (path : InstancePath) : parse path.render = .ok path.told := by
  have spelled := spells_renderChars path
  rw [parse, render, parseChars_eq_ok_iff, String.toList_ofList, spelled.trim]
  exact spelled

theorem told_eq_self_iff {path : InstancePath} :
    path.told = path ↔ ∀ arg ∈ path.args, arg.isKeyless = false := by
  obtain ⟨args⟩ := path
  have each : args.map PathArgument.told = args ↔ ∀ arg ∈ args, arg.told = arg := by
    simpa using List.map_inj_left (l := args) (f := PathArgument.told) (g := id)
  rw [told, InstancePath.mk.injEq, each]
  exact forall₂_congr fun _ _ => PathArgument.told_eq_self_iff

/-- Every printed path can be read, as the path that its text tells; it is read back as itself if and
only if each of its entries has a key. -/
theorem reads_back_iff (path : InstancePath) :
    parse path.render = .ok path.told ∧
      (parse path.render = .ok path ↔ ∀ arg ∈ path.args, arg.isKeyless = false) := by
  refine ⟨parse_render path, ?_⟩
  rw [parse_render path, ← told_eq_self_iff]
  constructor
  · intro same
    exact Except.ok.inj same
  · intro same
    rw [same]

/-- An entry without keys is not read back as itself. -/
theorem keyless_entry_not_read_back : ¬∀ path : InstancePath, parse path.render = .ok path := by
  intro always
  have read := always ⟨[.entry ⟨"a", by decide⟩ (Keys.ofList [])]⟩
  have other : parse (render ⟨[.entry ⟨"a", by decide⟩ (Keys.ofList [])]⟩) =
      .ok ⟨[.node ⟨"a", by decide⟩]⟩ := parse_render _
  rw [other] at read
  cases read

end InstancePath
end RpcRouting
