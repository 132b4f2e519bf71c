import Mathlib
import RpcRouting.Proofs.Path.Printing
/-! What texts denote a path, and their normal form, which is the text of the path they are read as.
Texts of one path have one normal form, and the normal form of a text lists what stands in it: the
same segments, with their key predicates in the order of their names and with no backslash too
many. -/
namespace RpcRouting

/-! What stands in a text. -/

/-- A segment as it is listed in a text: its name, and its keys in the order in which they stand
behind it. -/
structure Segment where
  name : QualifiedName
  keys : List Key

namespace Segment

/-- Some way to spell the values of keys. -/
abbrev Spelling := (text value : List Char) → Prop

/-- The text of a key predicate, `[name=value]`. -/
def ListsKey (spells : Spelling) (text : List Char) (key : Key) : Prop :=
  ∃ value, spells value key.2.toList ∧ text = '[' :: (key.1.chars ++ '=' :: (value ++ [']']))

/-- The text of a segment, which is its name with its key predicates behind it. -/
def Lists (spells : Spelling) (text : List Char) (segment : Segment) : Prop :=
  ∃ predicates, List.Forall₂ (ListsKey spells) predicates segment.keys ∧
    text = segment.name.chars ++ predicates.flatten

/-- The text of segments, which has a slash before each. Without segments it is one slash. -/
def ListsAll (spells : Spelling) (text : List Char) (segments : List Segment) : Prop :=
  if segments = [] then text = ['/']
  else ∃ parts, List.Forall₂ (Lists spells) parts segments ∧ text = parts.flatMap ('/' :: ·)

/-- A value with a backslash before each backslash and each bracket, and before nothing else. -/
inductive Writes : Spelling
  | nil : Writes [] []
  | plain {c : Char} : c ∉ ['\\', '[', ']'] → Writes text value → Writes (c :: text) (c :: value)
  | escaped {c : Char} : c ∈ ['\\', '[', ']'] → Writes text value →
      Writes ('\\' :: c :: text) (c :: value)

/-- A segment with its keys put in the order of their names, where those of one name stay in the
order in which they were listed. -/
structure Tidies (listed tidy : Segment) : Prop where
  name : tidy.name = listed.name
  ordered : tidy.keys.Pairwise (·.1 ≤ ·.1)
  stable : ∀ name, tidy.keys.filter (·.1 = name) = listed.keys.filter (·.1 = name)

/-- The segment that is printed for a step of a path. -/
def ofArgument : PathArgument → Segment
  | .node name => ⟨name, []⟩
  | .entry name keys => ⟨name, keys.toList⟩

end Segment

namespace PathArgument
open Segment

/-! What is spelled is listed. -/

theorem SpellsKeys.lists {text : List Char} {keys : List Key} (spelled : SpellsKeys text keys) :
    ∃ predicates, List.Forall₂ (ListsKey SpellsValue) predicates keys ∧
      text = predicates.flatten := by
  induction spelled with
  | nil => exact ⟨[], .nil, rfl⟩
  | cons first _ ih =>
    obtain ⟨predicates, listed, rfl⟩ := ih
    cases first with
    | mk name value => exact ⟨_ :: predicates, .cons ⟨_, value, rfl⟩ listed, rfl⟩

/-- A spelled step of a path lists a segment, which is printed in its tidy form. -/
theorem SpellsArgument.lists (spelled : SpellsArgument text arg) :
    ∃ listed, Lists SpellsValue text listed ∧ Tidies listed (.ofArgument arg) := by
  cases spelled with
  | node name => exact ⟨⟨name, []⟩, ⟨[], .nil, by simp⟩, rfl, .nil, fun _ => rfl⟩
  | @entry text listed name keys spelled _ sorts =>
    obtain ⟨predicates, each, rfl⟩ := spelled.lists
    exact ⟨⟨name, listed⟩, ⟨predicates, each, rfl⟩, rfl, keys.sorted, sorts⟩

/-- What can be read has keys wherever it is an entry. -/
theorem SpellsArgument.isKeyless (spelled : SpellsArgument text arg) : arg.isKeyless = false := by
  cases spelled with
  | node => rfl
  | @entry text listed name keys spelled some sorts =>
    obtain ⟨key, rest, rfl⟩ := List.exists_cons_of_ne_nil some
    cases empty : keys.toList with
    | nil => simpa [empty] using sorts key.1
    | cons => simp [PathArgument.isKeyless, empty]

/-! What is printed is written tidily. -/

theorem writes_renderValue (value : List Char) : Writes (renderValue value) value := by
  induction value with
  | nil => exact .nil
  | cons c rest ih =>
    rw [renderValue]
    split
    · rename_i needs
      exact .escaped (by simpa [needsEscape, or_assoc] using needs) ih
    · rename_i plain
      exact .plain (by simpa [needsEscape, and_assoc] using plain) ih

theorem lists_renderKey (key : Key) : ListsKey Writes (renderKey key) key :=
  ⟨renderValue key.2.toList, writes_renderValue _, by simp [renderKey]⟩

theorem lists_renderChars (arg : PathArgument) :
    Lists Writes arg.renderChars (.ofArgument arg) := by
  cases arg with
  | node name => exact ⟨[], .nil, by simp [renderChars, Segment.ofArgument]⟩
  | entry name keys =>
    refine ⟨keys.toList.map renderKey, ?_, ?_⟩
    · rw [List.forall₂_map_left_iff]
      exact List.forall₂_same.mpr fun key _ => lists_renderKey key
    · rw [renderChars, List.flatMap_def]
      rfl

end PathArgument

namespace InstancePath
open PathArgument Segment
open Text (Trims)

/-- A text denotes a path if it spells it, apart from white space around it. -/
def Denotes (text : String) (path : InstancePath) : Prop :=
  ∃ body, Trims text.toList body ∧ Spells body path

theorem parse_eq_ok_iff {text : String} {path : InstancePath} :
    parse text = .ok path ↔ Denotes text path := by
  rw [parse, parseChars_eq_ok_iff]
  constructor
  · intro spelled
    exact ⟨_, Text.trims_trim _, spelled⟩
  · rintro ⟨body, trims, spelled⟩
    rwa [trims.trim_eq]

/-- The text of the path that a text is read as. -/
def normalise (text : String) : Except PathError String := render <$> parse text

theorem Spells.told (spelled : Spells text path) : path.told = path := by
  rw [told_eq_self_iff]
  cases spelled with
  | root => exact nofun
  | steps spelled some =>
    clear some
    induction spelled with
    | nil => exact nofun
    | cons first _ ih => exact List.forall_mem_cons.mpr ⟨first.isKeyless, ih⟩

/-- What has been read is read back from its printed text. -/
theorem parse_render_of_parse {text : String} {path : InstancePath} (read : parse text = .ok path) :
    parse path.render = .ok path := by
  rw [parse_render, (parseChars_eq_ok_iff.mp read).told]

theorem normalise_of_parse {text : String} {path : InstancePath} (read : parse text = .ok path) :
    normalise text = .ok path.render := by
  rw [normalise, read]
  rfl

/-- There is no white space around a printed path. -/
theorem trims_render (path : InstancePath) : Trims path.render.toList path.render.toList := by
  have kept : Text.trim path.renderChars = path.renderChars := (spells_renderChars path).trim
  have trims := Text.trims_trim path.renderChars
  rw [kept] at trims
  rwa [render, String.toList_ofList]

/-- A text that can be read lists segments, and the printed path writes them in their tidy form. -/
theorem Spells.lists (spelled : Spells text path) :
    ∃ listed tidy, ListsAll SpellsValue text listed ∧ List.Forall₂ Tidies listed tidy ∧
      ListsAll Writes path.renderChars tidy := by
  cases spelled with
  | root => exact ⟨[], [], rfl, .nil, rfl⟩
  | @steps parts args spelled some =>
    have both : ∃ listed, List.Forall₂ (Lists SpellsValue) parts listed ∧
        List.Forall₂ Tidies listed (args.map .ofArgument) := by
      clear some
      induction spelled with
      | nil => exact ⟨[], .nil, .nil⟩
      | cons first _ ih =>
        obtain ⟨segment, stands, tidies⟩ := first.lists
        obtain ⟨listed, others, tidy⟩ := ih
        exact ⟨segment :: listed, .cons stands others, .cons tidies tidy⟩
    obtain ⟨listed, stands, tidies⟩ := both
    have more : listed ≠ [] := by
      rintro rfl
      exact some (List.map_eq_nil_iff.mp (List.forall₂_nil_left_iff.mp tidies))
    refine ⟨listed, args.map .ofArgument, ?_, tidies, ?_⟩
    · rw [ListsAll, if_neg more]
      exact ⟨parts, stands, rfl⟩
    · rw [ListsAll, if_neg (by simpa using some)]
      refine ⟨args.map PathArgument.renderChars, ?_, ?_⟩
      · rw [List.forall₂_map_left_iff, List.forall₂_map_right_iff]
        exact List.forall₂_same.mpr fun arg _ => lists_renderChars arg
      · rw [List.flatMap_map, renderChars, if_neg (by simpa [isEmpty] using some)]

/-- The normal form of a text is read as the same path and is its own normal form, two texts are of
one path if and only if they have one normal form, and the normal form has no white space around it
and writes the segments of the text tidily. -/
theorem reads_as_normal_form {text : String} {path : InstancePath} (read : parse text = .ok path) :
    ∃ normal, normalise text = .ok normal ∧ parse normal = .ok path ∧
      normalise normal = .ok normal ∧
      (∀ other another, parse other = .ok another →
        (path = another ↔ normalise text = normalise other)) ∧
      Trims normal.toList normal.toList ∧
      ∃ listed tidy, ListsAll SpellsValue (Text.trim text.toList) listed ∧
        List.Forall₂ Tidies listed tidy ∧ ListsAll Writes normal.toList tidy := by
  have back := parse_render_of_parse read
  have lists := (parseChars_eq_ok_iff.mp read).lists
  rw [← String.toList_ofList (l := path.renderChars)] at lists
  refine ⟨path.render, normalise_of_parse read, back, normalise_of_parse back, ?_,
    trims_render path, lists⟩
  intro other another read'
  rw [normalise_of_parse read, normalise_of_parse read', Except.ok.injEq]
  constructor
  · rintro rfl
    rfl
  · intro same
    have back' := parse_render_of_parse read'
    rw [← same, back] at back'
    exact Except.ok.inj back'

/-- Two spellings of one path, with the keys in another order, with superfluous backslashes and with
white space around one of them. -/
theorem reads_as_normal_form_reordered :
    normalise " /n[b=1][a=\\x] " = .ok "/n[a=x][b=1]" ∧
      normalise " /n[b=1][a=\\x] " = normalise "/n[a=x][b=\\1]" := by
  have read : parse " /n[b=1][a=\\x] " = .ok ⟨[.entry ⟨"n", by decide⟩
      (Keys.ofList [(⟨"b", by decide⟩, "1"), (⟨"a", by decide⟩, "x")])]⟩ := by cbv
  have another : parse "/n[a=x][b=\\1]" = .ok ⟨[.entry ⟨"n", by decide⟩
      (Keys.ofList [(⟨"b", by decide⟩, "1"), (⟨"a", by decide⟩, "x")])]⟩ := by cbv
  obtain ⟨_, _, _, _, same, _⟩ := reads_as_normal_form read
  refine ⟨?_, (same _ _ another).mp rfl⟩
  rw [normalise_of_parse read]
  exact congrArg Except.ok (by decide)

end InstancePath
end RpcRouting
