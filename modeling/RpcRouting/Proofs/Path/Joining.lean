import RpcRouting.Payload.Shape
import RpcRouting.Proofs.Path.Spelling
/-! Schema paths are spelled in one way. A text is read as the path whose printed form it is, apart
from white space around it, and as no other; and the printed forms are one slash, and names with
single slashes between them, perhaps with one in front. -/
namespace RpcRouting
namespace SchemaPath
open Text (Trims)

/-- The grammar of schema paths: one slash, or names with single slashes between them and perhaps one
in front. -/
def IsSpelling (text : List Char) : Prop :=
  text = ['/'] ∨ ∃ (lead : List Char) (names : List QualifiedName), (lead = [] ∨ lead = ['/']) ∧
    names ≠ [] ∧ text = lead ++ ['/'].intercalate (names.map QualifiedName.chars)

/-- Every path is made from its components. -/
theorem create_components (path : SchemaPath) : create path.absolute path.components = path := by
  obtain ⟨absolute, components, absolute_of_nil⟩ := path
  cases components with
  | nil => simp [create, absolute_of_nil]
  | cons => simp [create]

theorem eq_root_iff {path : SchemaPath} : path = root ↔ path.components = [] := by
  constructor
  · rintro rfl
    rfl
  · intro none
    rw [← path.create_components, none]
    simp [create, root]

theorem components_ne_nil {path : SchemaPath} (relative : path.absolute = false) :
    path.components ≠ [] := by
  intro none
  rw [path.absolute_of_nil none] at relative
  cases relative

/-! Names with slashes between them. -/

theorem join_eq_intercalate (names : List QualifiedName) :
    join names = ['/'].intercalate (names.map QualifiedName.chars) := by
  fun_induction join names with
  | case1 => rfl
  | case2 name => simp
  | case3 name rest more ih =>
    obtain ⟨next, later, rfl⟩ := List.exists_cons_of_ne_nil more
    rw [List.map_cons, List.map_cons, List.intercalate_cons_cons, ih, List.map_cons]
    simp

theorem splitOn_eq_iff {body : List Char} {names : List QualifiedName} :
    body.splitOn '/' = names.map QualifiedName.chars ↔ names ≠ [] ∧ join names = body := by
  rw [join_eq_intercalate]
  constructor
  · intro split
    refine ⟨?_, ?_⟩
    · rintro rfl
      exact List.splitOn_ne_nil _ _ split
    · rw [← split, List.intercalate_splitOn]
  · rintro ⟨some, rfl⟩
    refine List.splitOn_intercalate '/' ?_ (by simpa using some)
    intro segment member slash
    obtain ⟨name, -, rfl⟩ := List.mem_map.mp member
    exact QualifiedName.ne_of_mem_chars slash (by decide) rfl

theorem join_eq_nil_iff {names : List QualifiedName} : join names = [] ↔ names = [] := by
  fun_induction join names with
  | case1 => simp
  | case2 name => simp [name.chars_ne_nil]
  | case3 name rest more => simp

/-! Reading. -/

theorem parseSegment_eq_ok_iff {whole segment : List Char} {name : QualifiedName} :
    parseSegment whole segment = .ok name ↔ segment = name.chars := by
  unfold parseSegment
  split
  · rename_i empty
    rw [List.isEmpty_iff.mp empty]
    simp [name.chars_ne_nil.symm]
  · exact QualifiedName.parse_eq_ok_iff.trans eq_comm

theorem mapM_parseSegment_eq_ok_iff {whole body : List Char} {names : List QualifiedName} :
    (body.splitOn '/').mapM (parseSegment whole) = .ok names ↔ names ≠ [] ∧ join names = body := by
  rw [InstancePath.mapM_eq_ok_iff, ← splitOn_eq_iff, ← List.forall₂_eq_eq_eq,
    List.forall₂_map_right_iff]
  simp only [parseSegment_eq_ok_iff]

/-- The root has no components, and a path with components is made from them. -/
theorem parseBody_eq_ok_iff {absolute : Bool} {whole body : List Char} {path : SchemaPath} :
    parseBody absolute whole body = .ok path ↔
      if body = [] then path = root
      else join path.components = body ∧ path.absolute = absolute := by
  unfold parseBody
  by_cases empty : body = []
  · simp [empty, eq_comm]
  · rw [if_neg empty, if_neg (by simpa using empty)]
    constructor
    · intro read
      cases names : (body.splitOn '/').mapM (parseSegment whole) with
      | error error =>
        rw [names] at read
        cases read
      | ok found =>
        obtain ⟨some, joined⟩ := mapM_parseSegment_eq_ok_iff.mp names
        rw [names] at read
        cases read
        exact ⟨joined, by simp [create, some]⟩
    · rintro ⟨rfl, rfl⟩
      have some : path.components ≠ [] := mt join_eq_nil_iff.mpr empty
      rw [mapM_parseSegment_eq_ok_iff.mpr ⟨some, rfl⟩]
      exact congrArg Except.ok path.create_components

/-- A relative path starts with a name. -/
theorem head?_join {names : List QualifiedName} {c : Char} (first : c ∈ (join names).head?) :
    isReserved c = false := by
  fun_induction join names with
  | case1 => cases first
  | case2 name => exact QualifiedName.isReserved_of_mem_chars (List.mem_of_mem_head? first)
  | case3 name rest more =>
    rw [List.head?_append_of_ne_nil _ name.chars_ne_nil] at first
    exact QualifiedName.isReserved_of_mem_chars (List.mem_of_mem_head? first)

/-- A text is read as the path whose printed form it is, apart from white space around it. -/
theorem parseChars_eq_ok_iff {text : List Char} {path : SchemaPath} :
    parseChars text = .ok path ↔ path.renderChars = Text.trim text := by
  unfold parseChars renderChars
  generalize Text.trim text = whole
  split
  · constructor
    · nofun
    · cases absolute : path.absolute with
      | true => nofun
      | false => exact fun nothing => absurd (join_eq_nil_iff.mp nothing) (components_ne_nil absolute)
  · rename_i body
    rw [parseBody_eq_ok_iff]
    cases absolute : path.absolute with
    | true =>
      by_cases root : body = []
      · simp [root, eq_root_iff, join_eq_nil_iff]
      · simp [root]
    | false =>
      -- A relative path starts with a name, and the root is not relative.
      have slash : join path.components ≠ '/' :: body := by
        intro starts
        have first : '/' ∈ (join path.components).head? := by
          rw [starts]
          rfl
        cases head?_join first
      have other : path ≠ root := mt eq_root_iff.mp (components_ne_nil absolute)
      split <;> simp [slash, other]
  · rename_i more away
    rw [parseBody_eq_ok_iff, if_neg more]
    cases absolute : path.absolute with
    | true =>
      have slash : '/' :: join path.components ≠ whole := fun starts => away _ starts.symm
      simp [slash]
    | false => simp

/-- There is no white space in a printed path. -/
theorem isBlank_of_mem_renderChars {path : SchemaPath} {c : Char} (member : c ∈ path.renderChars) :
    Text.isBlank c = false := by
  have joined (names : List QualifiedName) (inside : c ∈ join names) : Text.isBlank c = false := by
    fun_induction join names with
    | case1 => cases inside
    | case2 name => exact QualifiedName.isBlank_of_mem_chars inside
    | case3 name rest more ih =>
      rcases List.mem_append.mp inside with here | later
      · exact QualifiedName.isBlank_of_mem_chars here
      · rcases List.mem_cons.mp later with rfl | later
        · rfl
        · exact ih later
  unfold renderChars at member
  split at member
  · rcases List.mem_cons.mp member with rfl | inside
    · rfl
    · exact joined _ inside
  · exact joined _ member

theorem trim_renderChars (path : SchemaPath) : Text.trim path.renderChars = path.renderChars :=
  Text.trim_eq_self (fun _ first => isBlank_of_mem_renderChars (List.mem_of_mem_head? first))
    fun _ last => isBlank_of_mem_renderChars (List.mem_of_mem_getLast? last)

/-- The grammar tells which texts are printed forms. -/
theorem isSpelling_iff {text : List Char} :
    IsSpelling text ↔ ∃ path : SchemaPath, path.renderChars = text := by
  constructor
  · rintro (rfl | ⟨lead, names, leads, some, rfl⟩)
    · exact ⟨root, rfl⟩
    · rw [← join_eq_intercalate]
      rcases leads with rfl | rfl
      · exact ⟨create false names, by simp [renderChars, create, some]⟩
      · exact ⟨create true names, rfl⟩
  · rintro ⟨path, rfl⟩
    by_cases some : path.components = []
    · left
      rw [eq_root_iff.mpr some]
      rfl
    · right
      unfold renderChars
      split
      · exact ⟨['/'], path.components, .inr rfl, some, by rw [join_eq_intercalate]; rfl⟩
      · exact ⟨[], path.components, .inl rfl, some, by rw [join_eq_intercalate]; rfl⟩

theorem parse_eq_ok_iff {text : String} {path : SchemaPath} :
    parse text = .ok path ↔ path.render = String.ofList (Text.trim text.toList) := by
  rw [parse, parseChars_eq_ok_iff, render, String.ofList_inj]

theorem parse_render (path : SchemaPath) : parse path.render = .ok path := by
  rw [parse_eq_ok_iff, render, String.toList_ofList, trim_renderChars]

/-- A printed path is read back as itself, also where it stands in a payload, and a text is read if
and only if it is spelled by the grammar, apart from white space around it; then what is left of it
without that white space is the printed form of what is read. Every path comes from a list of
components, and is absolute if the list is empty. -/
theorem reads_printed_form (path : SchemaPath) (text : String) :
    parse path.render = .ok path ∧
      (Payload.string path.render).readSchemaPath = .ok path ∧
      Trims text.toList (Text.trim text.toList) ∧
      ((∃ found, parse text = .ok found) ↔ IsSpelling (Text.trim text.toList)) ∧
      (∀ found, parse text = .ok found ↔ found.render = String.ofList (Text.trim text.toList)) ∧
      (∀ absolute components, (create absolute components).components = components ∧
        ((create absolute components).absolute = false ↔ absolute = false ∧ components ≠ [])) ∧
      path = create path.absolute path.components ∧
      ¬(path.absolute = false ∧ path.components = []) := by
  refine ⟨parse_render path, ?_, Text.trims_trim _, ?_, fun found => parse_eq_ok_iff, ?_,
    path.create_components.symm, fun both => components_ne_nil both.1 both.2⟩
  · show (parse path.render).mapError ShapeError.path = .ok path
    rw [parse_render]
    rfl
  · rw [isSpelling_iff]
    refine exists_congr fun found => ?_
    rw [parse, parseChars_eq_ok_iff]
  · intro absolute components
    refine ⟨rfl, ?_⟩
    simp [create]

end SchemaPath
end RpcRouting
