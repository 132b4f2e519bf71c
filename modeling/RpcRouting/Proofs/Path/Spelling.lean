import Mathlib.Data.List.Forall2
import Mathlib.Data.List.TakeWhile
import RpcRouting.Path.Instance
import RpcRouting.Proofs.Path.Naming
import RpcRouting.Proofs.Text.Trimming
/-! The grammar of instance paths, and that the reader keeps to it. A text spells a path if it is a
slash before each of its segments, where a segment is a name with key predicates behind it. The
grammar knows nothing of how a text is split: it says what a split text must look like. -/
namespace RpcRouting

namespace PathArgument

/-! The grammar of a segment. -/

/-- How a key's value is spelled: what is not a bracket or a backslash stands for itself, and so
does whatever stands behind a backslash. -/
inductive SpellsValue : List Char → List Char → Prop
  | nil : SpellsValue [] []
  | plain {c : Char} : needsEscape c = false → SpellsValue text value →
      SpellsValue (c :: text) (c :: value)
  | escaped (c : Char) : SpellsValue text value → SpellsValue ('\\' :: c :: text) (c :: value)

/-- A key is spelled as `[name=value]`. -/
inductive SpellsKey : List Char → Key → Prop
  | mk (name : QualifiedName) {value : String} : SpellsValue text value.toList →
      SpellsKey ('[' :: (name.chars ++ '=' :: (text ++ [']']))) (name, value)

inductive SpellsKeys : List Char → List Key → Prop
  | nil : SpellsKeys [] []
  | cons : SpellsKey text key → SpellsKeys rest keys → SpellsKeys (text ++ rest) (key :: keys)

/-- A segment is a name, alone or with the keys of an entry behind it. -/
inductive SpellsArgument : List Char → PathArgument → Prop
  | node (name : QualifiedName) : SpellsArgument name.chars (.node name)
  | entry (name : QualifiedName) {keys : Keys} : SpellsKeys text listed → listed ≠ [] →
      keys.Sorts listed → SpellsArgument (name.chars ++ text) (.entry name keys)

/-! Reading a segment. -/

theorem readValue_eq_some_iff {text value rest : List Char} :
    readValue text = some (value, rest) ↔
      ∃ spelling, text = spelling ++ ']' :: rest ∧ SpellsValue spelling value := by
  constructor
  · intro h
    fun_induction readValue text generalizing value rest with
    | case1 => cases h
    | case2 tail =>
      cases h
      exact ⟨[], rfl, .nil⟩
    | case3 => cases h
    | case4 => cases h
    | case5 c tail ih =>
      obtain ⟨⟨found, behind⟩, read, same⟩ := Option.map_eq_some_iff.mp h
      cases same
      obtain ⟨spelling, rfl, spelled⟩ := ih read
      exact ⟨'\\' :: c :: spelling, rfl, .escaped c spelled⟩
    | case6 c tail close opens lone escape ih =>
      obtain ⟨⟨found, behind⟩, read, same⟩ := Option.map_eq_some_iff.mp h
      cases same
      obtain ⟨spelling, rfl, spelled⟩ := ih read
      refine ⟨c :: spelling, rfl, .plain ?_ spelled⟩
      have back : c ≠ '\\' := by
        rintro rfl
        cases spelling with
        | nil => exact escape _ _ rfl rfl
        | cons => exact escape _ _ rfl rfl
      simp only [needsEscape, Bool.or_eq_false_iff, beq_eq_false_iff_ne]
      exact ⟨⟨back, fun same => opens same⟩, fun same => close same⟩
  · rintro ⟨spelling, rfl, spelled⟩
    induction spelled with
    | nil => rfl
    | plain free spelled ih =>
      simp only [needsEscape, Bool.or_eq_false_iff, beq_eq_false_iff_ne] at free
      obtain ⟨⟨back, opens⟩, close⟩ := free
      simp [readValue, back, ih]
    | escaped c spelled ih => simp [readValue, ih]

theorem readKey_eq_some_iff {text rest : List Char} {key : Key} :
    readKey text = some (key, rest) ↔
      ∃ spelling, text = spelling ++ rest ∧ SpellsKey spelling key := by
  constructor
  · intro h
    unfold readKey at h
    split at h
    · rename_i inner
      split at h
      · rename_i equals behind found
        obtain ⟨name, named, h⟩ := Option.bind_eq_some_iff.mp h
        obtain ⟨⟨value, remaining⟩, read, h⟩ := Option.bind_eq_some_iff.mp h
        cases h
        obtain ⟨spelling, rfl, spelled⟩ := readValue_eq_some_iff.mp read
        have stop : equals = '=' := by
          have head := List.head?_dropWhile_not (· != '=') inner
          rw [found] at head
          simpa using head
        have whole : inner = name.chars ++ '=' :: (spelling ++ ']' :: rest) := by
          rw [QualifiedName.chars_of_ofChars? named, ← stop, ← found, stop,
            List.takeWhile_append_dropWhile]
        refine ⟨'[' :: (name.chars ++ '=' :: (spelling ++ [']'])), ?_, ?_⟩
        · rw [whole]
          simp
        · exact .mk name (by simpa using spelled)
      · cases h
    · cases h
  · rintro ⟨spelling, rfl, spelled⟩
    cases spelled with
    | mk name spelled =>
      rename_i text value
      have read : readValue (text ++ ']' :: rest) = some (value.toList, rest) :=
        readValue_eq_some_iff.mpr ⟨text, rfl, spelled⟩
      have shape : '[' :: (name.chars ++ '=' :: (text ++ [']'])) ++ rest =
          '[' :: (name.chars ++ '=' :: (text ++ ']' :: rest)) := by simp
      rw [shape]
      have is : isReserved '=' = true := by decide
      simp only [readKey, name.dropWhile_chars_append is, name.takeWhile_chars_append is,
        QualifiedName.ofChars?_chars, read]
      simp

theorem SpellsKey.starts (spelled : SpellsKey text key) : ∃ rest, text = '[' :: rest := by
  cases spelled with
  | mk name spelled => exact ⟨_, rfl⟩

theorem readKeys_eq_some_iff {text : List Char} {keys : List Key} :
    readKeys text = some keys ↔ SpellsKeys text keys := by
  constructor
  · intro h
    fun_induction readKeys text generalizing keys with
    | case1 text empty =>
      cases h
      rw [List.isEmpty_iff.mp empty]
      exact .nil
    | case2 => cases h
    | case3 text more key rest read ih =>
      obtain ⟨others, found, rfl⟩ := Option.map_eq_some_iff.mp h
      obtain ⟨spelling, rfl, spelled⟩ := readKey_eq_some_iff.mp read
      exact .cons spelled (ih found)
  · intro spelled
    induction spelled with
    | nil =>
      rw [readKeys]
      rfl
    | cons first others ih =>
      rename_i text key rest keys
      have read : readKey (text ++ rest) = some (key, rest) :=
        readKey_eq_some_iff.mpr ⟨text, rfl, first⟩
      have more : ¬(text ++ rest).isEmpty = true := by
        obtain ⟨behind, rfl⟩ := first.starts
        simp
      rw [readKeys, if_neg more]
      split
      · rename_i none
        rw [read] at none
        cases none
      · rename_i found behind some
        rw [read] at some
        cases some
        rw [ih, Option.map_some]

theorem SpellsKeys.starts (spelled : SpellsKeys text keys) (some : keys ≠ []) :
    ∃ rest, text = '[' :: rest := by
  cases spelled with
  | nil => exact absurd rfl some
  | cons first others =>
    obtain ⟨behind, rfl⟩ := first.starts
    exact ⟨_, rfl⟩

theorem parse_eq_ok_iff {segment : List Char} {arg : PathArgument} :
    parse segment = .ok arg ↔ SpellsArgument segment arg := by
  constructor
  · intro h
    have whole : segment.takeWhile (· != '[') ++ segment.dropWhile (· != '[') = segment :=
      List.takeWhile_append_dropWhile
    unfold parse at h
    dsimp only at h
    cases named : QualifiedName.parse (segment.takeWhile (· != '[')) with
    | error error =>
      rw [named] at h
      split at h <;> cases h
    | ok name =>
      have chars := QualifiedName.parse_eq_ok_iff.mp named
      rw [named] at h
      rw [← chars] at whole
      split at h
      · rename_i plain
        cases h
        rw [List.isEmpty_iff.mp plain, List.append_nil] at whole
        rw [← whole]
        exact .node name
      · rename_i more
        cases read : readKeys (segment.dropWhile (· != '[')) with
        | none =>
          rw [read] at h
          cases h
        | some listed =>
          rw [read] at h
          cases h
          have spelled := readKeys_eq_some_iff.mp read
          have some : listed ≠ [] := by
            rintro rfl
            generalize predicates : segment.dropWhile (· != '[') = text at spelled more
            cases spelled
            exact more rfl
          rw [← whole]
          exact .entry name spelled some (Keys.sorts_ofList listed)
  · intro spelled
    cases spelled with
    | node name =>
      have plain : ∀ c ∈ name.chars, (c != '[') = true := fun c member => by
        simpa using QualifiedName.ne_of_mem_chars member (by decide)
      have front : name.chars.takeWhile (· != '[') = name.chars :=
        List.takeWhile_eq_self_iff.mpr plain
      have back : name.chars.dropWhile (· != '[') = [] :=
        List.dropWhile_eq_nil_iff.mpr plain
      have read := QualifiedName.parse_eq_ok_iff.mpr (rfl : name.chars = name.chars)
      simp only [parse, front, back, read]
      rfl
    | entry name spelled listing sorts =>
      obtain ⟨rest, rfl⟩ := spelled.starts listing
      have read := QualifiedName.parse_eq_ok_iff.mpr (rfl : name.chars = name.chars)
      have is : isReserved '[' = true := by decide
      simp only [parse, name.takeWhile_chars_append is, name.dropWhile_chars_append is, read,
        readKeys_eq_some_iff.mpr spelled, ← Keys.sorts_iff.mp sorts]
      rfl

theorem SpellsArgument.ne_nil (spelled : SpellsArgument text arg) : text ≠ [] := by
  cases spelled with
  | node name => exact name.chars_ne_nil
  | entry name => simp [name.chars_ne_nil]

end PathArgument

namespace InstancePath
open PathArgument

/-- How a text spells a path. The root is spelled by one slash. -/
inductive Spells : List Char → InstancePath → Prop
  | root : Spells ['/'] .empty
  | steps {args : List PathArgument} : List.Forall₂ SpellsArgument segments args → args ≠ [] →
      Spells (segments.flatMap ('/' :: ·)) ⟨args⟩

/-! Splitting. Within one segment a scan comes to no slash that splits. -/

/-- What a scan passes over without coming to a slash outside key predicates. -/
inductive Scan.Passes : Scan → List Char → Scan → Prop
  | done : Passes scan [] scan
  | char {c : Char} : ¬(scan = .outside ∧ c = '/') → Passes (scan.next c) rest last →
      Passes scan (c :: rest) last

namespace Scan.Passes

theorem append (first : Passes scan text middle) (second : Passes middle rest last) :
    Passes scan (text ++ rest) last := by
  induction first with
  | done => exact second
  | char free _ ih => exact .char free (ih second)

theorem single {c : Char} (free : ¬(scan = .outside ∧ c = '/')) : Passes scan [c] (scan.next c) :=
  .char free .done

/-- Names stand outside predicates without opening one. -/
theorem name (name : QualifiedName) : Passes .outside name.chars .outside := by
  have plain : ∀ c ∈ name.chars, c ≠ '/' ∧ c ≠ '[' := fun c member =>
    ⟨QualifiedName.ne_of_mem_chars member (by decide),
      QualifiedName.ne_of_mem_chars member (by decide)⟩
  generalize name.chars = chars at plain
  induction chars with
  | nil => exact .done
  | cons c rest ih =>
    obtain ⟨slash, opens⟩ := plain c List.mem_cons_self
    refine .char (fun found => slash found.2) ?_
    have stays : Scan.outside.next c = .outside := if_neg opens
    rw [stays]
    exact ih fun other member => plain other (List.mem_cons_of_mem _ member)

/-- A key's name may hold backslashes, so that the scan may take what stands behind them for
escaped; at the equals sign it is back where it was. -/
theorem keyName {scan : Scan} (within : scan ≠ .outside) (name : QualifiedName) :
    Passes scan (name.chars ++ ['=']) .inside := by
  have open' : ∀ c ∈ name.chars, c ≠ ']' := fun c member =>
    QualifiedName.ne_of_mem_chars member (by decide)
  generalize name.chars = chars at open'
  induction chars generalizing scan with
  | nil =>
    have ends : scan.next '=' = .inside := by
      cases scan with
      | outside => exact absurd rfl within
      | inside | escaped => rfl
    exact ends ▸ single fun found => within found.1
  | cons c rest ih =>
    refine .char (fun found => within found.1) (ih ?_ ?_)
    · cases scan with
      | outside => exact absurd rfl within
      | inside =>
        simp only [Scan.next, if_neg (open' c List.mem_cons_self)]
        split <;> exact nofun
      | escaped => exact nofun
    · exact fun other member => open' other (List.mem_cons_of_mem _ member)

theorem value {value : List Char} (spelled : SpellsValue text value) :
    Passes .inside text .inside := by
  induction spelled with
  | nil => exact .done
  | plain free _ ih =>
    simp only [needsEscape, Bool.or_eq_false_iff, beq_eq_false_iff_ne] at free
    refine .char (by simp) ?_
    rw [Scan.next, if_neg free.1.1, if_neg free.2]
    exact ih
  | escaped c _ ih =>
    exact .char (by simp) (.char (by simp [Scan.next]) ih)

theorem key {key : Key} (spelled : SpellsKey text key) : Passes .outside text .outside := by
  cases spelled with
  | mk name spelled =>
    rename_i text value
    have name : Passes .inside (name.chars ++ ['=']) .inside := keyName Scan.noConfusion name
    have close : Passes .inside [']'] .outside := single (by simp)
    have inner := name.append ((Passes.value spelled).append close)
    refine .char (by simp) ?_
    simpa [Scan.next] using inner

theorem keys {keys : List Key} (spelled : SpellsKeys text keys) : Passes .outside text .outside := by
  induction spelled with
  | nil => exact .done
  | cons first _ ih => exact (key first).append ih

theorem argument (spelled : SpellsArgument text arg) : Passes .outside text .outside := by
  cases spelled with
  | node name => exact Passes.name name
  | entry name spelled => exact (Passes.name name).append (keys spelled)

end Scan.Passes

theorem splitSegments_of_passes {segment : List Char} {others : List (List Char)}
    (passes : Scan.Passes scan text last)
    (behind : splitSegments last rest = segment :: others) :
    splitSegments scan (text ++ rest) = (text ++ segment) :: others := by
  induction passes with
  | done => exact behind
  | char free _ ih => rw [List.cons_append, splitSegments, if_neg free, ih behind]; rfl

/-- Nothing is lost where a text is split. -/
theorem flatMap_splitSegments (scan : Scan) (text : List Char) :
    (splitSegments scan text).flatMap ('/' :: ·) = '/' :: text := by
  induction text generalizing scan with
  | nil => rfl
  | cons c rest ih =>
    rw [splitSegments]
    split
    · rename_i slash
      rw [List.flatMap_cons, ih, slash.2]
      rfl
    · have whole := ih (scan.next c)
      cases split : splitSegments (scan.next c) rest with
      | nil =>
        rw [split] at whole
        cases whole
      | cons segment others =>
        rw [split, List.flatMap_cons] at whole
        rw [consHead, List.flatMap_cons, List.cons_append, List.cons_append,
          ← (List.cons.inj whole).2]
        rfl

/-- Segments that spell steps of a path are found where they stand. -/
theorem splitSegments_eq {segments : List (List Char)} {args : List PathArgument}
    (spelled : List.Forall₂ SpellsArgument segments args) {body : List Char}
    (whole : segments.flatMap ('/' :: ·) = '/' :: body) :
    splitSegments .outside body = segments := by
  induction spelled generalizing body with
  | nil => cases whole
  | cons first others ih =>
    rename_i segment arg segments args
    rw [List.flatMap_cons, List.cons_append, List.cons.injEq] at whole
    rw [← whole.2]
    have passes := Scan.Passes.argument first
    cases segments with
    | nil =>
      have behind : splitSegments .outside [] = [[]] := rfl
      rw [List.flatMap_nil, splitSegments_of_passes passes behind, List.append_nil]
    | cons next later =>
      have behind : splitSegments .outside ((next :: later).flatMap ('/' :: ·)) =
          [] :: (next :: later) := by
        rw [List.flatMap_cons, List.cons_append, splitSegments, if_pos ⟨rfl, rfl⟩]
        rw [ih (by rw [List.flatMap_cons, List.cons_append])]
      rw [splitSegments_of_passes passes behind, List.append_nil]

/-! Reading a path. -/

theorem mapM_eq_ok_iff {α β ε : Type} {f : α → Except ε β} {items : List α} {results : List β} :
    items.mapM f = .ok results ↔
      List.Forall₂ (fun item result => f item = .ok result) items results := by
  induction items generalizing results with
  | nil =>
    constructor
    · intro h
      cases h
      exact .nil
    · rintro ⟨⟩
      rfl
  | cons item rest ih =>
    rw [List.mapM_cons]
    constructor
    · intro h
      cases first : f item with
      | error error =>
        rw [first] at h
        cases h
      | ok result =>
        cases later : rest.mapM f with
        | error error =>
          rw [first, later] at h
          cases h
        | ok others =>
          rw [first, later] at h
          cases h
          exact .cons first (ih.mp later)
    · rintro (_ | ⟨first, later⟩)
      rw [first, ih.mpr later]
      rfl

theorem parseSegment_eq_ok_iff {whole segment : List Char} {arg : PathArgument} :
    parseSegment whole segment = .ok arg ↔ SpellsArgument segment arg := by
  unfold parseSegment
  split
  · rename_i empty
    constructor
    · nofun
    · intro spelled
      exact absurd (List.isEmpty_iff.mp empty) spelled.ne_nil
  · exact PathArgument.parse_eq_ok_iff

theorem Spells.starts (spelled : Spells text path) : ∃ body, text = '/' :: body := by
  cases spelled with
  | root => exact ⟨[], rfl⟩
  | steps spelled some =>
    cases spelled with
    | nil => exact absurd rfl some
    | cons first others => exact ⟨_, rfl⟩

theorem spells_root {path : InstancePath} : Spells ['/'] path ↔ path = .empty := by
  constructor
  · generalize root : ['/'] = text
    intro spelled
    cases spelled with
    | root => rfl
    | steps spelled some =>
      cases spelled with
      | nil => cases root
      | cons first others =>
        rw [List.flatMap_cons, List.cons_append, List.cons.injEq] at root
        exact absurd (List.append_eq_nil_iff.mp root.2.symm).1 first.ne_nil
  · rintro rfl
    exact .root

theorem parseBody_eq_ok_iff {body : List Char} (more : body ≠ []) {path : InstancePath} :
    ((⟨·⟩) <$> (splitSegments .outside body).mapM (parseSegment ('/' :: body)) :
      Except PathError InstancePath) = .ok path ↔ Spells ('/' :: body) path := by
  constructor
  · intro h
    cases read : (splitSegments .outside body).mapM (parseSegment ('/' :: body)) with
    | error error =>
      rw [read] at h
      cases h
    | ok args =>
      rw [read] at h
      cases h
      have spelled := (mapM_eq_ok_iff.mp read).imp fun _ _ => parseSegment_eq_ok_iff.mp
      rw [← flatMap_splitSegments .outside body]
      refine .steps spelled ?_
      rintro rfl
      have none := flatMap_splitSegments .outside body
      rw [List.forall₂_nil_right_iff.mp spelled] at none
      cases none
  · generalize whole : '/' :: body = text
    intro spelled
    cases spelled with
    | root => exact absurd (List.cons.inj whole).2 more
    | steps spelled some =>
      rw [splitSegments_eq spelled whole.symm,
        mapM_eq_ok_iff.mpr (spelled.imp fun _ _ => parseSegment_eq_ok_iff.mpr)]
      rfl

/-- A text is read as a path if it spells it, apart from white space around it. -/
theorem parseChars_eq_ok_iff {text : List Char} {path : InstancePath} :
    parseChars text = .ok path ↔ Spells (Text.trim text) path := by
  unfold parseChars
  split
  · rename_i empty
    rw [empty]
    constructor
    · nofun
    · intro spelled
      obtain ⟨body, starts⟩ := spelled.starts
      cases starts
  · rename_i body trimmed
    rw [trimmed]
    split
    · rename_i empty
      rw [List.isEmpty_iff.mp empty, spells_root]
      constructor
      · intro h
        cases h
        rfl
      · rintro rfl
        rfl
    · rename_i more
      exact parseBody_eq_ok_iff (by simpa using more)
  · rename_i whole _ relative
    constructor
    · nofun
    · intro spelled
      obtain ⟨body, starts⟩ := spelled.starts
      exact absurd starts (relative body)

/-- Reading a text: white space around it does not count, and what is left is read as a path if and
only if it spells one. Every other text is refused. -/
theorem reads_iff_spells (text : String) :
    Text.Trims text.toList (Text.trim text.toList) ∧
      (∀ path, parse text = .ok path ↔ Spells (Text.trim text.toList) path) ∧
      ((∃ error, parse text = .error error) ↔ ∀ path, ¬Spells (Text.trim text.toList) path) := by
  have reads (path : InstancePath) : parse text = .ok path ↔ Spells (Text.trim text.toList) path :=
    parseChars_eq_ok_iff
  refine ⟨Text.trims_trim text.toList, reads, ?_⟩
  constructor
  · rintro ⟨error, refused⟩ path spelled
    rw [(reads path).mpr spelled] at refused
    cases refused
  · intro none
    cases result : parse text with
    | error error => exact ⟨error, rfl⟩
    | ok path => exact absurd ((reads path).mp result) (none path)

end InstancePath
end RpcRouting
