import Mathlib
import RpcRouting.Proofs.Path.Spelling
/-! Paths are read segment by segment, from the left. Where a segment ends, the scan for slashes is
outside key predicates again, whatever stands behind; so a text that is put together from a path and
another text is read as the path and that text are, and it is refused for what that text is refused
for. -/
namespace RpcRouting

namespace Text

theorem trim_eq_nil_iff {text : List Char} : trim text = [] ↔ ∀ c ∈ text, isBlank c = true := by
  constructor
  · intro nothing
    obtain ⟨before, after, whole, blank, blank'⟩ := (trims_trim text).around
    rw [nothing, List.append_nil] at whole
    intro c member
    rw [whole] at member
    exact (List.mem_append.mp member).elim (blank c) (blank' c)
  · intro blank
    exact Trims.trim_eq ⟨⟨text, [], by simp, blank, List.forall_mem_nil _⟩, by simp, by simp⟩

/-- White space is taken off at the end only where a text starts with another character. -/
theorem exists_trim_cons {c : Char} (shown : isBlank c = false) (rest : List Char) :
    ∃ body after, trim (c :: rest) = c :: body ∧ rest = body ++ after ∧
      ∀ d ∈ after, isBlank d = true := by
  obtain ⟨before, after, whole, blank, blank'⟩ := (trims_trim (c :: rest)).around
  have none : before = [] := by
    cases before with
    | nil => rfl
    | cons d others =>
      obtain ⟨rfl, -⟩ := List.cons.inj whole
      rw [blank c List.mem_cons_self] at shown
      cases shown
  subst none
  cases trimmed : trim (c :: rest) with
  | nil =>
    rw [trim_eq_nil_iff.mp trimmed c List.mem_cons_self] at shown
    cases shown
  | cons d body =>
    rw [trimmed] at whole
    obtain ⟨rfl, same⟩ := List.cons.inj whole
    exact ⟨body, after, rfl, same, blank'⟩

/-- A text without white space around it is kept in front of a character that is none. -/
theorem trim_append_cons {front : List Char} (kept : trim front = front) {c : Char}
    (shown : isBlank c = false) (rest : List Char) :
    trim (front ++ c :: rest) = front ++ trim (c :: rest) := by
  have front' := trims_trim front
  have back := trims_trim (c :: rest)
  obtain ⟨body, after, trimmed, rfl, blank⟩ := exists_trim_cons shown rest
  rw [kept] at front'
  rw [trimmed] at back ⊢
  refine Trims.trim_eq ⟨⟨[], after, by simp, List.forall_mem_nil _, blank⟩, ?_, ?_⟩
  · intro d first
    cases front with
    | nil => exact back.first d first
    | cons => exact front'.first d first
  · intro d last
    rw [List.getLast?_append_cons] at last
    exact back.last d last

end Text

/-- The error as it is met in the text `whole`: for an empty segment it is the text that is named, and
not the segment. -/
def PathError.within (whole : String) : PathError → PathError
  | .emptySegment _ => .emptySegment whole
  | error => error

/-! Errors where several items are read one after the other. -/

theorem mapM_mapError {α β ε ε' : Type} (f : α → Except ε β) (g : ε → ε') (items : List α) :
    (items.mapM fun item => (f item).mapError g) = (items.mapM f).mapError g := by
  induction items with
  | nil => rfl
  | cons item rest ih =>
    rw [List.mapM_cons, List.mapM_cons, ih]
    cases f item with
    | error error => rfl
    | ok result => cases rest.mapM f <;> rfl

theorem exists_of_mapM_eq_error {α β ε : Type} {f : α → Except ε β} {items : List α} {error : ε}
    (refused : items.mapM f = .error error) : ∃ item ∈ items, f item = .error error := by
  induction items with
  | nil => cases refused
  | cons item rest ih =>
    rw [List.mapM_cons] at refused
    cases first : f item with
    | error found =>
      rw [first] at refused
      cases refused
      exact ⟨item, List.mem_cons_self, first⟩
    | ok result =>
      cases later : rest.mapM f with
      | error found =>
        rw [first, later] at refused
        cases refused
        obtain ⟨other, member, same⟩ := ih later
        exact ⟨other, List.mem_cons_of_mem _ member, same⟩
      | ok results =>
        rw [first, later] at refused
        cases refused

namespace PathArgument

/-- What a segment is refused for is its name or its key predicates. -/
theorem parse_error {segment : List Char} {error : PathError}
    (refused : parse segment = .error error) :
    (∃ name, error = .invalidName name) ∨ error = .malformedPredicate (String.ofList segment) := by
  have named {cs : List Char} {error : PathError} (bad : QualifiedName.parse cs = .error error) :
      ∃ name, error = .invalidName name := by
    unfold QualifiedName.parse at bad
    split at bad
    · cases bad
    · cases bad
      exact ⟨_, rfl⟩
  unfold parse at refused
  dsimp only at refused
  cases name : QualifiedName.parse (segment.takeWhile (· != '[')) with
  | error found =>
    rw [name] at refused
    split at refused <;> cases refused <;> exact .inl (named name)
  | ok name' =>
    rw [name] at refused
    split at refused
    · cases refused
    · cases keys : readKeys (segment.dropWhile (· != '[')) with
      | none =>
        rw [keys] at refused
        cases refused
        exact .inr rfl
      | some listed =>
        rw [keys] at refused
        cases refused

end PathArgument

namespace InstancePath
open PathArgument

theorem parseSegment_error {whole segment : List Char} {error : PathError}
    (refused : parseSegment whole segment = .error error) :
    error = .emptySegment (String.ofList whole) ∨ (∃ name, error = .invalidName name) ∨
      error = .malformedPredicate (String.ofList segment) := by
  unfold parseSegment at refused
  split at refused
  · cases refused
    exact .inl rfl
  · exact .inr (PathArgument.parse_error refused)

/-- In another text a segment is read as in this one. -/
theorem parseSegment_within (whole part segment : List Char) :
    parseSegment whole segment =
      (parseSegment part segment).mapError (PathError.within (String.ofList whole)) := by
  unfold parseSegment
  split
  · rfl
  · cases read : PathArgument.parse segment with
    | ok arg => rfl
    | error error => obtain ⟨name, rfl⟩ | rfl := PathArgument.parse_error read <;> rfl

theorem parseChars_of_trim {text body : List Char} (trimmed : Text.trim text = '/' :: body)
    (more : body ≠ []) : parseChars text =
      (⟨·⟩) <$> (splitSegments .outside body).mapM (parseSegment ('/' :: body)) := by
  unfold parseChars
  rw [trimmed]
  exact if_neg (by simpa using more)

theorem exists_flatMap_append (segments : List (List Char)) (rest : List Char) :
    ∃ behind, segments.flatMap ('/' :: ·) ++ '/' :: rest = '/' :: behind ∧ rest <:+ behind := by
  cases segments with
  | nil => exact ⟨rest, rfl, List.suffix_rfl⟩
  | cons segment later =>
    refine ⟨segment ++ later.flatMap ('/' :: ·) ++ '/' :: rest, by simp, ?_⟩
    exact (List.suffix_cons ..).trans (List.suffix_append ..)

/-- Behind segments that spell steps of a path, splitting begins anew. -/
theorem splitSegments_append {segments : List (List Char)} {args : List PathArgument}
    (spelled : List.Forall₂ SpellsArgument segments args) {rest body : List Char}
    (whole : segments.flatMap ('/' :: ·) ++ '/' :: rest = '/' :: body) :
    splitSegments .outside body = segments ++ splitSegments .outside rest := by
  induction spelled generalizing body with
  | nil =>
    cases whole
    rfl
  | cons first others ih =>
    rename_i segment arg segments args
    obtain ⟨behind, next, -⟩ := exists_flatMap_append segments rest
    rw [List.flatMap_cons, List.append_assoc, next, List.cons_append, List.cons.injEq] at whole
    have split : splitSegments .outside ('/' :: behind) = [] :: splitSegments .outside behind := by
      rw [splitSegments, if_pos ⟨rfl, rfl⟩]
    rw [← whole.2, splitSegments_of_passes (Scan.Passes.argument first) split, ih next,
      List.append_nil, List.cons_append]

/-- Reading a text that is put together from a path and another text. -/
theorem parseChars_append {front rest : List Char} {path : InstancePath}
    (read : parseChars front = .ok path) (kept : Text.trim front = front) (inner : path ≠ .empty)
    (more : Text.trim ('/' :: rest) ≠ ['/']) :
    parseChars (front ++ '/' :: rest) =
      ((fun behind => ⟨path.args ++ behind.args⟩) <$> parseChars ('/' :: rest)).mapError
        (PathError.within (String.ofList (Text.trim (front ++ '/' :: rest)))) := by
  have slash : Text.isBlank '/' = false := by decide
  obtain ⟨body, -, trimmed, -, -⟩ := Text.exists_trim_cons slash rest
  have some : body ≠ [] := by
    rintro rfl
    exact more trimmed
  have spelled := parseChars_eq_ok_iff.mp read
  rw [kept] at spelled
  cases spelled with
  | root => exact absurd rfl inner
  | steps steps =>
    rename_i segments args _
    obtain ⟨whole, starts, ends⟩ := exists_flatMap_append segments body
    have some' : whole ≠ [] := by
      rintro rfl
      exact some (List.suffix_nil.mp ends)
    have joined := Text.trim_append_cons kept slash rest
    rw [trimmed, starts] at joined
    have front' : segments.mapM (parseSegment ('/' :: whole)) = .ok args :=
      mapM_eq_ok_iff.mpr (steps.imp fun _ _ => parseSegment_eq_ok_iff.mpr)
    have back := mapM_mapError (parseSegment ('/' :: body))
      (PathError.within (String.ofList ('/' :: whole))) (splitSegments .outside body)
    simp only [← parseSegment_within] at back
    rw [parseChars_of_trim joined some', parseChars_of_trim trimmed some, joined,
      splitSegments_append steps starts, List.mapM_append, front', back]
    cases (splitSegments .outside body).mapM (parseSegment ('/' :: body)) <;> rfl

/-- What a text is refused for, by what its trimmed form starts with. -/
theorem parseChars_error {text : List Char} {error : PathError}
    (refused : parseChars text = .error error) :
    Text.trim text = [] ∧ error = .empty ∨
    (Text.trim text ≠ [] ∧ (Text.trim text).head? ≠ some '/') ∧
      error = .notAbsolute (String.ofList (Text.trim text)) ∨
    (Text.trim text).head? = some '/' ∧
      (error = .emptySegment (String.ofList (Text.trim text)) ∨
        (∃ name, error = .invalidName name) ∨ ∃ segment, error = .malformedPredicate segment) := by
  unfold parseChars at refused
  split at refused
  · rename_i nothing
    cases refused
    exact .inl ⟨nothing, rfl⟩
  · rename_i body trimmed
    refine .inr (.inr ⟨by rw [trimmed]; rfl, ?_⟩)
    rw [trimmed]
    split at refused
    · cases refused
    · cases read : (splitSegments .outside body).mapM (parseSegment ('/' :: body)) with
      | ok args =>
        rw [read] at refused
        cases refused
      | error found =>
        rw [read] at refused
        cases refused
        obtain ⟨segment, -, bad⟩ := exists_of_mapM_eq_error read
        exact (parseSegment_error bad).imp_right fun bad => bad.imp_right fun same => ⟨_, same⟩
  · rename_i whole some relative
    cases refused
    refine .inr (.inl ⟨⟨some, ?_⟩, rfl⟩)
    intro slash
    obtain ⟨body, starts⟩ := List.head?_eq_some_iff.mp slash
    exact relative body starts

theorem parse_eq_empty_iff {text : String} :
    parse text = .error .empty ↔ ∀ c ∈ text.toList, Text.isBlank c = true := by
  rw [← Text.trim_eq_nil_iff]
  constructor
  · intro refused
    obtain ⟨nothing, -⟩ | ⟨-, same⟩ | ⟨-, same | ⟨_, same⟩ | ⟨_, same⟩⟩ := parseChars_error refused
    · exact nothing
    all_goals cases same
  · intro nothing
    unfold parse parseChars
    rw [nothing]

theorem parse_eq_notAbsolute_iff {text carried : String} :
    parse text = .error (.notAbsolute carried) ↔
      (Text.trim text.toList ≠ [] ∧ (Text.trim text.toList).head? ≠ some '/') ∧
        carried = String.ofList (Text.trim text.toList) := by
  constructor
  · intro refused
    obtain ⟨-, same⟩ | ⟨relative, same⟩ | ⟨-, same | ⟨_, same⟩ | ⟨_, same⟩⟩ :=
      parseChars_error refused
    · cases same
    · exact ⟨relative, PathError.notAbsolute.inj same⟩
    all_goals cases same
  · rintro ⟨⟨some, relative⟩, rfl⟩
    unfold parse parseChars
    split
    · rename_i nothing
      exact absurd nothing some
    · rename_i body trimmed
      rw [trimmed] at relative
      exact absurd rfl relative
    · rfl

/-- What a text is refused for is told by what it starts with, white space apart; and a text that is
put together from a path other than the root and a text behind it is read, or refused, as the text
behind is. -/
theorem reads_segment_by_segment (text : String) :
    (parse text = .error .empty ↔ ∀ c ∈ text.toList, Text.isBlank c = true) ∧
    (∀ carried, parse text = .error (.notAbsolute carried) ↔
      (Text.trim text.toList ≠ [] ∧ (Text.trim text.toList).head? ≠ some '/') ∧
        carried = String.ofList (Text.trim text.toList)) ∧
    (∀ error, parse text = .error error → error = .empty ∨ (∃ carried, error = .notAbsolute carried) ∨
      error = .emptySegment (String.ofList (Text.trim text.toList)) ∨
      (∃ name, error = .invalidName name) ∨ ∃ segment, error = .malformedPredicate segment) ∧
    ∀ front rest path, text = front ++ "/" ++ rest → parse front = .ok path →
      Text.trim front.toList = front.toList → path ≠ .empty →
      Text.trim ("/" ++ rest).toList ≠ ['/'] →
      (∀ behind, parse ("/" ++ rest) = .ok behind → parse text = .ok ⟨path.args ++ behind.args⟩) ∧
      ∀ error, parse ("/" ++ rest) = .error error →
        parse text = .error (error.within (String.ofList (Text.trim text.toList))) := by
  refine ⟨parse_eq_empty_iff, fun _ => parse_eq_notAbsolute_iff, fun error refused => ?_, ?_⟩
  · obtain ⟨-, same⟩ | ⟨-, same⟩ | ⟨-, kinds⟩ := parseChars_error refused
    · exact .inl same
    · exact .inr (.inl ⟨_, same⟩)
    · exact .inr (.inr kinds)
  · rintro front rest path rfl read kept inner more
    have chars : (front ++ "/" ++ rest).toList = front.toList ++ '/' :: rest.toList := by simp
    have behind : ("/" ++ rest).toList = '/' :: rest.toList := by simp
    rw [behind] at more
    have joined := parseChars_append read kept inner more
    unfold parse
    rw [chars, behind, joined]
    constructor
    · intro path' read'
      rw [read']
      rfl
    · intro error refused
      rw [refused]
      rfl

/-- Behind a path whose key holds a bracket, an empty segment comes before a bracket out of place. -/
theorem reads_segment_by_segment_refused :
    parse "/n[id=a\\]/b]/c//]d[ " = .error (.emptySegment "/n[id=a\\]/b]/c//]d[") := by
  have front : parse "/n[id=a\\]/b]" = .ok ⟨[.entry ⟨"n", by decide⟩
      (Keys.ofList [(⟨"id", by decide⟩, "a]/b")])]⟩ := by cbv
  have behind : parse ("/" ++ "c//]d[ ") = .error (.emptySegment "/c//]d[") := by cbv
  obtain ⟨-, -, -, joins⟩ := reads_segment_by_segment ("/n[id=a\\]/b]" ++ "/" ++ "c//]d[ ")
  obtain ⟨-, refuses⟩ := joins _ _ _ rfl front (by decide) (by decide) (by decide)
  exact refuses _ behind

end InstancePath
end RpcRouting
