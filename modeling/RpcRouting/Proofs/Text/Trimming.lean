import Mathlib.Data.List.TakeWhile
import RpcRouting.Text.Blank
/-! What trimming leaves of a text. -/
namespace RpcRouting.Text

/-- What is left of a text without the white space at its two ends. -/
structure Trims (text body : List Char) : Prop where
  around : ∃ before after, text = before ++ body ++ after ∧
    (∀ c ∈ before, isBlank c = true) ∧ ∀ c ∈ after, isBlank c = true
  first : ∀ c ∈ body.head?, isBlank c = false
  last : ∀ c ∈ body.getLast?, isBlank c = false

theorem head?_dropWhile_isBlank {c : Char} {cs : List Char}
    (h : c ∈ (cs.dropWhile isBlank).head?) : isBlank c = false := by
  have h := Option.mem_def.mp h
  have found := List.head?_dropWhile_not isBlank cs
  rw [h] at found
  simpa using found

theorem trimEnd_append_takeWhile (cs : List Char) :
    trimEnd cs ++ (cs.reverse.takeWhile isBlank).reverse = cs := by
  rw [trimEnd, ← List.reverse_append, List.takeWhile_append_dropWhile, List.reverse_reverse]

theorem isBlank_of_mem_takeWhile {c : Char} {cs : List Char}
    (h : c ∈ cs.takeWhile isBlank) : isBlank c = true :=
  List.all_eq_true.mp List.all_takeWhile c h

theorem trims_trim (text : List Char) : Trims text (trim text) := by
  refine ⟨⟨text.takeWhile isBlank, ((text.dropWhile isBlank).reverse.takeWhile isBlank).reverse,
    ?_, ?_, ?_⟩, ?_, ?_⟩
  · rw [trim, List.append_assoc, trimEnd_append_takeWhile, List.takeWhile_append_dropWhile]
  · exact fun c => isBlank_of_mem_takeWhile
  · exact fun c h => isBlank_of_mem_takeWhile (List.mem_reverse.mp h)
  · intro c h
    have kept := trimEnd_append_takeWhile (text.dropWhile isBlank)
    have first : c ∈ (text.dropWhile isBlank).head? := by
      rw [← kept, List.head?_append]
      have h : (trimEnd (text.dropWhile isBlank)).head? = some c := h
      rw [h]
      rfl
    exact head?_dropWhile_isBlank first
  · intro c h
    rw [trim, trimEnd, List.getLast?_reverse] at h
    exact head?_dropWhile_isBlank h

/-- A text whose ends are not white space is left as it is. -/
theorem trim_eq_self {text : List Char} (first : ∀ c ∈ text.head?, isBlank c = false)
    (last : ∀ c ∈ text.getLast?, isBlank c = false) : trim text = text := by
  have front : text.dropWhile isBlank = text := by
    cases text with
    | nil => rfl
    | cons c rest => exact List.dropWhile_cons_of_neg (by simp [first c rfl])
  have back : text.reverse.dropWhile isBlank = text.reverse := by
    cases reversed : text.reverse with
    | nil => rfl
    | cons c rest =>
      have ends : text.getLast? = some c := by
        rw [← List.head?_reverse, reversed, List.head?_cons]
      exact List.dropWhile_cons_of_neg (by simp [last c ends])
  rw [trim, front, trimEnd, back, List.reverse_reverse]

/-- There is only one way to leave the white space out. -/
theorem Trims.trim_eq {text body : List Char} (trims : Trims text body) : trim text = body := by
  obtain ⟨before, after, rfl, blank, blank'⟩ := trims.around
  have dropped (rest : List Char) : (before ++ rest).dropWhile isBlank = rest.dropWhile isBlank :=
    List.dropWhile_append_of_pos blank
  rw [trim, List.append_assoc, dropped]
  cases body with
  | nil =>
    rw [List.nil_append, List.dropWhile_eq_nil_iff.mpr blank']
    rfl
  | cons c rest =>
    have kept := trim_eq_self trims.first trims.last
    have starts (behind : List Char) :
        (c :: rest ++ behind).dropWhile isBlank = c :: rest ++ behind :=
      List.dropWhile_cons_of_neg (by simp [trims.first c rfl])
    have ends : trim (c :: rest) = trimEnd (c :: rest) := by
      rw [trim, ← List.append_nil (c :: rest), starts]
    rw [starts, trimEnd, List.reverse_append, List.dropWhile_append_of_pos
      fun other member => blank' other (List.mem_reverse.mp member)]
    exact ends.symm.trans kept

end RpcRouting.Text
