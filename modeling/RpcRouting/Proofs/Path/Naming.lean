import RpcRouting.Path.Argument
/-! Names end where a reserved character stands, and the keys of an entry are sorted stably by their
names: there is one way to do so. -/
namespace RpcRouting

namespace QualifiedName

theorem chars_ne_nil (name : QualifiedName) : name.chars ≠ [] := by
  intro empty
  have named := name.isName_text
  rw [show name.text.toList = [] from empty] at named
  cases named

theorem isReserved_of_mem_chars {name : QualifiedName} {c : Char} (h : c ∈ name.chars) :
    isReserved c = false := by
  have named := name.isName_text
  simp only [isName, Bool.and_eq_true, List.all_eq_true, Bool.not_eq_true'] at named
  exact named.2 c h

theorem ne_of_mem_chars {name : QualifiedName} {c reserved : Char} (h : c ∈ name.chars)
    (is : isReserved reserved = true) : c ≠ reserved := by
  rintro rfl
  rw [isReserved_of_mem_chars h] at is
  cases is

theorem isBlank_of_mem_chars {name : QualifiedName} {c : Char} (h : c ∈ name.chars) :
    Text.isBlank c = false := by
  have free := isReserved_of_mem_chars h
  simp only [isReserved, Bool.or_eq_false_iff] at free
  exact free.2

theorem parse_eq_ok_iff {cs : List Char} {name : QualifiedName} :
    parse cs = .ok name ↔ name.chars = cs := by
  unfold parse
  constructor
  · intro h
    split at h
    · rename_i found read
      cases h
      exact chars_of_ofChars? read
    · cases h
  · rintro rfl
    rw [ofChars?_chars]

/-- A name in front of a reserved character ends before it. -/
theorem takeWhile_chars_append (name : QualifiedName) {c : Char} (is : isReserved c = true)
    (rest : List Char) : (name.chars ++ c :: rest).takeWhile (· != c) = name.chars := by
  rw [List.takeWhile_append_of_pos, List.takeWhile_cons_of_neg, List.append_nil]
  · simp
  · intro other member
    simpa using ne_of_mem_chars member is

theorem dropWhile_chars_append (name : QualifiedName) {c : Char} (is : isReserved c = true)
    (rest : List Char) : (name.chars ++ c :: rest).dropWhile (· != c) = c :: rest := by
  rw [List.dropWhile_append_of_pos, List.dropWhile_cons_of_neg]
  · simp
  · intro other member
    simpa using ne_of_mem_chars member is

end QualifiedName

/-! Stable sorting. -/

/-- The keys are those listed, in the order of their names, and those of one name as listed. -/
def Keys.Sorts (keys : Keys) (listed : List Key) : Prop :=
  ∀ name, keys.toList.filter (·.1 = name) = listed.filter (·.1 = name)

theorem filter_insertKey (key : Key) (keys : List Key) (name : QualifiedName) :
    (insertKey key keys).filter (·.1 = name) = (key :: keys).filter (·.1 = name) := by
  induction keys with
  | nil => rfl
  | cons first rest ih =>
    rw [insertKey]
    split
    · rfl
    · rename_i later
      -- Keys that change places have different names.
      have other : key.1 ≠ first.1 := by
        intro same
        apply later
        rw [same]
        exact (QualifiedName.le_total first.1 first.1).elim id id
      rw [List.filter_cons, ih]
      by_cases h : key.1 = name
      · have away : ¬first.1 = name := fun same => other (h.trans same.symm)
        simp [h, away]
      · simp [h, List.filter_cons]

theorem Keys.sorts_ofList (listed : List Key) : (Keys.ofList listed).Sorts listed := by
  intro name
  show (sortKeys listed).filter (·.1 = name) = listed.filter (·.1 = name)
  induction listed with
  | nil => rfl
  | cons key rest ih => rw [sortKeys, filter_insertKey, List.filter_cons, List.filter_cons, ih]

theorem QualifiedName.le_antisymm {a b : QualifiedName} (h : a ≤ b) (h' : b ≤ a) : a = b := by
  have same : a.text = b.text := String.le_antisymm h h'
  cases a
  cases b
  cases same
  rfl

/-- The first of sorted keys comes first, whichever list of them is looked at. -/
theorem le_of_same_filters {key first : Key} {keys others : List Key}
    (sorted : (first :: others).Pairwise (·.1 ≤ ·.1))
    (same : ∀ name, (key :: keys).filter (·.1 = name) = (first :: others).filter (·.1 = name)) :
    first.1 ≤ key.1 := by
  have here : key ∈ (first :: others).filter (·.1 = key.1) := by
    rw [← same key.1]
    simp
  rcases List.mem_cons.mp (List.mem_filter.mp here).1 with rfl | later
  · exact (QualifiedName.le_total key.1 key.1).elim id id
  · exact (List.pairwise_cons.mp sorted).1 key later

theorem eq_of_same_filters {keys others : List Key} (sorted : keys.Pairwise (·.1 ≤ ·.1))
    (sorted' : others.Pairwise (·.1 ≤ ·.1))
    (same : ∀ name, keys.filter (·.1 = name) = others.filter (·.1 = name)) : keys = others := by
  induction keys generalizing others with
  | nil =>
    cases others with
    | nil => rfl
    | cons first rest => simpa using same first.1
  | cons key keys ih =>
    cases others with
    | nil => simpa using same key.1
    | cons first others =>
      have names : key.1 = first.1 :=
        QualifiedName.le_antisymm (le_of_same_filters sorted fun name => (same name).symm)
          (le_of_same_filters sorted' same)
      have heads : key = first := by
        have whole := same key.1
        rw [List.filter_cons_of_pos (by simp), List.filter_cons_of_pos (by simp [names])] at whole
        exact (List.cons.inj whole).1
      subst heads
      have tails : ∀ name, keys.filter (·.1 = name) = others.filter (·.1 = name) := by
        intro name
        have whole := same name
        by_cases h : key.1 = name
        · simpa [List.filter_cons, h] using whole
        · simpa [List.filter_cons, h] using whole
      rw [ih (List.pairwise_cons.mp sorted).2 (List.pairwise_cons.mp sorted').2 tails]

/-- There is one way to sort keys stably. -/
theorem Keys.sorts_iff {keys : Keys} {listed : List Key} :
    keys.Sorts listed ↔ Keys.ofList listed = keys := by
  constructor
  · intro sorts
    have same : (Keys.ofList listed).toList = keys.toList :=
      eq_of_same_filters (Keys.ofList listed).sorted keys.sorted
        fun name => (Keys.sorts_ofList listed name).trans (sorts name).symm
    cases keys
    cases same
    rfl
  · rintro rfl
    exact Keys.sorts_ofList listed

end RpcRouting
