import RpcRouting.Proofs.Router.Solo
/-! The order of what a listener counts as told. Whenever there is news the list is replaced by what
the listener sees, which is in the order of registration. It stays in the order in which it was told
exactly as long as each time what is kept comes first, as it was, and what is new comes after it. -/
namespace RpcRouting
open Current (Identifier)

variable {I L : Type}

/-- What is on the list of somebody who adds what becomes available at its end, and strikes out what
becomes unavailable. -/
def recollect (known : List Identifier) (told : Bool × List Identifier) : List Identifier :=
  if told.1 then known ++ told.2 else known.filter (· ∉ told.2)

/-- The list after all that is told: what was on it at first and what was told to be available, in
this order, less what has become unavailable since. -/
def recalled (first : List Identifier) (told : List (Bool × List Identifier)) : List Identifier :=
  told.foldl recollect first

/-- What counts as told once the news of a view has been told. -/
def retold (told view : List Identifier) : List Identifier :=
  if (news told view).isEmpty then told else view

/-- What is told of one view after the other. -/
def tidings (told : List Identifier) : List (List Identifier) → List (Bool × List Identifier)
  | [] => []
  | view :: later => news told view ++ tidings (retold told view) later

/-- A view that has what is kept of the list first, in the order of the list, and then what is
new. -/
def Follows (told view : List Identifier) : Prop :=
  told.filter (· ∈ view) ++ view.filter (· ∉ told) = view

/-- Each view that there is news of follows on what counts as told then. -/
def InOrder (told : List Identifier) : List (List Identifier) → Prop
  | [] => True
  | view :: later => (news told view = [] ∨ Follows told view) ∧ InOrder (retold told view) later

section
variable {told view first rpcs other : List Identifier} {views : List (List Identifier)}
  {before later : List (Bool × List Identifier)}

/-! What is recalled. -/

theorem recollect_perm (same : told.Perm other) (item : Bool × List Identifier) :
    (recollect told item).Perm (recollect other item) := by
  obtain ⟨available, rpcs⟩ := item
  cases available with
  | true => exact same.append_right _
  | false => exact same.filter _

theorem recalled_perm (same : told.Perm other) (items : List (Bool × List Identifier)) :
    (recalled told items).Perm (recalled other items) := by
  induction items generalizing told other with
  | nil => exact same
  | cons item later ih => exact ih (recollect_perm same item)

/-- Somebody who is told the news of a view keeps what is in it and adds the rest. -/
theorem recalled_news :
    recalled told (news told view) = told.filter (· ∈ view) ++ view.filter (· ∉ told) := by
  have idle (known : List Identifier) (item : Bool × List Identifier) :
      (if !item.2.isEmpty then recollect known item else known) = recollect known item := by
    obtain ⟨available, rpcs⟩ := item
    cases rpcs <;> simp [recollect]
  have kept : told.filter (· ∉ told.filter (· ∉ view)) = told.filter (· ∈ view) := by
    refine List.filter_congr fun rpc member => ?_
    simp [member]
  rw [recalled, news, List.foldl_filter]
  simp only [idle, List.foldl_cons, List.foldl_nil]
  simp only [recollect, Bool.false_eq_true, if_false, if_true, kept]

/-- What is withdrawn is told first, and all of it at once. -/
theorem withdrawn_of_news (same : news told view = before ++ (false, rpcs) :: later) :
    before = [] ∧ rpcs = told.filter (· ∉ view) := by
  have shape (gone new : List Identifier)
      (same : [(false, gone), (true, new)].filter (!·.2.isEmpty) =
        before ++ (false, rpcs) :: later) : before = [] ∧ rpcs = gone := by
    rcases before with _ | ⟨head, _ | ⟨next, tail⟩⟩ <;> cases gone <;> cases new <;>
      simp_all
  exact shape _ _ same

/-! One view after the other. -/

theorem tidings_append : tidings first (views ++ [view]) =
    tidings first views ++ news (views.foldl retold first) view := by
  induction views generalizing first with
  | nil => simp [tidings]
  | cons head tail ih => simp [tidings, ih]

theorem inOrder_append : InOrder first (views ++ [view]) ↔ InOrder first views ∧
    (news (views.foldl retold first) view = [] ∨ Follows (views.foldl retold first) view) := by
  induction views generalizing first with
  | nil => simp [InOrder]
  | cons head tail ih => simp [InOrder, ih, and_assoc]

theorem retold_of_quiet (quiet : news told view = []) : retold told view = told := by
  simp [retold, quiet]

theorem retold_of_news (some : news told view ≠ []) : retold told view = view := by
  simp [retold, some]

/-- A view that follows on the list takes its place. -/
theorem retold_of_follows (follows : Follows told view) : retold told view = view := by
  by_cases quiet : news told view = []
  · have same : recalled told (news told view) = view := recalled_news.trans follows
    rw [quiet] at same
    rw [retold_of_quiet quiet]
    exact same
  · exact retold_of_news quiet

/-- The list is what is recalled of the news if and only if the view follows on it. -/
theorem retold_eq_iff : retold told view = recalled told (news told view) ↔
    news told view = [] ∨ Follows told view := by
  constructor
  · intro same
    by_cases quiet : news told view = []
    · exact .inl quiet
    · rw [recalled_news, retold_of_news quiet] at same
      exact .inr same.symm
  · rintro (quiet | follows)
    · rw [retold_of_quiet quiet, quiet]
      rfl
    · rw [retold_of_follows follows, recalled_news]
      exact follows.symm

theorem recalled_append (first : List Identifier) (items more : List (Bool × List Identifier)) :
    recalled first (items ++ more) = recalled (recalled first items) more :=
  List.foldl_append

/-- What counts as told is in the order of telling at all times if and only if each view follows. -/
theorem inOrder_iff : InOrder first views ↔ ∀ earlier, earlier <+: views →
    earlier.foldl retold first = recalled first (tidings first earlier) := by
  induction views using List.reverseRecOn with
  | nil => simp [InOrder, tidings, recalled]
  | append_singleton views view ih =>
    have final (here : views.foldl retold first = recalled first (tidings first views)) :
        (views ++ [view]).foldl retold first =
            recalled first (tidings first (views ++ [view])) ↔
          news (views.foldl retold first) view = [] ∨
            Follows (views.foldl retold first) view := by
      rw [← retold_eq_iff, tidings_append, recalled_append, ← here, List.foldl_append]
      rfl
    rw [inOrder_append, ih]
    constructor
    · rintro ⟨always, follows⟩ earlier within
      rcases List.prefix_concat_iff.mp within with rfl | within
      · exact (final (always views (List.prefix_refl _))).mpr follows
      · exact always earlier within
    · intro always
      have earlier : ∀ earlier, earlier <+: views →
          earlier.foldl retold first = recalled first (tidings first earlier) :=
        fun earlier within => always earlier (within.trans (List.prefix_append _ _))
      exact ⟨earlier, (final (earlier views (List.prefix_refl _))).mp
        (always _ (List.prefix_refl _))⟩

/-- As long as all is in order, what is withdrawn is withdrawn in the order in which it was told. -/
theorem sublist_of_withdrawn (ordered : InOrder first views)
    (same : tidings first views = before ++ (false, rpcs) :: later) :
    rpcs.Sublist (recalled first before) := by
  induction views using List.reverseRecOn generalizing later with
  | nil => simp [tidings] at same
  | append_singleton views view ih =>
    have here := inOrder_iff.mp (inOrder_append.mp ordered).1 views (List.prefix_refl _)
    have last {middle : List (Bool × List Identifier)}
        (told : news (views.foldl retold first) view = middle ++ (false, rpcs) :: later) :
        rpcs.Sublist (recalled first (tidings first views ++ middle)) := by
      obtain ⟨rfl, rfl⟩ := withdrawn_of_news told
      rw [List.append_nil, ← here]
      exact List.filter_sublist
    -- It is withdrawn with the news of the last view, or before them.
    rw [tidings_append] at same
    rcases List.append_eq_append_iff.mp same with ⟨middle, rfl, rest⟩ | ⟨middle, earlier, rest⟩
    · exact last rest
    · cases middle with
      | nil =>
        have all : news (views.foldl retold first) view = [] ++ (false, rpcs) :: later := rest.symm
        rw [List.append_nil] at earlier
        rw [← earlier, ← List.append_nil (tidings first views)]
        exact last all
      | cons item tail =>
        obtain ⟨rfl, -⟩ := List.cons.inj rest
        exact ih (inOrder_append.mp ordered).1 earlier

theorem nodup_retold (unique : told.Nodup) (seen : view.Nodup) : (retold told view).Nodup := by
  by_cases quiet : news told view = []
  · rwa [retold_of_quiet quiet]
  · rwa [retold_of_news quiet]

theorem perm_retold (unique : told.Nodup) (seen : view.Nodup) :
    (retold told view).Perm (recalled told (news told view)) := by
  by_cases quiet : news told view = []
  · rw [retold_of_quiet quiet, quiet]
    exact .refl _
  · rw [retold_of_news quiet, recalled_news]
    have apart : (told.filter (· ∈ view) ++ view.filter (· ∉ told)).Nodup := by
      apply (unique.filter _).append (seen.filter _)
      intro rpc kept new
      exact of_decide_eq_true (List.mem_filter.mp new).2 (List.mem_of_mem_filter kept)
    apply (List.perm_ext_iff_of_nodup seen apart).mpr
    intro rpc
    simp only [List.mem_append, List.mem_filter, decide_eq_true_eq]
    tauto

/-- Whatever the order, what counts as told is what is recalled. -/
theorem perm_recalled (unique : first.Nodup) (seen : ∀ view ∈ views, view.Nodup) :
    (views.foldl retold first).Nodup ∧
      (views.foldl retold first).Perm (recalled first (tidings first views)) := by
  induction views using List.reverseRecOn with
  | nil => exact ⟨unique, .refl _⟩
  | append_singleton views view ih =>
    obtain ⟨earlier, last⟩ := List.forall_mem_append.mp seen
    obtain ⟨unique, same⟩ := ih earlier
    have once := last view (List.mem_singleton_self _)
    rw [tidings_append, recalled_append, List.foldl_append]
    exact ⟨nodup_retold unique once, (perm_retold unique once).trans (recalled_perm same _)⟩

/-! Views that follow. -/

theorem follows_append (new : ∀ rpc ∈ other, rpc ∉ told) : Follows told (told ++ other) := by
  have kept : told.filter (· ∈ told ++ other) = told :=
    List.filter_eq_self.mpr fun rpc member => by simp [member]
  have none : told.filter (· ∉ told) = [] := by simp
  have all : other.filter (· ∉ told) = other :=
    List.filter_eq_self.mpr fun rpc member => by simpa using new rpc member
  rw [Follows, kept, List.filter_append, none, all, List.nil_append]

theorem follows_of_sublist (unique : told.Nodup) (fewer : view.Sublist told) :
    Follows told view := by
  have kept : told.filter (· ∈ view) = view := by
    induction fewer with
    | slnil => rfl
    | @cons view told rpc fewer ih =>
      obtain ⟨absent, unique⟩ := List.nodup_cons.mp unique
      have gone : rpc ∉ view := fun member => absent (fewer.subset member)
      rw [List.filter_cons_of_neg (by simpa using gone), ih unique]
    | @cons_cons view told rpc fewer ih =>
      obtain ⟨absent, unique⟩ := List.nodup_cons.mp unique
      have rest : told.filter (· ∈ rpc :: view) = told.filter (· ∈ view) := by
        refine List.filter_congr fun other member => ?_
        have differs : other ≠ rpc := fun same => absent (same ▸ member)
        simp [differs]
      rw [List.filter_cons_of_pos (by simp), rest, ih unique]
  have none : view.filter (· ∉ told) = [] :=
    List.filter_eq_nil_iff.mpr fun rpc member => by simpa using fewer.subset member
  rw [Follows, kept, none, List.append_nil]

/-! Implementations that share no identifiers. -/

theorem distinct_append (apart : ∀ rpc ∈ view, rpc ∉ told) :
    distinct (told ++ view) = distinct told ++ distinct view := by
  have collect (rest seen : List Identifier) (apart : ∀ rpc ∈ rest, rpc ∉ told) :
      rest.foldl (fun seen rpc => if rpc ∈ seen then seen else seen ++ [rpc])
          (distinct told ++ seen) =
        distinct told ++
          rest.foldl (fun seen rpc => if rpc ∈ seen then seen else seen ++ [rpc]) seen := by
    induction rest generalizing seen with
    | nil => rfl
    | cons rpc later ih =>
      obtain ⟨new, apart⟩ := List.forall_mem_cons.mp apart
      have same : rpc ∈ distinct told ++ seen ↔ rpc ∈ seen := by simp [mem_distinct, new]
      rw [List.foldl_cons, List.foldl_cons, ← ih _ apart]
      simp only [same]
      split <;> simp
  have collected := collect view [] apart
  rw [List.append_nil] at collected
  rw [distinct, List.foldl_append]
  exact collected

/-- No two of the offers that are cared for serve one identifier. -/
def Unshared (cares : I → Bool) (offers : List (Offer I)) : Prop :=
  (offers.filter (cares ·.implementation)).Pairwise fun offer other =>
    ∀ rpc ∈ offer.rpcs, rpc ∉ other.rpcs

instance (cares : I → Bool) (offers : List (Offer I)) : Decidable (Unshared cares offers) :=
  inferInstanceAs (Decidable (List.Pairwise (fun offer other : Offer I =>
    ∀ rpc ∈ offer.rpcs, rpc ∉ other.rpcs) _))

/-- What the offers serve that are cared for, one offer after the other. -/
def served (cares : I → Bool) (offers : List (Offer I)) : List Identifier :=
  (offers.filter (cares ·.implementation)).flatMap (distinct ·.rpcs)

theorem distinct_flatMap {offers : List (Offer I)}
    (apart : offers.Pairwise fun offer other => ∀ rpc ∈ offer.rpcs, rpc ∉ other.rpcs) :
    distinct (offers.flatMap (·.rpcs)) = offers.flatMap (distinct ·.rpcs) := by
  induction offers with
  | nil => rfl
  | cons offer later ih =>
    obtain ⟨own, apart⟩ := List.pairwise_cons.mp apart
    rw [List.flatMap_cons, List.flatMap_cons, distinct_append, ih apart]
    intro rpc member inside
    obtain ⟨other, present, serves⟩ := List.mem_flatMap.mp member
    exact own other present rpc inside serves

theorem visible_of_unshared {accepts : Acceptance I L} {listener : L} {cares : I → Bool}
    {offers : List (Offer I)}
    (agrees : ∀ offer ∈ offers, accepts listener offer.implementation = cares offer.implementation)
    (unshared : Unshared cares offers) : visible accepts offers listener = served cares offers := by
  rw [visible, List.filter_congr agrees]
  exact distinct_flatMap unshared

end
end RpcRouting
