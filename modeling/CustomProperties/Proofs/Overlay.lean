import CustomProperties.Variable
import Mathlib.Data.List.Induction
import Mathlib.Data.List.Nodup

/-!
# The first place and the last value

Bindings that are inserted one after another leave a list in which every name
stands where it came first and has the value that came last.  `IsOverlay` says this
of two lists, without the insertion: the names of the second follow the order of
their first occurrences in the first, and a binding is in the second exactly if it
is the last one of its name in the first.

At most one list stands in this relation to a given one (`IsOverlay.unique`), and
insertion makes one (`isOverlay_ofList`).  Merging lists of variables therefore
comes to the overlay of all of them joined (`isOverlay_mergeVariables`).
-/

namespace CustomProperties

set_option autoImplicit false

namespace Bindings

variable {ν α : Type} [DecidableEq ν]

/-- The last binding of a name in a list. -/
def last? (bindings : List (Binding ν α)) (name : ν) : Option (Binding ν α) :=
  (bindings.filter fun binding => binding.name = name).getLast?

/-- The second list holds the last binding of each name of the first, in the order in
which the names first occur there. -/
structure IsOverlay (added merged : List (Binding ν α)) : Prop where
  /-- Names follow the order of their first occurrences, and none is repeated. -/
  ordered : (merged.map Binding.name).Pairwise fun earlier later =>
    (added.map Binding.name).idxOf earlier < (added.map Binding.name).idxOf later
  /-- What is there is the last binding of its name. -/
  mem_iff : ∀ binding, binding ∈ merged ↔ last? added binding.name = some binding

/-! ## Last bindings -/

/-- After one more binding, it is the last one of its name, and other names keep theirs. -/
theorem last?_concat (added : List (Binding ν α)) (binding : Binding ν α) (name : ν) :
    last? (added ++ [binding]) name
      = if binding.name = name then some binding else last? added name := by
  simp only [last?, List.filter_append]
  by_cases same : binding.name = name
  · simp only [List.filter_cons, same, decide_true, if_true, List.filter_nil,
      List.getLast?_concat]
  · simp only [List.filter_cons, same, decide_false, Bool.false_eq_true, if_false,
      List.filter_nil, List.append_nil]

/-- A name that occurs has a last binding, which bears it. -/
theorem exists_last?_of_mem {added : List (Binding ν α)} {name : ν}
    (member : name ∈ added.map Binding.name) :
    ∃ binding, last? added name = some binding ∧ binding.name = name := by
  obtain ⟨binding, present, rfl⟩ := List.mem_map.mp member
  have kept : binding ∈ added.filter fun other => other.name = binding.name :=
    List.mem_filter.mpr ⟨present, decide_eq_true rfl⟩
  have some_last := List.getLast?_eq_some_getLast (List.ne_nil_of_mem kept)
  refine ⟨_, some_last, ?_⟩
  exact of_decide_eq_true (List.mem_filter.mp (List.getLast_mem (List.ne_nil_of_mem kept))).2

/-- The last binding of a name is one of the bindings. -/
theorem mem_of_last?_eq_some {added : List (Binding ν α)} {name : ν} {binding : Binding ν α}
    (found : last? added name = some binding) : binding ∈ added :=
  (List.mem_filter.mp (List.mem_of_getLast? found)).1

/-- The last binding of a name bears it. -/
theorem name_eq_of_last?_eq_some {added : List (Binding ν α)} {name : ν} {binding : Binding ν α}
    (found : last? added name = some binding) : binding.name = name :=
  of_decide_eq_true (List.mem_filter.mp (List.mem_of_getLast? found)).2

/-- Where names are different, a name selects the binding that bears it. -/
theorem filter_name_eq_singleton {bindings : List (Binding ν α)}
    (distinct : (bindings.map Binding.name).Nodup) {binding : Binding ν α}
    (member : binding ∈ bindings) :
    bindings.filter (fun other => other.name = binding.name) = [binding] := by
  have nodup : bindings.Nodup := List.Nodup.of_map _ distinct
  refine List.perm_singleton.mp ?_
  refine (List.perm_ext_iff_of_nodup (nodup.filter _) (List.nodup_singleton _)).mpr ?_
  intro other
  rw [List.mem_filter, decide_eq_true_eq, List.mem_singleton]
  constructor
  · rintro ⟨present, same⟩
    exact List.inj_on_of_nodup_map distinct present member same
  · rintro rfl
    exact ⟨member, rfl⟩

/-! ## Overlays -/

namespace IsOverlay

variable {added merged : List (Binding ν α)}

/-- No name is repeated. -/
theorem nodup_names (overlay : IsOverlay added merged) : (merged.map Binding.name).Nodup := by
  refine overlay.ordered.imp ?_
  rintro earlier later before rfl
  exact Nat.lt_irrefl _ before

/-- The names are those of the list below. -/
theorem mem_names_iff (overlay : IsOverlay added merged) (name : ν) :
    name ∈ merged.map Binding.name ↔ name ∈ added.map Binding.name := by
  constructor
  · intro member
    obtain ⟨binding, present, rfl⟩ := List.mem_map.mp member
    exact List.mem_map_of_mem (mem_of_last?_eq_some ((overlay.mem_iff binding).mp present))
  · intro member
    obtain ⟨binding, found, rfl⟩ := exists_last?_of_mem member
    exact List.mem_map_of_mem ((overlay.mem_iff binding).mpr found)

/-- **At most one list is the overlay of a given one.** -/
theorem unique {other : List (Binding ν α)} (overlay : IsOverlay added merged)
    (overlay' : IsOverlay added other) : other = merged := by
  have same : other.Perm merged := by
    refine (List.perm_ext_iff_of_nodup (List.Nodup.of_map _ overlay'.nodup_names)
      (List.Nodup.of_map _ overlay.nodup_names)).mpr ?_
    intro binding
    exact (overlay'.mem_iff binding).trans (overlay.mem_iff binding).symm
  have first := List.pairwise_map.mp overlay'.ordered
  have second := List.pairwise_map.mp overlay.ordered
  refine same.eq_of_pairwise ?_ first second
  intro earlier later _ _ before after
  exact absurd before (Nat.lt_asymm after)

end IsOverlay

/-! ## Insertion -/

/-- What is bound after an insertion: the new binding, and the old ones of other names. -/
theorem mem_bindIn {name : ν} {value : α} {bindings : List (Binding ν α)}
    (nodup : (bindings.map Binding.name).Nodup) (binding : Binding ν α) :
    binding ∈ bindIn name value bindings
      ↔ binding = ⟨name, value⟩ ∨ binding ∈ bindings ∧ binding.name ≠ name := by
  induction bindings with
  | nil => simp [bindIn]
  | cons head rest ih =>
    obtain ⟨fresh, nodup⟩ := List.nodup_cons.mp nodup
    by_cases here : head.name = name
    · simp only [bindIn, if_pos here, List.mem_cons]
      constructor
      · rintro (rfl | member)
        · exact .inl rfl
        · refine .inr ⟨.inr member, fun same => fresh ?_⟩
          rw [here, ← same]
          exact List.mem_map_of_mem member
      · rintro (rfl | ⟨rfl | member, differs⟩)
        · exact .inl rfl
        · exact absurd here differs
        · exact .inr member
    · simp only [bindIn, if_neg here, List.mem_cons, ih nodup]
      constructor
      · rintro (rfl | rfl | ⟨member, differs⟩)
        · exact .inr ⟨.inl rfl, here⟩
        · exact .inl rfl
        · exact .inr ⟨.inr member, differs⟩
      · rintro (rfl | ⟨rfl | member, differs⟩)
        · exact .inr (.inl rfl)
        · exact .inl rfl
        · exact .inr (.inr ⟨member, differs⟩)

/-- Nothing is the overlay of nothing. -/
theorem isOverlay_nil : IsOverlay ([] : List (Binding ν α)) [] where
  ordered := .nil
  mem_iff binding := by simp [last?]

/-- One more binding is one more insertion. -/
theorem IsOverlay.insert {added merged : List (Binding ν α)} (overlay : IsOverlay added merged)
    (binding : Binding ν α) :
    IsOverlay (added ++ [binding]) (bindIn binding.name binding.value merged) where
  ordered := by
    -- names that were there keep their first places, a new one comes after all of them
    have kept : (merged.map Binding.name).Pairwise fun earlier later =>
        ((added ++ [binding]).map Binding.name).idxOf earlier
          < ((added ++ [binding]).map Binding.name).idxOf later := by
      refine overlay.ordered.imp_of_mem ?_
      intro earlier later memberEarlier memberLater before
      rw [List.map_append, List.idxOf_append_of_mem ((overlay.mem_names_iff _).mp memberEarlier),
        List.idxOf_append_of_mem ((overlay.mem_names_iff _).mp memberLater)]
      exact before
    rw [names_bindIn]
    by_cases known : binding.name ∈ merged.map Binding.name
    · rw [if_pos known]
      exact kept
    · rw [if_neg known]
      refine List.pairwise_append.mpr ⟨kept, List.pairwise_singleton _ _, ?_⟩
      intro earlier memberEarlier later memberLater
      obtain rfl := List.mem_singleton.mp memberLater
      have present := (overlay.mem_names_iff _).mp memberEarlier
      have absent : binding.name ∉ added.map Binding.name := fun member =>
        known ((overlay.mem_names_iff _).mpr member)
      rw [List.map_append, List.idxOf_append_of_mem present, List.idxOf_append_of_notMem absent]
      exact Nat.lt_add_right _ (List.idxOf_lt_length_of_mem present)
  mem_iff other := by
    rw [mem_bindIn overlay.nodup_names, last?_concat, overlay.mem_iff]
    by_cases same : binding.name = other.name
    · rw [if_pos same, Option.some.injEq]
      constructor
      · rintro (rfl | ⟨_, differs⟩)
        · rfl
        · exact absurd same.symm differs
      · rintro rfl
        exact .inl rfl
    · rw [if_neg same]
      constructor
      · rintro (rfl | ⟨found, _⟩)
        · exact absurd rfl same
        · exact found
      · intro found
        exact .inr ⟨found, fun equal => same equal.symm⟩

/-- **Inserting bindings one after another leaves their overlay.** -/
theorem isOverlay_ofList (added : List (Binding ν α)) :
    IsOverlay added (ofList added).toList := by
  induction added using List.reverseRecOn with
  | nil => exact isOverlay_nil
  | append_singleton earlier binding ih =>
    rw [ofList, extend_append, extend_cons, extend_nil, toList_insert]
    exact ih.insert binding

/-- Extending by lists in turn is extending by all of them joined. -/
theorem foldl_extend (bindings : Bindings ν α) (lists : List (List (Binding ν α))) :
    lists.foldl extend bindings = bindings.extend lists.flatten := by
  induction lists generalizing bindings with
  | nil => rfl
  | cons list rest ih => rw [List.foldl_cons, ih, List.flatten_cons, extend_append]

end Bindings

open Bindings

/-- **Merged variables are the overlay of all lists joined.** -/
theorem isOverlay_mergeVariables (lists : List (List Variable)) :
    IsOverlay lists.flatten (mergeVariables lists) := by
  rw [mergeVariables, foldl_extend]
  exact isOverlay_ofList lists.flatten

/-- A later value takes the place of the earlier one. -/
example :
    mergeVariables
        [[⟨"gap", ⟨"1rem", false⟩⟩, ⟨"ink", ⟨"red", false⟩⟩], [⟨"gap", ⟨"2rem", false⟩⟩]]
      = [⟨"gap", ⟨"2rem", false⟩⟩, ⟨"ink", ⟨"red", false⟩⟩] := by decide

end CustomProperties
