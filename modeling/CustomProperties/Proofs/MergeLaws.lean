import CustomProperties.Proofs.Overlay

/-!
# The laws of merging

What merging makes of lists of variables depends only on which names occur first and which bindings
occur last.  Two lists are `Alike` if the last binding of every name is the same in both and names
follow one another in the same order of first occurrences.  Alike lists have the same overlay
(`IsOverlay.congr`), they stay alike when alike lists are added to them (`Alike.append`), and a
list is alike to its own overlay (`alike_of_isOverlay`) and to itself twice (`alike_append_self`).

So lists may be merged in groups, merging once more changes nothing, and neither does the last list
a second time.  Adding lists at the end never moves or removes a name (`names_prefix_extend`).  The
main statement, `merge_laws`, says all of this.
-/

namespace CustomProperties

set_option autoImplicit false

namespace Bindings

variable {ν α : Type} [DecidableEq ν]

/-! ## Last bindings of joined lists -/

/-- The last binding of a name is that of the later list, if it has one. -/
theorem last?_append (first second : List (Binding ν α)) (name : ν) :
    last? (first ++ second) name = (last? second name).or (last? first name) := by
  rw [last?, last?, last?, List.filter_append, List.getLast?_append]

/-- The names that occur are those that have a last binding. -/
theorem mem_names_iff_isSome_last? (added : List (Binding ν α)) (name : ν) :
    name ∈ added.map Binding.name ↔ (last? added name).isSome := by
  constructor
  · intro member
    obtain ⟨binding, found, _⟩ := exists_last?_of_mem member
    rw [found, Option.isSome_some]
  · intro found
    obtain ⟨binding, found⟩ := Option.isSome_iff_exists.mp found
    rw [last?] at found
    obtain ⟨member, same⟩ := List.mem_filter.mp (List.mem_of_getLast? found)
    exact of_decide_eq_true same ▸ List.mem_map_of_mem member

/-! ## Lists that are alike -/

/-- Two lists have the same last bindings, and the names of the first one follow the order of first
occurrences in the second one. -/
structure Alike (first second : List (Binding ν α)) : Prop where
  last : ∀ name, last? first name = last? second name
  order : ∀ earlier ∈ first.map Binding.name, ∀ later ∈ first.map Binding.name,
    (first.map Binding.name).idxOf earlier < (first.map Binding.name).idxOf later →
      (second.map Binding.name).idxOf earlier < (second.map Binding.name).idxOf later

namespace Alike

variable {first second first' second' : List (Binding ν α)}

theorem refl (bindings : List (Binding ν α)) : Alike bindings bindings where
  last _ := rfl
  order _ _ _ _ before := before

theorem mem_names_iff (alike : Alike first second) (name : ν) :
    name ∈ first.map Binding.name ↔ name ∈ second.map Binding.name := by
  rw [mem_names_iff_isSome_last?, mem_names_iff_isSome_last?, alike.last]

/-- **Lists stay alike when alike lists are added to them.** -/
theorem append (alike : Alike first first') (alike' : Alike second second') :
    Alike (first ++ second) (first' ++ second') where
  last name := by rw [last?_append, last?_append, alike.last, alike'.last]
  order := by
    intro earlier memberEarlier later memberLater before
    rw [List.map_append] at memberEarlier memberLater before
    rw [List.map_append]
    by_cases known : earlier ∈ first.map Binding.name
    · have known' := (alike.mem_names_iff earlier).mp known
      rw [List.idxOf_append_of_mem known] at before
      rw [List.idxOf_append_of_mem known']
      by_cases knownLater : later ∈ first.map Binding.name
      · rw [List.idxOf_append_of_mem knownLater] at before
        rw [List.idxOf_append_of_mem ((alike.mem_names_iff later).mp knownLater)]
        exact alike.order earlier known later knownLater before
      · rw [List.idxOf_append_of_notMem (fun member =>
          knownLater ((alike.mem_names_iff later).mpr member))]
        exact Nat.lt_add_right _ (List.idxOf_lt_length_of_mem known')
    · -- a name of the second list alone comes after all names of the first one
      rw [List.idxOf_append_of_notMem known] at before
      by_cases knownLater : later ∈ first.map Binding.name
      · rw [List.idxOf_append_of_mem knownLater] at before
        have inside := List.idxOf_lt_length_of_mem knownLater
        omega
      · rw [List.idxOf_append_of_notMem knownLater] at before
        rw [List.idxOf_append_of_notMem (fun member =>
            known ((alike.mem_names_iff earlier).mpr member)),
          List.idxOf_append_of_notMem (fun member =>
            knownLater ((alike.mem_names_iff later).mpr member))]
        refine Nat.add_lt_add_left (alike'.order earlier ?_ later ?_ ?_) _
        · exact (List.mem_append.mp memberEarlier).resolve_left known
        · exact (List.mem_append.mp memberLater).resolve_left knownLater
        · omega

end Alike

/-- **Alike lists have the same overlay.** -/
theorem IsOverlay.congr {first second merged : List (Binding ν α)} (alike : Alike first second)
    (overlay : IsOverlay first merged) : IsOverlay second merged where
  ordered := by
    refine overlay.ordered.imp_of_mem ?_
    intro earlier later memberEarlier memberLater before
    exact alike.order earlier ((overlay.mem_names_iff earlier).mp memberEarlier) later
      ((overlay.mem_names_iff later).mp memberLater) before
  mem_iff binding := by rw [overlay.mem_iff, alike.last]

/-- The last binding of a name in an overlay is the last one in the list below. -/
theorem IsOverlay.last?_eq {added merged : List (Binding ν α)} (overlay : IsOverlay added merged)
    (name : ν) : last? merged name = last? added name := by
  by_cases known : name ∈ added.map Binding.name
  · obtain ⟨binding, found, rfl⟩ := exists_last?_of_mem known
    have member := (overlay.mem_iff binding).mpr found
    rw [found, last?, filter_name_eq_singleton overlay.nodup_names member]
    rfl
  · have absent (bindings : List (Binding ν α)) (unknown : name ∉ bindings.map Binding.name) :
        last? bindings name = none := by
      rwa [mem_names_iff_isSome_last?, Option.not_isSome_iff_eq_none] at unknown
    rw [absent added known, absent merged (mt (overlay.mem_names_iff name).mp known)]

/-- **A list is alike to its overlay.** -/
theorem alike_of_isOverlay {added merged : List (Binding ν α)} (overlay : IsOverlay added merged) :
    Alike merged added where
  last := overlay.last?_eq
  order := by
    intro earlier memberEarlier later memberLater before
    have positions := List.pairwise_iff_getElem.mp overlay.ordered _ _
      (List.idxOf_lt_length_of_mem memberEarlier) (List.idxOf_lt_length_of_mem memberLater) before
    rwa [List.getElem_idxOf, List.getElem_idxOf] at positions

/-- **A list is alike to itself twice.** -/
theorem alike_append_self (bindings : List (Binding ν α)) :
    Alike (bindings ++ bindings) bindings where
  last name := by rw [last?_append, Option.or_self]
  order := by
    intro earlier memberEarlier later memberLater before
    rw [List.map_append, List.mem_append, or_self] at memberEarlier memberLater
    rwa [List.map_append, List.idxOf_append_of_mem memberEarlier,
      List.idxOf_append_of_mem memberLater] at before

/-! ## Names only grow -/

/-- **Adding bindings never moves or removes a name.** -/
theorem names_prefix_extend (bindings : Bindings ν α) (added : List (Binding ν α)) :
    bindings.names <+: (bindings.extend added).names := by
  induction added generalizing bindings with
  | nil => exact List.prefix_refl _
  | cons binding rest ih =>
    rw [extend_cons]
    refine List.IsPrefix.trans ?_ (ih _)
    rw [names, names, toList_insert, names_bindIn]
    split
    · exact List.prefix_refl _
    · exact List.prefix_append _ _

end Bindings

open Bindings

/-! ## Merging -/

theorem mergeVariables_eq_ofList (lists : List (List Variable)) :
    mergeVariables lists = (ofList lists.flatten).toList := by
  rw [mergeVariables, foldl_extend, ofList]

/-- **Alike lists of variables are merged to the same.** -/
theorem mergeVariables_congr {lists others : List (List Variable)}
    (alike : Alike lists.flatten others.flatten) : mergeVariables lists = mergeVariables others :=
  (isOverlay_mergeVariables others).unique ((isOverlay_mergeVariables lists).congr alike)

/-- **The laws of merging.**

Merging depends only on the joined lists, it may be done in groups, and doing it once more changes
nothing.  The last list may be given a second time.  Further lists leave the names that are there
in their order, and add theirs at the end. -/
theorem merge_laws :
    (∀ lists others : List (List Variable), lists.flatten = others.flatten →
      mergeVariables lists = mergeVariables others) ∧
    (∀ lists : List (List Variable), mergeVariables lists = mergeVariables [lists.flatten]) ∧
    (∀ first second : List (List Variable),
      mergeVariables [mergeVariables first, mergeVariables second]
        = mergeVariables (first ++ second)) ∧
    (∀ lists : List (List Variable), mergeVariables [mergeVariables lists] = mergeVariables lists) ∧
    (∀ (lists : List (List Variable)) (last : List Variable),
      mergeVariables (lists ++ [last, last]) = mergeVariables (lists ++ [last])) ∧
    (∀ first second : List (List Variable),
      (mergeVariables first).map Binding.name
        <+: (mergeVariables (first ++ second)).map Binding.name) := by
  have merged_alike (lists : List (List Variable)) : Alike (mergeVariables lists) lists.flatten :=
    alike_of_isOverlay (isOverlay_mergeVariables lists)
  have joined (lists others : List (List Variable)) (same : lists.flatten = others.flatten) :
      mergeVariables lists = mergeVariables others :=
    mergeVariables_congr (same ▸ Alike.refl _)
  refine ⟨joined, ?_, ?_, ?_, ?_, ?_⟩
  · intro lists
    exact joined _ _ (by simp)
  · intro first second
    refine mergeVariables_congr ?_
    simpa using (merged_alike first).append (merged_alike second)
  · intro lists
    refine mergeVariables_congr ?_
    simpa using merged_alike lists
  · intro lists last
    refine mergeVariables_congr ?_
    simpa using (Alike.refl lists.flatten).append (alike_append_self last)
  · intro first second
    rw [mergeVariables_eq_ofList, mergeVariables_eq_ofList, List.flatten_append, ofList, ofList,
      extend_append]
    exact names_prefix_extend _ _

/-- A name that occurs three times: the lists may be cut elsewhere, or merged before. -/
theorem merge_laws_regrouped :
    let ink (color : String) : Variable := ⟨"ink", ⟨color, false⟩⟩
    let gap : Variable := ⟨"gap", ⟨"1rem", false⟩⟩
    let lists := [[ink "red", gap], [ink "blue", ink "green"]]
    lists.flatten = [[ink "red"], [gap, ink "blue"], [ink "green"]].flatten ∧
    mergeVariables lists = mergeVariables [[ink "red"], [gap, ink "blue"], [ink "green"]] ∧
    mergeVariables [mergeVariables lists] = mergeVariables lists ∧
    mergeVariables lists = [ink "green", gap] := by
  intro ink gap lists
  obtain ⟨joined, _, _, again, _⟩ := merge_laws
  exact ⟨by decide, joined _ _ (by decide), again lists, by decide⟩

end CustomProperties
