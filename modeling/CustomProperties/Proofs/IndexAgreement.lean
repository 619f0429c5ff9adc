import CustomProperties.IndexedBindings
import CustomProperties.Proofs.Overlay
import Mathlib.Data.Finset.Card

/-!
# The index agrees with the array

Bindings with an index say twice where a name stands.  The two agree (`Agrees`) if the index gives a
place for a name exactly if the name stands there, which also means that no name stands at two
places (`Agrees.nodup_names`).

As long as they agree, reading and inserting never fail, and they come to what they come to for
bindings that are searched (`Agrees.get?_eq`, `Agrees.insert`).  Inserting keeps the agreement, so
every run of steps that insert does (`Agrees.run`), and what is then seen of the array and of the
index follows from the history of the bindings that were inserted (`Agrees.remembers`).  An index
that is made at once agrees if no name is repeated (`agrees_index`).
-/

namespace CustomProperties

set_option autoImplicit false

variable {ν α : Type} [DecidableEq ν]

/-! ## Bindings by place -/

namespace Bindings

/-- A name stands for nothing if it is not bound. -/
theorem get?_eq_none_iff (bindings : Bindings ν α) (name : ν) :
    bindings.get? name = none ↔ name ∉ bindings.names := by
  rw [get?, Option.map_eq_none_iff, List.find?_eq_none, names, List.mem_map]
  simp only [decide_eq_true_eq, not_exists, not_and]

/-- Binding a name anew changes what stands at its place. -/
theorem bindIn_eq_set {bindings : List (Binding ν α)} {binding : Binding ν α} {place : Nat}
    (value : α) (distinct : (bindings.map Binding.name).Nodup)
    (present : bindings[place]? = some binding) :
    bindIn binding.name value bindings = bindings.set place ⟨binding.name, value⟩ := by
  induction bindings generalizing place with
  | nil => cases present
  | cons head rest ih =>
    obtain ⟨fresh, distinct⟩ := List.nodup_cons.mp distinct
    cases place with
    | zero =>
      obtain rfl : head = binding := Option.some.inj present
      rw [bindIn, if_pos rfl, List.set_cons_zero]
    | succ place =>
      have later : rest[place]? = some binding := present
      have elsewhere : head.name ≠ binding.name := by
        intro same
        exact fresh (same ▸ List.mem_map_of_mem (List.mem_of_getElem? later))
      rw [bindIn, if_neg elsewhere, ih distinct later, List.set_cons_succ]

/-- Bindings of other names stand where they stood. -/
theorem getElem?_bindIn_of_ne {name : ν} (value : α) {binding : Binding ν α}
    (other : binding.name ≠ name) (bindings : List (Binding ν α)) (place : Nat) :
    (bindIn name value bindings)[place]? = some binding ↔ bindings[place]? = some binding := by
  have differs : (⟨name, value⟩ : Binding ν α) ≠ binding := by
    rintro rfl
    exact other rfl
  induction bindings generalizing place with
  | nil => cases place <;> simp [bindIn, differs]
  | cons head rest ih =>
    by_cases here : head.name = name
    · have replaced : head ≠ binding := by
        rintro rfl
        exact other here
      rw [bindIn, if_pos here]
      cases place with
      | zero => simp [differs, replaced]
      | succ place => rfl
    · rw [bindIn, if_neg here]
      cases place with
      | zero => rfl
      | succ place => exact ih place

/-- A name stands for the value of the last binding of it that was inserted. -/
theorem get?_ofList (added : List (Binding ν α)) (name : ν) :
    (ofList added).get? name = (last? added name).map Binding.value := by
  have overlay := isOverlay_ofList added
  cases found : last? added name with
  | some binding =>
    obtain rfl := name_eq_of_last?_eq_some found
    exact get?_of_mem overlay.nodup_names ((overlay.mem_iff binding).mpr found)
  | none =>
    refine (get?_eq_none_iff _ name).mpr fun member => ?_
    obtain ⟨binding, last, _⟩ := exists_last?_of_mem ((overlay.mem_names_iff name).mp member)
    cases found.symm.trans last

end Bindings

/-- What stands at a place of a list with one more element at its end. -/
theorem getElem?_concat_eq_some_iff {β : Type} (front : List β) (last value : β) (place : Nat) :
    (front ++ [last])[place]? = some value
      ↔ front[place]? = some value ∨ place = front.length ∧ last = value := by
  rcases Nat.lt_trichotomy place front.length with before | rfl | after
  · have differs := Nat.ne_of_lt before
    simp only [List.getElem?_append_left before, differs, false_and, or_false]
  · simp
  · have differs := Nat.ne_of_gt after
    have beyond : (front ++ [last]).length ≤ place := by
      rw [List.length_append, List.length_singleton]
      exact after
    simp only [List.getElem?_eq_none beyond, List.getElem?_eq_none (Nat.le_of_lt after),
      reduceCtorEq, differs, false_and, or_false]

namespace IndexedBindings

variable [Hashable ν]

/-! ## Agreement -/

/-- The index gives a place for a name exactly if the name stands there. -/
def Agrees (table : IndexedBindings ν α) : Prop :=
  ∀ (name : ν) (place : Nat),
    table.places[name]? = some place ↔ table.names[place]? = some name

theorem agrees_empty : (empty : IndexedBindings ν α).Agrees := by
  intro name place
  simp [empty, names, bindings, Bindings.names]

/-- **An index that is made at once agrees with the array** if the names are different. -/
theorem agrees_index {entries : List (Binding ν α)}
    (distinct : (entries.map Binding.name).Nodup) : (index entries).Agrees := by
  intro name place
  have keys : (entries.map Binding.name).zipIdx.Pairwise
      fun earlier later => (earlier.1 == later.1) = false := by
    rw [← List.zipIdx_map_fst 0 (entries.map Binding.name)] at distinct
    exact (List.pairwise_map.mp distinct).imp beq_false_of_ne
  have noted {place : Nat} (present : (entries.map Binding.name)[place]? = some name) :
      (index entries).places[name]? = some place :=
    Std.HashMap.getElem?_ofList_of_mem (beq_self_eq_true name) keys
      (List.mk_mem_zipIdx_iff_getElem?.mpr present)
  refine ⟨fun known => ?_, noted⟩
  by_cases member : name ∈ entries.map Binding.name
  · obtain ⟨other, present⟩ := List.mem_iff_getElem?.mp member
    obtain rfl : place = other := Option.some.inj (known.symm.trans (noted present))
    exact present
  · have unknown : ((entries.map Binding.name).zipIdx.map Prod.fst).contains name = false := by
      rw [List.zipIdx_map_fst]
      simpa using member
    rw [index, Std.HashMap.getElem?_ofList_of_contains_eq_false unknown] at known
    cases known

theorem length_names (table : IndexedBindings ν α) : table.names.length = table.size := by
  rw [names, Bindings.names, List.length_map]
  exact Array.length_toList

theorem toList_append (table : IndexedBindings ν α) (name : ν) (value : α) :
    (table.append name value).bindings.toList = table.bindings.toList ++ [⟨name, value⟩] :=
  Array.toList_push

theorem names_append (table : IndexedBindings ν α) (name : ν) (value : α) :
    (table.append name value).names = table.names ++ [name] := by
  rw [names, Bindings.names, toList_append, List.map_append]
  rfl

theorem toList_replaceAt (table : IndexedBindings ν α) (place : Nat) (binding : Binding ν α)
    (value : α) :
    (table.replaceAt place binding value).bindings.toList
      = table.bindings.toList.set place ⟨binding.name, value⟩ :=
  Array.toList_setIfInBounds

theorem names_replaceAt {table : IndexedBindings ν α} {place : Nat} {binding : Binding ν α}
    (present : table.bindings.toList[place]? = some binding) (value : α) :
    (table.replaceAt place binding value).names = table.names := by
  have named : (table.bindings.toList.map Binding.name)[place]? = some binding.name := by
    rw [List.getElem?_map, present, Option.map_some]
  obtain ⟨within, here⟩ := List.getElem?_eq_some_iff.mp named
  rw [names, Bindings.names, toList_replaceAt, List.map_set, ← here, List.set_getElem_self]
  rfl

namespace Agrees

variable {table : IndexedBindings ν α} (agrees : table.Agrees)
include agrees

/-- **No name stands at two places.** -/
theorem nodup_names : table.names.Nodup := by
  refine List.nodup_iff_getElem?_ne_getElem?.mpr fun first second before within same => ?_
  have present := List.getElem?_eq_getElem within
  have here := (agrees _ first).mpr (same.trans present)
  have there := (agrees _ second).mpr present
  exact Nat.ne_of_lt before (Option.some.inj (here.symm.trans there))

/-- A name that the index does not know is not bound. -/
theorem not_mem_names {name : ν} (unknown : table.places[name]? = none) : name ∉ table.names := by
  intro member
  obtain ⟨place, present⟩ := List.mem_iff_getElem?.mp member
  cases unknown.symm.trans ((agrees name place).mpr present)

/-- At the place that the index gives for a name stands a binding of that name. -/
theorem exists_entryAt {name : ν} {place : Nat} (known : table.places[name]? = some place) :
    ∃ binding, binding.name = name ∧ table.bindings.toList[place]? = some binding ∧
      table.entryAt place = .ok binding := by
  have named := (agrees name place).mp known
  rw [names, Bindings.names, List.getElem?_map] at named
  obtain ⟨binding, present, rfl⟩ := Option.map_eq_some_iff.mp named
  have stored : table.entries[place]? = some binding := Array.getElem?_toList.symm.trans present
  exact ⟨binding, rfl, present, by rw [entryAt, stored]⟩

/-- **Looking up a name does not fail**, and finds what a search finds. -/
theorem get?_eq (name : ν) : table.get? name = .ok (table.bindings.get? name) := by
  cases known : table.places[name]? with
  | none =>
    have unbound := (table.bindings.get?_eq_none_iff name).mpr (agrees.not_mem_names known)
    simp only [get?, known, unbound]
  | some place =>
    obtain ⟨binding, rfl, present, stored⟩ := agrees.exists_entryAt known
    have found := Bindings.get?_of_mem agrees.nodup_names (List.mem_of_getElem? present)
    simp only [get?, known, stored, found]
    rfl

/-- A new name that is noted at the end keeps the agreement. -/
theorem append {name : ν} (fresh : name ∉ table.names) (value : α) :
    (table.append name value).Agrees := by
  intro other place
  have places_eq : (table.append name value).places[other]?
      = if name = other then some table.size else table.places[other]? := by
    simp only [IndexedBindings.append, Std.HashMap.getElem?_insert, beq_iff_eq]
    rfl
  rw [places_eq, names_append, getElem?_concat_eq_some_iff, length_names]
  by_cases new : name = other
  · subst new
    have elsewhere : table.names[place]? ≠ some name := fun present =>
      fresh (List.mem_of_getElem? present)
    simp only [if_true, Option.some.injEq, elsewhere, false_or, and_true, eq_comm]
  · simp only [new, if_false, agrees other place, and_false, or_false]

/-- A value that is exchanged keeps the agreement. -/
theorem replaceAt {place : Nat} {binding : Binding ν α}
    (present : table.bindings.toList[place]? = some binding) (value : α) :
    (table.replaceAt place binding value).Agrees := by
  intro other place'
  rw [names_replaceAt present]
  exact agrees other place'

/-- **Inserting does not fail**, gives what the name stood for, and comes to what it comes to for
bindings that are searched. -/
theorem insert (name : ν) (value : α) :
    ∃ next, table.insert name value = .ok (table.bindings.get? name, next) ∧ next.Agrees ∧
      next.bindings = table.bindings.insert name value := by
  cases known : table.places[name]? with
  | none =>
    have fresh := agrees.not_mem_names known
    have unbound := (table.bindings.get?_eq_none_iff name).mpr fresh
    refine ⟨table.append name value, ?_, agrees.append fresh value, ?_⟩
    · simp only [IndexedBindings.insert, known, unbound]
    · refine congrArg Bindings.mk ?_
      rw [Bindings.bindIn_of_not_mem value fresh]
      exact table.toList_append name value
  | some place =>
    obtain ⟨binding, rfl, present, stored⟩ := agrees.exists_entryAt known
    have found := Bindings.get?_of_mem agrees.nodup_names (List.mem_of_getElem? present)
    refine ⟨table.replaceAt place binding value, ?_, agrees.replaceAt present value, ?_⟩
    · simp only [IndexedBindings.insert, known, stored, found]
      rfl
    · refine congrArg Bindings.mk ?_
      rw [Bindings.bindIn_eq_set value agrees.nodup_names present]
      exact table.toList_replaceAt place binding value

end Agrees

/-! ## Runs -/

/-- A result is a table whose index agrees with its array, and the array holds some bindings. -/
def LeadsTo (result : Except Misplaced (IndexedBindings ν α)) (bindings : Bindings ν α) : Prop :=
  ∃ table, result = .ok table ∧ table.Agrees ∧ table.bindings = bindings

theorem LeadsTo.of_eq_ok {result : Except Misplaced (IndexedBindings ν α)}
    {bindings : Bindings ν α} (leads : LeadsTo result bindings) {table : IndexedBindings ν α}
    (reached : result = .ok table) : table.Agrees ∧ table.bindings = bindings := by
  obtain ⟨other, reached', agrees, holds⟩ := leads
  obtain rfl : other = table := Except.ok.inj (reached'.symm.trans reached)
  exact ⟨agrees, holds⟩

theorem Agrees.leadsTo_inserting {table : IndexedBindings ν α} (agrees : table.Agrees) (name : ν)
    (value : α) : LeadsTo (table.inserting name value) (table.bindings.insert name value) := by
  obtain ⟨next, inserted, agrees', holds⟩ := agrees.insert name value
  exact ⟨next, by rw [inserting, inserted]; rfl, agrees', holds⟩

/-- **A run of steps keeps the agreement** if each of its steps does, and changes the array as the
steps change bindings. -/
theorem Agrees.run {σ : Type}
    {apply : IndexedBindings ν α → σ → Except Misplaced (IndexedBindings ν α)}
    {change : Bindings ν α → σ → Bindings ν α}
    (follows : ∀ (table : IndexedBindings ν α) (step : σ), table.Agrees →
      LeadsTo (apply table step) (change table.bindings step))
    (steps : List σ) {table : IndexedBindings ν α} (agrees : table.Agrees) :
    LeadsTo (steps.foldlM apply table) (steps.foldl change table.bindings) := by
  induction steps generalizing table with
  | nil => exact ⟨table, rfl, agrees, rfl⟩
  | cons step rest ih =>
    obtain ⟨next, applied, agrees', holds⟩ := follows table step agrees
    rw [List.foldlM_cons, applied, List.foldl_cons, ← holds]
    exact ih agrees'

/-- Extending is such a run. -/
theorem Agrees.leadsTo_extend {table : IndexedBindings ν α} (agrees : table.Agrees)
    (added : List (Binding ν α)) : LeadsTo (table.extend added) (table.bindings.extend added) :=
  agrees.run (fun _ binding agrees => agrees.leadsTo_inserting binding.name binding.value) added

theorem leadsTo_collect (added : List (Binding ν α)) :
    LeadsTo (collect added) (Bindings.ofList added) :=
  agrees_empty.leadsTo_extend added

/-! ## What is seen of a table -/

/-- A table stores bindings: it answers as they do, and its index gives their places. -/
structure Stores (table : IndexedBindings ν α) (bindings : Bindings ν α) : Prop where
  entries : table.entries.toList = bindings.toList
  places : ∀ name : ν, table.places[name]? = bindings.position? name
  get : ∀ name : ν, table.get? name = .ok (bindings.get? name)
  size : table.size = bindings.size

/-- A table remembers the bindings that were inserted into it. -/
structure Remembers (table : IndexedBindings ν α) (history : List (Binding ν α)) : Prop where
  /-- No name is repeated. -/
  nodup : table.names.Nodup
  /-- The names are those that were inserted. -/
  mem_iff : ∀ name, name ∈ table.names ↔ name ∈ history.map Binding.name
  /-- They stand in the order in which they were first inserted. -/
  ordered : table.names.Pairwise fun earlier later =>
    (history.map Binding.name).idxOf earlier < (history.map Binding.name).idxOf later
  /-- The index holds just these names, each with its place. -/
  places : ∀ (name : ν) (place : Nat),
    table.places[name]? = some place ↔ table.names[place]? = some name
  /-- A name stands for the value that was inserted last. -/
  get : ∀ name, table.get? name = .ok ((Bindings.last? history name).map Binding.value)
  /-- It stands for nothing if it was not inserted. -/
  get_eq_none_iff : ∀ name, table.get? name = .ok none ↔ name ∉ history.map Binding.name
  /-- There are as many bindings as different names that were inserted. -/
  size : table.size = (history.map Binding.name).toFinset.card

/-- What an insertion does to a table, and what it leaves as it was. -/
structure Inserts (table : IndexedBindings ν α) (name : ν) (value : α) (replaced : Option α)
    (next : IndexedBindings ν α) : Prop where
  /-- What is given back is what the name stood for. -/
  gives : table.get? name = .ok replaced
  /-- Nothing is given back if the name is new. -/
  gives_none_iff : replaced = none ↔ name ∉ table.names
  /-- The name stands for the new value. -/
  get : next.get? name = .ok (some value)
  /-- Other names stand for what they stood for. -/
  get_other : ∀ other, other ≠ name → next.get? other = table.get? other
  /-- Names stay where they are, and a new one goes to the end. -/
  names : next.names = if name ∈ table.names then table.names else table.names ++ [name]
  /-- The index is the same, but for a new name. -/
  places : ∀ other : ν, other ≠ name ∨ name ∈ table.names →
    next.places[other]? = table.places[other]?
  /-- Bindings of other names stay where they are. -/
  entries : ∀ (place : Nat) (binding : Binding ν α), binding.name ≠ name →
    (next.entries[place]? = some binding ↔ table.entries[place]? = some binding)
  /-- There is one binding more if the name is new. -/
  size : next.size = if name ∈ table.names then table.size else table.size + 1

namespace Agrees

variable {table : IndexedBindings ν α} (agrees : table.Agrees)
include agrees

/-- **A table stores what its array holds.** -/
theorem stores : table.Stores table.bindings where
  entries := rfl
  places := by
    intro name
    cases known : table.places[name]? with
    | none =>
      refine (List.findIdx?_eq_none_iff.mpr fun binding member => ?_).symm
      refine decide_eq_false fun same => agrees.not_mem_names known ?_
      exact same ▸ List.mem_map_of_mem member
    | some place =>
      obtain ⟨binding, rfl, present, _⟩ := agrees.exists_entryAt known
      obtain ⟨within, here⟩ := List.getElem?_eq_some_iff.mp present
      refine (List.findIdx?_eq_some_iff_getElem.mpr ⟨within, decide_eq_true ?_, ?_⟩).symm
      · rw [here]
      · intro earlier before same
        have named : table.names[earlier]? = some binding.name := by
          rw [names, Bindings.names, List.getElem?_map,
            List.getElem?_eq_getElem (before.trans within)]
          exact congrArg some (of_decide_eq_true same)
        have there := (agrees _ earlier).mpr named
        exact Nat.ne_of_lt before (Option.some.inj (there.symm.trans known))
  get := agrees.get?_eq
  size := Array.length_toList.symm

/-- **A table remembers what its array was made of.** -/
theorem remembers {history : List (Binding ν α)}
    (holds : table.bindings = Bindings.ofList history) : table.Remembers history := by
  have overlay := Bindings.isOverlay_ofList history
  have names_eq : table.names = (Bindings.ofList history).toList.map Binding.name := by
    rw [names, holds, Bindings.names]
  have get_eq (name : ν) :
      table.get? name = .ok ((Bindings.last? history name).map Binding.value) := by
    rw [agrees.get?_eq, holds, Bindings.get?_ofList]
  have mem_iff (name : ν) : name ∈ table.names ↔ name ∈ history.map Binding.name := by
    rw [names_eq, overlay.mem_names_iff]
  refine ⟨agrees.nodup_names, mem_iff, ?_, agrees, get_eq, ?_, ?_⟩
  · rw [names_eq]
    exact overlay.ordered
  · intro name
    rw [agrees.get?_eq, Except.ok.injEq, Bindings.get?_eq_none_iff]
    exact not_congr (mem_iff name)
  · have same : table.names.toFinset = (history.map Binding.name).toFinset := by
      ext name
      rw [List.mem_toFinset, List.mem_toFinset, mem_iff]
    rw [← table.length_names, ← List.toFinset_card_of_nodup agrees.nodup_names, same]

/-- **An insertion gives what the name stood for, binds the name, and changes nothing else.** -/
theorem inserts (name : ν) (value : α) :
    ∃ replaced next, table.insert name value = .ok (replaced, next) ∧
      table.Inserts name value replaced next := by
  obtain ⟨next, inserted, agrees', holds⟩ := agrees.insert name value
  have names_eq : next.names
      = if name ∈ table.names then table.names else table.names ++ [name] := by
    rw [names, holds]
    exact Bindings.names_bindIn name value table.bindings.toList
  have get_eq (other : ν) : next.get? other
      = .ok (if other = name then some value else table.bindings.get? other) := by
    rw [agrees'.get?_eq, holds, Bindings.get?_insert]
  refine ⟨_, next, inserted, agrees.get?_eq name, table.bindings.get?_eq_none_iff name, ?_, ?_,
    names_eq, ?_, ?_, ?_⟩
  · rw [get_eq, if_pos rfl]
  · intro other differs
    rw [get_eq, if_neg differs, agrees.get?_eq]
  · intro other kept
    refine Option.ext fun place => ?_
    rw [agrees' other place, agrees other place, names_eq]
    split
    next known => rfl
    next fresh =>
      have differs := kept.resolve_right fresh
      rw [getElem?_concat_eq_some_iff, or_iff_left]
      exact fun at_end => differs at_end.2.symm
  · intro place binding differs
    have stands := Bindings.getElem?_bindIn_of_ne value differs table.bindings.toList place
    rw [← Array.getElem?_toList, ← Array.getElem?_toList]
    rw [← Bindings.toList_insert, ← holds] at stands
    exact stands
  · rw [← next.length_names, ← table.length_names, names_eq]
    split
    next => rfl
    next => exact List.length_append

end Agrees

end IndexedBindings

end CustomProperties
