import ApiServices.Keyed

namespace ApiServices
namespace Keyed

/-!
# Inserting into ordered maps

Where the keys are new, insertion is appending.  So a map is rebuilt from the
list of its own entries, in their order.  What an insertion leaves in a map
comes either from the map or from the insertion.

Where the values are lists, an insertion may lengthen the list of its key.
Then the lists together gain what was added, and lose nothing.
-/

/-- Maps with the same entries in the same order are the same. -/
theorem eq_of_entries {κ α : Type} {left right : Keyed κ α} (same : left.entries = right.entries) :
    left = right := by
  cases left
  cases right
  simpa using same

theorem filterKeys_filterKeys {κ α : Type} (p : κ -> Bool) (map : Keyed κ α) :
    (map.filterKeys p).filterKeys p = map.filterKeys p := by
  apply eq_of_entries
  change (map.entries.filter _).filter _ = map.entries.filter _
  rw [List.filter_filter]
  simp

variable {κ α : Type} [DecidableEq κ]

/-- Entries with the same keys in the same order, and the same value for each,
are the same. -/
theorem entries_eq_of_lookup {left right : List (κ × α)}
    (distinct : (left.map Prod.fst).Nodup) (keys : left.map Prod.fst = right.map Prod.fst)
    (values : ∀ key ∈ left.map Prod.fst, left.lookup key = right.lookup key) : left = right := by
  induction left generalizing right with
  | nil => exact (List.map_eq_nil_iff.mp keys.symm).symm
  | cons entry rest ih =>
    cases right with
    | nil => cases keys
    | cons other others =>
      obtain ⟨key, value⟩ := entry
      obtain ⟨otherKey, otherValue⟩ := other
      obtain ⟨sameKey, sameKeys⟩ := List.cons.inj keys
      obtain ⟨fresh, distinct⟩ := List.nodup_cons.mp distinct
      change key = otherKey at sameKey
      subst sameKey
      have sameValue := values key List.mem_cons_self
      rw [List.lookup_cons_self, List.lookup_cons_self] at sameValue
      rw [Option.some.inj sameValue, ih distinct sameKeys]
      intro later member
      have apart : later ≠ key := fun same => fresh (same ▸ member)
      have sameLater := values later (List.mem_cons_of_mem key member)
      rwa [List.lookup_cons, List.lookup_cons, beq_false_of_ne apart] at sameLater

/-- Maps with the same keys in the same order, and the same value for each, are
the same. -/
theorem eq_of_get? {left right : Keyed κ α} (keys : left.keys = right.keys)
    (values : forall key, left.get? key = right.get? key) : left = right :=
  eq_of_entries (entries_eq_of_lookup left.distinct keys fun key _ => values key)

/-- What is found under a key is an entry. -/
theorem mem_of_lookup {κ α : Type} [BEq κ] [LawfulBEq κ] {key : κ} {value : α}
    {entries : List (κ × α)} (found : entries.lookup key = some value) : (key, value) ∈ entries := by
  obtain ⟨before, later, split, _⟩ := List.lookup_eq_some_iff.mp found
  rw [split]
  exact List.mem_append_right before List.mem_cons_self

theorem mem_keys_of_get? {map : Keyed κ α} {key : κ} {value : α}
    (here : map.get? key = some value) : key ∈ map.keys :=
  List.mem_map_of_mem (mem_of_lookup here)

theorem put_of_notMem {key : κ} {entries : List (κ × α)} (value : α)
    (fresh : key ∉ entries.map Prod.fst) : put key value entries = entries ++ [(key, value)] := by
  induction entries with
  | nil => rfl
  | cons entry rest ih =>
    rw [List.map_cons, List.mem_cons, not_or] at fresh
    rw [put, if_neg (Ne.symm fresh.1), ih fresh.2]
    rfl

/-- An entry with a new key goes to the end. -/
theorem entries_insert_of_notMem {map : Keyed κ α} {key : κ} (value : α)
    (fresh : key ∉ map.keys) : (map.insert key value).entries = map.entries ++ [(key, value)] :=
  put_of_notMem value fresh

/-- Entries with new and different keys go to the end in their order. -/
theorem entries_insertAll_of_nodup (map : Keyed κ α) (entries : List (κ × α))
    (distinct : ((map.entries ++ entries).map Prod.fst).Nodup) :
    (map.insertAll entries).entries = map.entries ++ entries := by
  induction entries generalizing map with
  | nil => exact (List.append_nil map.entries).symm
  | cons entry rest ih =>
    have fresh : entry.1 ∉ map.keys := by
      intro member
      rw [List.map_append, List.nodup_append] at distinct
      exact distinct.2.2 entry.1 member entry.1 List.mem_cons_self rfl
    have appended := entries_insert_of_notMem entry.2 fresh
    change ((map.insert entry.1 entry.2).insertAll rest).entries = _
    rw [ih, appended, List.append_assoc, List.singleton_append]
    rwa [appended, List.append_assoc, List.singleton_append]

/-- A map is rebuilt by inserting its entries. -/
theorem insertAll_entries (map : Keyed κ α) : empty.insertAll map.entries = map :=
  eq_of_entries (entries_insertAll_of_nodup empty map.entries map.distinct)

theorem mem_put {key : κ} {value : α} {entries : List (κ × α)} {entry : κ × α}
    (member : entry ∈ put key value entries) : entry = (key, value) ∨ entry ∈ entries := by
  induction entries with
  | nil => exact Or.inl (List.mem_singleton.mp member)
  | cons first rest ih =>
    unfold put at member
    split at member
    · next same =>
      rcases List.mem_cons.mp member with replaced | later
      · exact Or.inl (same ▸ replaced)
      · exact Or.inr (List.mem_cons_of_mem first later)
    · rcases List.mem_cons.mp member with here | later
      · exact Or.inr (here ▸ List.mem_cons_self)
      · rcases ih later with added | old
        · exact Or.inl added
        · exact Or.inr (List.mem_cons_of_mem first old)

theorem mem_entries_insert {map : Keyed κ α} {key : κ} {value : α} {entry : κ × α}
    (member : entry ∈ (map.insert key value).entries) :
    entry = (key, value) ∨ entry ∈ map.entries :=
  mem_put member

/-- Insertion takes no key away, and its own key is there afterwards. -/
theorem mem_keys_insert {map : Keyed κ α} {key : κ} {value : α} {other : κ}
    (either : other = key ∨ other ∈ map.keys) : other ∈ (map.insert key value).keys := by
  rw [keys_insert]
  split
  · next known =>
    rcases either with same | old
    · exact same ▸ known
    · exact old
  · rcases either with same | old
    · exact List.mem_append_right _ (List.mem_singleton.mpr same)
    · exact List.mem_append_left _ old

/-- An entry of a map that has been added to is an old or an added one. -/
theorem mem_entries_insertAll {map : Keyed κ α} {entries : List (κ × α)} {entry : κ × α}
    (member : entry ∈ (map.insertAll entries).entries) :
    entry ∈ map.entries ∨ entry ∈ entries := by
  induction entries generalizing map with
  | nil => exact Or.inl member
  | cons first rest ih =>
    rcases ih member with earlier | later
    · rcases mem_entries_insert earlier with added | old
      · exact Or.inr (added ▸ List.mem_cons_self)
      · exact Or.inl old
    · exact Or.inr (List.mem_cons_of_mem first later)

theorem mem_keys_insertAll {map : Keyed κ α} {entries : List (κ × α)} {key : κ}
    (either : key ∈ map.keys ∨ key ∈ entries.map Prod.fst) :
    key ∈ (map.insertAll entries).keys := by
  induction entries generalizing map with
  | nil => exact either.resolve_right List.not_mem_nil
  | cons first rest ih =>
    apply ih
    rcases either with old | added
    · exact Or.inl (mem_keys_insert (Or.inr old))
    · rcases List.mem_cons.mp added with here | later
      · exact Or.inl (mem_keys_insert (Or.inl here))
      · exact Or.inr later

/-! ## Insertions that a filter undoes -/

section Filters

variable {p : κ -> Bool}

theorem filter_put_of_not {key : κ} (value : α) (entries : List (κ × α)) (out : p key = false) :
    (put key value entries).filter (fun entry => p entry.1) =
      entries.filter fun entry => p entry.1 := by
  induction entries with
  | nil => simp [put, out]
  | cons entry rest ih =>
    rw [put]
    split
    · next same => simp [same, out]
    · rw [List.filter_cons, List.filter_cons, ih]

/-- What is inserted under keys that a filter drops is dropped again. -/
theorem filterKeys_insertAll_of_not (map : Keyed κ α) (entries : List (κ × α))
    (out : ∀ entry ∈ entries, p entry.1 = false) :
    (map.insertAll entries).filterKeys p = map.filterKeys p := by
  induction entries generalizing map with
  | nil => rfl
  | cons first rest ih =>
    change ((map.insert first.1 first.2).insertAll rest).filterKeys p = _
    rw [ih _ fun entry member => out entry (List.mem_cons_of_mem first member)]
    exact eq_of_entries (filter_put_of_not first.2 map.entries (out first List.mem_cons_self))

end Filters

/-! ## Lists as values -/

section Lists

variable {β : Type}

/-- Lengthening the list of one key adds to the lists together. -/
theorem flatten_put_append (key : κ) (more : List β) (entries : List (κ × List β)) :
    List.Perm
      ((put key ((entries.lookup key).getD [] ++ more) entries).map Prod.snd).flatten
      ((entries.map Prod.snd).flatten ++ more) := by
  induction entries with
  | nil =>
    rw [List.lookup_nil, Option.getD_none, List.nil_append, put, List.map_singleton,
      List.flatten_singleton]
    exact List.Perm.refl more
  | cons entry rest ih =>
    obtain ⟨other, old⟩ := entry
    by_cases same : other = key
    · rw [same, List.lookup_cons, beq_self_eq_true, put, if_pos rfl]
      change List.Perm (old ++ more ++ (rest.map Prod.snd).flatten)
        (old ++ (rest.map Prod.snd).flatten ++ more)
      rw [List.append_assoc, List.append_assoc]
      exact List.perm_append_comm.append_left old
    · rw [List.lookup_cons, beq_false_of_ne (Ne.symm same), put, if_neg same]
      change List.Perm
        (old ++ ((put key ((rest.lookup key).getD [] ++ more) rest).map Prod.snd).flatten)
        (old ++ (rest.map Prod.snd).flatten ++ more)
      rw [List.append_assoc]
      exact ih.append_left old

theorem flatten_values_insert_append (map : Keyed κ (List β)) (key : κ) (more : List β) :
    List.Perm (map.insert key ((map.get? key).getD [] ++ more)).values.flatten
      (map.values.flatten ++ more) :=
  flatten_put_append key more map.entries

end Lists

end Keyed
end ApiServices
