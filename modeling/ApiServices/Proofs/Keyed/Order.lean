import ApiServices.Proofs.Keyed.Insertion

namespace ApiServices

/-!
# The order of ordered maps

Many insertions after each other come to something simple.  Every key stands
where it is met first, behind the keys of the map, and has the value that it is
given last.  The two are found in the inserted entries from opposite ends, so
they are kept apart here: one statement is about keys, the other about values.
-/

namespace Keyed

/-! ## First occurrences -/

section Occurrences

variable {κ : Type} [DecidableEq κ]

theorem eraseDups_of_nodup {keys : List κ} (distinct : keys.Nodup) : keys.eraseDups = keys := by
  induction keys with
  | nil => rfl
  | cons key rest ih =>
    obtain ⟨fresh, distinct⟩ := List.nodup_cons.mp distinct
    have others : rest.filter (fun other => !other == key) = rest := by
      apply List.filter_eq_self.mpr
      intro other member
      simpa using fun same : other = key => fresh (same ▸ member)
    rw [List.eraseDups_cons, others, ih distinct]

theorem removeAll_eq_filter (keys others : List κ) :
    keys.removeAll others = keys.filter fun key => key ∉ others := by
  unfold List.removeAll
  apply List.filter_congr
  intro key _
  rw [List.elem_eq_contains, List.contains_eq_mem, decide_not]

theorem eraseDups_append_singleton {keys : List κ} (distinct : keys.Nodup) (key : κ) :
    (keys ++ [key]).eraseDups = if key ∈ keys then keys else keys ++ [key] := by
  rw [List.eraseDups_append, eraseDups_of_nodup distinct, removeAll_eq_filter]
  by_cases known : key ∈ keys <;> simp [known, List.eraseDups_cons]

/-- Repetitions may be dropped from the front before they are dropped from all. -/
theorem eraseDups_eraseDups_append {front : List κ} (distinct : front.eraseDups.Nodup)
    (back : List κ) : (front.eraseDups ++ back).eraseDups = (front ++ back).eraseDups := by
  rw [List.eraseDups_append, List.eraseDups_append, eraseDups_of_nodup distinct,
    removeAll_eq_filter, removeAll_eq_filter]
  simp only [List.mem_eraseDups]

end Occurrences

/-! ## Keys -/

theorem nodup_keys {κ α : Type} (map : Keyed κ α) : map.keys.Nodup :=
  map.distinct

theorem keys_filterKeys {κ α : Type} (p : κ -> Bool) (map : Keyed κ α) :
    (map.filterKeys p).keys = map.keys.filter p := by
  unfold keys filterKeys
  rw [List.filter_map]
  rfl

theorem keys_mapValues {κ α β : Type} (f : α -> β) (map : Keyed κ α) :
    (map.mapValues f).keys = map.keys := by
  unfold keys mapValues
  rw [List.map_map]
  rfl

variable {κ α : Type} [DecidableEq κ]

/-- The keys of entries, each where it occurs first. -/
def firstKeys (entries : List (κ × α)) : List κ :=
  (entries.map Prod.fst).eraseDups

/-- The value that entries give a key last. -/
def lastValue? (entries : List (κ × α)) (key : κ) : Option α :=
  entries.reverse.lookup key

theorem mem_firstKeys {entries : List (κ × α)} {key : κ} :
    key ∈ firstKeys entries ↔ key ∈ entries.map Prod.fst :=
  List.mem_eraseDups

theorem keys_insert_eq (map : Keyed κ α) (key : κ) (value : α) :
    (map.insert key value).keys = (map.keys ++ [key]).eraseDups := by
  rw [keys_insert, eraseDups_append_singleton map.nodup_keys]

/-- After insertions each key stands where it is met first. -/
theorem keys_insertAll (map : Keyed κ α) (entries : List (κ × α)) :
    (map.insertAll entries).keys = (map.keys ++ entries.map Prod.fst).eraseDups := by
  induction entries generalizing map with
  | nil =>
    rw [List.map_nil, List.append_nil, eraseDups_of_nodup map.nodup_keys]
    rfl
  | cons entry rest ih =>
    have grown := keys_insert_eq map entry.1 entry.2
    change ((map.insert entry.1 entry.2).insertAll rest).keys = _
    rw [ih, grown, eraseDups_eraseDups_append (grown ▸ nodup_keys _), List.append_assoc]
    rfl

theorem keys_ofList (entries : List (κ × α)) : (ofList entries).keys = firstKeys entries :=
  keys_insertAll empty entries

/-- Inserted keys that are all new follow those of the map. -/
theorem keys_insertAll_of_fresh {map : Keyed κ α} {entries : List (κ × α)}
    (fresh : ∀ entry ∈ entries, entry.1 ∉ map.keys) :
    (map.insertAll entries).keys = map.keys ++ firstKeys entries := by
  have apart : (entries.map Prod.fst).removeAll map.keys = entries.map Prod.fst := by
    rw [removeAll_eq_filter]
    apply List.filter_eq_self.mpr
    intro key member
    obtain ⟨entry, inside, same⟩ := List.mem_map.mp member
    exact decide_eq_true (same ▸ fresh entry inside)
  rw [keys_insertAll, List.eraseDups_append, apart, eraseDups_of_nodup map.nodup_keys, firstKeys]

/-! ## Values -/

/-- After insertions each key has the value that it is given last, or the value
that it had. -/
theorem get?_insertAll (map : Keyed κ α) (entries : List (κ × α)) (key : κ) :
    (map.insertAll entries).get? key = (lastValue? entries key).or (map.get? key) := by
  induction entries generalizing map with
  | nil => rfl
  | cons entry rest ih =>
    change ((map.insert entry.1 entry.2).insertAll rest).get? key = _
    rw [ih, get?_insert, lastValue?, lastValue?, List.reverse_cons, List.lookup_append,
      Option.or_assoc, List.lookup_cons]
    by_cases here : key = entry.1
    · simp [here]
    · simp [here, beq_false_of_ne here]

theorem get?_ofList (entries : List (κ × α)) (key : κ) :
    (ofList entries).get? key = lastValue? entries key := by
  rw [ofList, get?_insertAll, get?_empty, Option.or_none]

theorem lookup_filter_fst (p : κ -> Bool) (entries : List (κ × α)) (key : κ) :
    (entries.filter fun entry => p entry.1).lookup key =
      if p key then entries.lookup key else none := by
  induction entries with
  | nil => simp
  | cons entry rest ih =>
    obtain ⟨other, value⟩ := entry
    rw [List.filter_cons]
    by_cases here : key = other
    · subst here
      cases kept : p key <;> simp [kept, ih]
    · cases kept : p other <;> simp [List.lookup_cons, beq_false_of_ne here, ih]

theorem isSome_lastValue? {entries : List (κ × α)} {key : κ} :
    (lastValue? entries key).isSome ↔ key ∈ entries.map Prod.fst := by
  rw [lastValue?, List.lookup_isSome_iff, List.mem_map]
  constructor
  · rintro ⟨entry, inside, same⟩
    exact ⟨entry, List.mem_reverse.mp inside, (beq_iff_eq.mp same).symm⟩
  · rintro ⟨entry, inside, same⟩
    exact ⟨entry, List.mem_reverse.mpr inside, beq_iff_eq.mpr same.symm⟩

/-- The last value of a key is that of an entry behind which the key does not
occur. -/
theorem exists_of_lastValue? {entries : List (κ × α)} {key : κ} {value : α}
    (found : lastValue? entries key = some value) :
    Exists fun before => Exists fun later =>
      entries = before ++ (key, value) :: later ∧ key ∉ later.map Prod.fst := by
  obtain ⟨behind, ahead, split, last⟩ := List.lookup_eq_some_iff.mp found
  refine ⟨ahead.reverse, behind.reverse, ?_, ?_⟩
  · rw [← List.reverse_reverse entries, split, List.reverse_append, List.reverse_cons,
      List.append_assoc]
    rfl
  · intro member
    obtain ⟨entry, inside, same⟩ := List.mem_map.mp member
    exact bne_iff_ne.mp (last entry (List.mem_reverse.mp inside)) same.symm

theorem get?_filterKeys (p : κ -> Bool) (map : Keyed κ α) (key : κ) :
    (map.filterKeys p).get? key = if p key then map.get? key else none :=
  lookup_filter_fst p map.entries key

theorem lookup_map_snd {β : Type} (f : α -> β) (entries : List (κ × α)) (key : κ) :
    (entries.map fun entry => (entry.1, f entry.2)).lookup key = (entries.lookup key).map f := by
  induction entries with
  | nil => rfl
  | cons entry rest ih =>
    rw [List.map_cons, List.lookup_cons, List.lookup_cons, ih]
    split <;> rfl

theorem firstKeys_map_snd {β : Type} (f : α -> β) (entries : List (κ × α)) :
    firstKeys (entries.map fun entry => (entry.1, f entry.2)) = firstKeys entries := by
  rw [firstKeys, List.map_map]
  rfl

theorem lastValue?_map_snd {β : Type} (f : α -> β) (entries : List (κ × α)) (key : κ) :
    lastValue? (entries.map fun entry => (entry.1, f entry.2)) key =
      (lastValue? entries key).map f := by
  rw [lastValue?, ← List.map_reverse, lookup_map_snd]
  rfl

theorem get?_mapValues {β : Type} (f : α -> β) (map : Keyed κ α) (key : κ) :
    (map.mapValues f).get? key = (map.get? key).map f :=
  lookup_map_snd f map.entries key

theorem mapValues_ofList {β : Type} (f : α -> β) (entries : List (κ × α)) :
    (ofList entries).mapValues f = ofList (entries.map fun entry => (entry.1, f entry.2)) := by
  apply eq_of_get?
  · rw [keys_mapValues, keys_ofList, keys_ofList, firstKeys_map_snd]
  · intro key
    rw [get?_mapValues, get?_ofList, get?_ofList, lastValue?_map_snd]

/-- Where no key is repeated, every entry is the one that is found under its key. -/
theorem lookup_of_mem {κ α : Type} [BEq κ] [LawfulBEq κ] {entries : List (κ × α)} {key : κ} {value : α}
    (distinct : (entries.map Prod.fst).Nodup) (member : (key, value) ∈ entries) :
    entries.lookup key = some value := by
  obtain ⟨before, after, split⟩ := List.append_of_mem member
  rw [split, List.map_append, List.nodup_append] at distinct
  refine List.lookup_eq_some_iff.mpr ⟨before, after, split, ?_⟩
  intro earlier inside
  apply bne_iff_ne.mpr
  exact fun same => distinct.2.2 earlier.1 (List.mem_map_of_mem inside) key List.mem_cons_self
    same.symm

theorem get?_of_mem_entries {map : Keyed κ α} {entry : κ × α} (member : entry ∈ map.entries) :
    map.get? entry.1 = some entry.2 :=
  lookup_of_mem map.distinct member

end Keyed
end ApiServices
