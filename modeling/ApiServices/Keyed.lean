namespace ApiServices

/-!
# Insertion-ordered maps

A map that remembers the order in which its keys first
came in.  Inserting a key that is present replaces its value and keeps its
place; only removing the key and inserting it again moves it to the end.  The
keys are distinct by construction, so the list of entries is the whole map.
-/

/-- Entries with pairwise distinct keys, in the order of their first insertion. -/
structure Keyed (κ α : Type) where
  entries : List (κ × α)
  distinct : (entries.map Prod.fst).Nodup
deriving DecidableEq

namespace Keyed

variable {κ α : Type} [DecidableEq κ]

def keys (map : Keyed κ α) : List κ :=
  map.entries.map Prod.fst

def values (map : Keyed κ α) : List α :=
  map.entries.map Prod.snd

def size (map : Keyed κ α) : Nat :=
  map.entries.length

def isEmpty (map : Keyed κ α) : Bool :=
  map.entries.isEmpty

def get? (map : Keyed κ α) (key : κ) : Option α :=
  map.entries.lookup key

def empty : Keyed κ α :=
  ⟨[], List.nodup_nil⟩

instance : Inhabited (Keyed κ α) := ⟨empty⟩

/-- Replace the value in the place of the key, or add an entry at the end. -/
def put (key : κ) (value : α) : List (κ × α) -> List (κ × α)
  | [] => [(key, value)]
  | (other, old) :: rest =>
    if other = key then (other, value) :: rest else (other, old) :: put key value rest

theorem keys_put (key : κ) (value : α) (entries : List (κ × α)) :
    (put key value entries).map Prod.fst =
      if key ∈ entries.map Prod.fst then entries.map Prod.fst
      else entries.map Prod.fst ++ [key] := by
  induction entries with
  | nil => simp [put]
  | cons entry rest ih =>
    obtain ⟨other, old⟩ := entry
    by_cases same : other = key
    · simp [put, same]
    · have apart : ¬key = other := fun h => same h.symm
      simp only [put, if_neg same, List.map_cons, ih, List.mem_cons, apart, false_or]
      split <;> simp

theorem distinct_put (key : κ) (value : α) (entries : List (κ × α))
    (h : (entries.map Prod.fst).Nodup) : ((put key value entries).map Prod.fst).Nodup := by
  rw [keys_put]
  split
  · exact h
  · next absent =>
    refine List.nodup_append.2 ⟨h, by simp, ?_⟩
    intro a ha b hb same
    rw [List.mem_singleton] at hb
    exact absent (hb ▸ same ▸ ha)

def insert (map : Keyed κ α) (key : κ) (value : α) : Keyed κ α :=
  ⟨put key value map.entries, distinct_put key value map.entries map.distinct⟩

theorem lookup_put (key other : κ) (value : α) (entries : List (κ × α)) :
    (put key value entries).lookup other =
      if other = key then some value else entries.lookup other := by
  induction entries with
  | nil =>
    by_cases same : other = key
    · simp [put, same]
    · simp [put, List.lookup_cons, beq_false_of_ne same, same]
  | cons entry rest ih =>
    obtain ⟨found, old⟩ := entry
    by_cases here : other = found
    · subst here
      by_cases replaced : other = key <;> simp [put, replaced]
    · by_cases replaced : found = key
      · subst replaced
        simp [put, List.lookup_cons, beq_false_of_ne here, here]
      · simp [put, List.lookup_cons, beq_false_of_ne here, replaced, ih]

@[simp] theorem get?_empty (key : κ) : (empty : Keyed κ α).get? key = none := rfl

theorem keys_insert (map : Keyed κ α) (key : κ) (value : α) :
    (map.insert key value).keys =
      if key ∈ map.keys then map.keys else map.keys ++ [key] :=
  keys_put key value map.entries

theorem get?_insert (map : Keyed κ α) (key other : κ) (value : α) :
    (map.insert key value).get? other = if other = key then some value else map.get? other :=
  lookup_put key other value map.entries

/-- Insert entries one after the other. -/
def insertAll (map : Keyed κ α) (entries : List (κ × α)) : Keyed κ α :=
  entries.foldl (fun built entry => built.insert entry.1 entry.2) map

/-- The map that inserting the entries one after the other builds: each key
stands where it first occurs and has the value of its last occurrence. -/
def ofList (entries : List (κ × α)) : Keyed κ α :=
  empty.insertAll entries

/-- The entries whose keys satisfy `p`, in their order. -/
def filterKeys (p : κ -> Bool) (map : Keyed κ α) : Keyed κ α :=
  ⟨map.entries.filter (fun entry => p entry.1),
    map.distinct.sublist (List.filter_sublist.map Prod.fst)⟩

/-- The same keys with other values. -/
def mapValues {β : Type} (f : α -> β) (map : Keyed κ α) : Keyed κ β :=
  ⟨map.entries.map (fun entry => (entry.1, f entry.2)), by
    simpa [List.map_map, Function.comp_def] using map.distinct⟩

/-- Whether two maps have the same entries, in any order. -/
def sameEntries [DecidableEq α] (left right : Keyed κ α) : Bool :=
  left.size == right.size &&
    left.entries.all (fun entry => right.get? entry.1 == some entry.2)

end Keyed
end ApiServices
