import ApiServices.Proofs.Keyed.Order
import Mathlib.Data.List.Induction
import Mathlib.Data.List.Nodup

namespace ApiServices
namespace Keyed

/-!
# What repeated keys cost

An insertion under a key that is there takes the place of what it had.  So the
entries of a map come to no more than all that was inserted, in whatever way
they are weighed, and to less as soon as a key was inserted twice and what it
had at first weighs anything.
-/

section Weights

variable {κ α : Type}

/-- What the values of entries weigh together. -/
def total (weight : α -> Nat) : List (κ × α) -> Nat
  | [] => 0
  | entry :: rest => weight entry.2 + total weight rest

/-- The weight of a value that may be missing. -/
def weightOf (weight : α -> Nat) : Option α -> Nat
  | none => 0
  | some value => weight value

theorem total_cons (weight : α -> Nat) (entry : κ × α) (rest : List (κ × α)) :
    total weight (entry :: rest) = weight entry.2 + total weight rest := rfl

theorem total_concat (weight : α -> Nat) (entries : List (κ × α)) (entry : κ × α) :
    total weight (entries ++ [entry]) = total weight entries + weight entry.2 := by
  induction entries with
  | nil => exact Nat.add_comm (weight entry.2) 0
  | cons first rest ih => rw [List.cons_append, total_cons, total_cons, ih, Nat.add_assoc]

theorem total_one (entries : List (κ × α)) : total (fun _ => 1) entries = entries.length := by
  induction entries with
  | nil => rfl
  | cons entry rest ih => rw [total_cons, ih, List.length_cons, Nat.add_comm]

theorem total_length (entries : List (κ × List α)) :
    total List.length entries = (entries.map Prod.snd).flatten.length := by
  induction entries with
  | nil => rfl
  | cons entry rest ih =>
    rw [total_cons, ih, List.map_cons, List.flatten_cons, List.length_append]

theorem total_map_fst {ι : Type} (rename : κ -> ι) (weight : α -> Nat) (entries : List (κ × α)) :
    total weight (entries.map fun entry => (rename entry.1, entry.2)) = total weight entries := by
  induction entries with
  | nil => rfl
  | cons entry rest ih => rw [List.map_cons, total_cons, total_cons, ih]

end Weights

variable {κ α : Type} [DecidableEq κ]

/-- What a key had weighs nothing any more, and its new value does. -/
theorem total_put (weight : α -> Nat) (key : κ) (value : α) (entries : List (κ × α)) :
    total weight (put key value entries) + weightOf weight (entries.lookup key) =
      total weight entries + weight value := by
  induction entries with
  | nil => exact (Nat.zero_add (weight value)).symm
  | cons entry rest ih =>
    obtain ⟨other, old⟩ := entry
    by_cases here : other = key
    · rw [put, if_pos here, ← here, List.lookup_cons_self, total_cons, total_cons]
      simp only [weightOf]
      omega
    · rw [put, if_neg here, List.lookup_cons, beq_false_of_ne (Ne.symm here), total_cons,
        total_cons]
      dsimp only
      omega

theorem ofList_concat (entries : List (κ × α)) (entry : κ × α) :
    ofList (entries ++ [entry]) = (ofList entries).insert entry.1 entry.2 := by
  unfold ofList insertAll
  rw [List.foldl_append]
  rfl

theorem total_ofList_concat (weight : α -> Nat) (entries : List (κ × α)) (entry : κ × α) :
    total weight (ofList (entries ++ [entry])).entries +
        weightOf weight (lastValue? entries entry.1) =
      total weight (ofList entries).entries + weight entry.2 := by
  rw [ofList_concat, ← get?_ofList]
  exact total_put weight entry.1 entry.2 (ofList entries).entries

theorem total_ofList_le (weight : α -> Nat) (entries : List (κ × α)) :
    total weight (ofList entries).entries ≤ total weight entries := by
  induction entries using List.reverseRecOn with
  | nil => exact Nat.le_refl 0
  | append_singleton entries entry ih =>
    have step := total_ofList_concat weight entries entry
    rw [total_concat]
    omega

theorem weightOf_lastValue?_eq_zero_iff {weight : α -> Nat} {entries : List (κ × α)}
    (positive : ∀ entry ∈ entries, 0 < weight entry.2) (key : κ) :
    weightOf weight (lastValue? entries key) = 0 ↔ key ∉ entries.map Prod.fst := by
  rw [← isSome_lastValue?]
  cases found : lastValue? entries key with
  | none => simp [weightOf]
  | some value =>
    have weighs := positive (key, value) (List.mem_reverse.mp (mem_of_lookup found))
    simp only [weightOf, Option.isSome_some, not_true, iff_false]
    exact Nat.ne_of_gt weighs

/-- If all that was inserted weighs something, then nothing is lost just when no
key was inserted twice. -/
theorem total_ofList_eq_iff {weight : α -> Nat} {entries : List (κ × α)}
    (positive : ∀ entry ∈ entries, 0 < weight entry.2) :
    total weight (ofList entries).entries = total weight entries ↔
      (entries.map Prod.fst).Nodup := by
  induction entries using List.reverseRecOn with
  | nil => exact iff_of_true rfl List.nodup_nil
  | append_singleton entries entry ih =>
    have earlier : ∀ other ∈ entries, 0 < weight other.2 :=
      fun other member => positive other (List.mem_append_left [entry] member)
    have step := total_ofList_concat weight entries entry
    have bound := total_ofList_le weight entries
    have fresh := weightOf_lastValue?_eq_zero_iff earlier entry.1
    rw [total_concat, List.map_append, List.map_singleton, List.nodup_append_comm,
      List.singleton_append, List.nodup_cons, ← ih earlier, ← fresh]
    omega

end Keyed
end ApiServices
