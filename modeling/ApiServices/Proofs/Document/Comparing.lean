import ApiServices.Document.Value

namespace ApiServices
namespace Value

/-!
# Comparing values

Values are compared part by part, so that what a document says can be computed and
not only reasoned about.  A list of values and a list of entries are compared by
functions of their own, since a value contains both.
-/

mutual

/-- Whether two values are the same. -/
def same : Value -> Value -> Bool
  | .null, .null => true
  | .bool a, .bool b => a == b
  | .unsigned a, .unsigned b => a == b
  | .signed a, .signed b => a == b
  | .float a, .float b => a == b
  | .text a, .text b => a == b
  | .list a, .list b => sameItems a b
  | .map a, .map b => sameEntries a b
  | _, _ => false

def sameItems : List Value -> List Value -> Bool
  | [], [] => true
  | a :: as, b :: bs => same a b && sameItems as bs
  | _, _ => false

def sameEntries : List (Value × Value) -> List (Value × Value) -> Bool
  | [], [] => true
  | (key, a) :: as, (other, b) :: bs => same key other && same a b && sameEntries as bs
  | _, _ => false

end

mutual

theorem eq_of_same : forall {a b : Value}, same a b = true -> a = b := by
  intro a b equal
  cases a <;> cases b <;> simp only [same, Bool.false_eq_true] at equal
  case null.null => rfl
  case list.list items others => rw [eq_of_sameItems equal]
  case map.map entries others => rw [eq_of_sameEntries equal]
  all_goals rw [beq_iff_eq.mp equal]

theorem eq_of_sameItems : forall {as bs : List Value}, sameItems as bs = true -> as = bs
  | [], [], _ => rfl
  | a :: as, b :: bs, equal => by
    obtain ⟨first, rest⟩ := Bool.and_eq_true_iff.mp equal
    rw [eq_of_same first, eq_of_sameItems rest]

theorem eq_of_sameEntries : forall {as bs : List (Value × Value)}, sameEntries as bs = true -> as = bs
  | [], [], _ => rfl
  | (key, a) :: as, (other, b) :: bs, equal => by
    obtain ⟨first, rest⟩ := Bool.and_eq_true_iff.mp equal
    obtain ⟨keys, values⟩ := Bool.and_eq_true_iff.mp first
    rw [eq_of_same keys, eq_of_same values, eq_of_sameEntries rest]

end

mutual

theorem same_self : forall a : Value, same a a = true
  | .null => rfl
  | .bool b => beq_self_eq_true b
  | .unsigned n => beq_self_eq_true n
  | .signed n => beq_self_eq_true n
  | .float x => beq_self_eq_true x
  | .text t => beq_self_eq_true t
  | .list items => sameItems_self items
  | .map entries => sameEntries_self entries

theorem sameItems_self : forall items : List Value, sameItems items items = true
  | [] => rfl
  | a :: rest => Bool.and_eq_true_iff.mpr ⟨same_self a, sameItems_self rest⟩

theorem sameEntries_self : forall entries : List (Value × Value), sameEntries entries entries = true
  | [] => rfl
  | (key, a) :: rest => by
    rw [sameEntries, same_self key, same_self a, sameEntries_self rest]
    rfl

end

instance : DecidableEq Value := fun a b =>
  decidable_of_iff (same a b = true) ⟨eq_of_same, fun equal => equal ▸ same_self a⟩

end Value
end ApiServices
