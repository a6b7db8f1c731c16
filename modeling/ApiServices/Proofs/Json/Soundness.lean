import ApiServices.Json.Reader
import ApiServices.Proofs.Document.Soundness

namespace ApiServices
namespace Json

/-!
# JSON documents are sound

A string is a text in both readings, and every other scalar but the null is an atom.
There is one null, and it is nothing.  So of a JSON document a little more can be said
than that it is sound.
-/

theorem Numeral.isAtom_of_value? {numeral : Numeral} {value : Value}
    (found : numeral.value? = some value) : value.isAtom = true := by
  unfold value? at found
  dsimp only at found
  split at found
  · rw [← Option.some.inj found]
    unfold wholeValue
    repeat' split
    all_goals rfl
  · obtain ⟨x, _, same⟩ := Option.map_eq_some_iff.mp found
    rw [← same]
    rfl

/-- The scalars of JSON documents: nulls, atoms and strings.  Atoms and strings that
are beyond the format have no value. -/
inductive IsScalar : Scalar -> Prop
  | null : IsScalar ⟨none, some .null, some false, false, none⟩
  | atom {found : Option Value} (atom : forall value, found = some value -> value.isAtom = true) :
    IsScalar ⟨none, found, some true, false, none⟩
  | text (found : Option Text) : IsScalar ⟨found, found.map .text, some true, false, none⟩

theorem IsScalar.definite {readings : Scalar} (scalar : IsScalar readings) : readings.Definite := by
  cases scalar with
  | null =>
    have null : forall value, some Value.null = some value -> value = .null :=
      fun value same => (Option.some.inj same).symm
    have fits : Scalar.Fits ⟨none, some .null, some false, false, none⟩ :=
      ⟨fun value same => Or.inl (null value same), fun value same other => absurd (null value same) other,
        fun _ => rfl⟩
    exact ⟨fits, fun _ => rfl⟩
  | atom atom => exact Scalar.definite_of_present rfl fun value same => Or.inl (atom value same)
  | text found =>
    refine Scalar.definite_of_present rfl fun value same => ?_
    obtain ⟨t, spelled, text⟩ := Option.map_eq_some_iff.mp same
    exact Or.inr ⟨t, text.symm, spelled⟩

theorem every_stringNode (units : List Nat) : (stringNode units).Every IsScalar :=
  .scalar (.text (charsOfUnits? units))

theorem every_bareNode (text : Text) : (bareNode text).1.Every IsScalar := by
  unfold bareNode
  split
  · exact .scalar .null
  · split
    · exact .scalar (.atom fun value same => Option.some.inj same ▸ rfl)
    · split
      · exact .scalar (.atom fun value same => Option.some.inj same ▸ rfl)
      · split
        · exact .scalar (.atom fun value same => Numeral.isAtom_of_value? same)
        · exact .cut

/-! ## Trees -/

open Node

section Fuel

variable {fuel : Nat}

theorem every_nodeOf_succ (items : forall text, EveryItem IsScalar (itemsOf fuel text).1)
    (members : forall text, EveryEntry IsScalar (membersOf fuel text).1) (text : Text) :
    (nodeOf (fuel + 1) text).1.Every IsScalar := by
  rw [nodeOf]
  split
  · split
    · exact .cut
    · exact every_stringNode _
  · split
    · exact .list fun _ impossible => nomatch impossible
    · exact .list (items _)
  · split
    · exact .map (fun _ impossible => nomatch impossible) fun _ impossible => nomatch impossible
    · exact (members _).map false
  · exact every_bareNode _

theorem every_itemsOf_succ (nodes : forall text, (nodeOf fuel text).1.Every IsScalar)
    (items : forall text, EveryItem IsScalar (itemsOf fuel text).1) (text : Text) :
    EveryItem IsScalar (itemsOf (fuel + 1) text).1 := by
  have first := nodes text
  rw [itemsOf]
  split
  · next item read =>
    rw [read] at first
    exact List.forall_mem_singleton.mpr first
  · next item rest read =>
    rw [read] at first
    split
    · exact List.forall_mem_cons.mpr ⟨first, items _⟩
    · exact List.forall_mem_singleton.mpr first
    · exact List.forall_mem_cons.mpr ⟨first, List.forall_mem_singleton.mpr .cut⟩

theorem every_membersOf_succ (nodes : forall text, (nodeOf fuel text).1.Every IsScalar)
    (members : forall text, EveryEntry IsScalar (membersOf fuel text).1) (text : Text) :
    EveryEntry IsScalar (membersOf (fuel + 1) text).1 := by
  rw [membersOf]
  split
  · split
    · exact EveryEntry.cut
    · next units rest _ =>
      have key := every_stringNode units
      dsimp only
      split
      · next after _ =>
        have value := nodes after
        split
        · next node read =>
          rw [read] at value
          exact List.forall_mem_singleton.mpr ⟨key, value⟩
        · next node rest read =>
          rw [read] at value
          split
          · exact List.forall_mem_cons.mpr ⟨⟨key, value⟩, members _⟩
          · exact List.forall_mem_singleton.mpr ⟨key, value⟩
          · exact List.forall_mem_cons.mpr ⟨⟨key, value⟩, EveryEntry.cut⟩
      · exact List.forall_mem_singleton.mpr ⟨key, .cut⟩
  · exact EveryEntry.cut

end Fuel

theorem every_of_fuel (fuel : Nat) :
    (forall text, (nodeOf fuel text).1.Every IsScalar) ∧
      (forall text, EveryItem IsScalar (itemsOf fuel text).1) ∧
      forall text, EveryEntry IsScalar (membersOf fuel text).1 := by
  induction fuel with
  | zero =>
    exact ⟨fun _ => .cut, fun _ => List.forall_mem_singleton.mpr .cut,
      fun _ => EveryEntry.cut⟩
  | succ fuel ih =>
    obtain ⟨nodes, items, members⟩ := ih
    exact ⟨every_nodeOf_succ items members, every_itemsOf_succ nodes items,
      every_membersOf_succ nodes members⟩

theorem every_documentOf (text : Text) : (documentOf text).Every IsScalar where
  root := (every_of_fuel (2 * text.length + 2)).1 text
  anchors _ impossible := nomatch impossible

theorem definite_documentOf (text : Text) : (documentOf text).Every Scalar.Definite :=
  (every_documentOf text).mono fun _ scalar => scalar.definite

end Json
end ApiServices
