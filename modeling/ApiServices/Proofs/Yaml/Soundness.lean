import ApiServices.Proofs.Document.Soundness
import ApiServices.Proofs.Keyed.Insertion
import ApiServices.Yaml.Tree

namespace ApiServices
namespace Yaml

/-!
# YAML documents are sound

A scalar is read by its tag, its style and its spelling, and the value follows the
same rules as whether it is there; only a null is judged by the style for the
latter.  The grammar of nodes makes scalars in one way, so soundness goes through
it as a postcondition of every part, with that of the anchored nodes kept on the
side.
-/

namespace Schema

theorem isAtom_of_integer? {text : Text} {value : Value}
    (found : integer? text = some (some value)) : value.isAtom = true := by
  unfold integer? at found
  split at found
  · split at found
    · exact Option.some.inj (Option.some.inj found) ▸ rfl
    · split at found <;> cases found
  · split at found
    · exact Option.some.inj (Option.some.inj found) ▸ rfl
    · split at found <;> cases found
  · cases found

/-- A plain scalar that is not spelled as a null is a truth value, a number or the
text that it is. -/
theorem of_plain? {text : Text} {value : Value} (found : plain? text = some value)
    (spelled : ¬(text.isEmpty || isNull text) = true) : value.isAtom = true ∨ value = .text text := by
  unfold plain? at found
  rw [if_neg spelled] at found
  split at found
  · exact Or.inl (Option.some.inj found ▸ rfl)
  · next whole =>
      rw [found] at whole
      exact Or.inl (isAtom_of_integer? whole)
  · split at found
    · exact Or.inl (Option.some.inj found ▸ rfl)
    · exact Or.inr (Option.some.inj found).symm

theorem plain?_of_null {text : Text} (spelled : (text.isEmpty || isNull text) = true) :
    plain? text = some .null :=
  if_pos spelled

theorem present?_of_style {style : ScalarStyle} (written : style ≠ .plain) (tagged : Option Text)
    (text : Text) : present? tagged style text = some true :=
  if_pos written

theorem present?_of_tag {found : Text} (other : found ≠ tag "null") (style : ScalarStyle)
    (text : Text) : present? (some found) style text = some true := by
  by_cases written : style = .plain
  · rw [written]
    exact if_neg other
  · exact present?_of_style written _ text

/-- Whatever its tag and its style, a scalar is a null, a truth value, a number or
the text that it is.  A null says nothing where it is written plainly, and something
otherwise. -/
theorem of_value? {tagged : Option Text} {style : ScalarStyle} {text : Text} {value : Value}
    (found : value? tagged style text = some value) :
    (value = .null ∧ present? tagged style text = some (decide (style ≠ .plain))) ∨
      value.isAtom = true ∨ value = .text text := by
  unfold value? at found
  split at found
  · split at found
    · next written =>
      by_cases spelled : (text.isEmpty || isNull text) = true
      · rw [plain?_of_null spelled] at found
        rw [written]
        exact Or.inl ⟨(Option.some.inj found).symm, congrArg (fun b => some !b) spelled⟩
      · exact Or.inr (of_plain? found spelled)
    · exact Or.inr (Or.inr (Option.some.inj found).symm)
  · split at found
    · cases found
    · split at found
      · obtain ⟨b, _, same⟩ := Option.map_eq_some_iff.mp found
        exact Or.inr (Or.inl (same ▸ rfl))
      · split at found
        · exact Or.inr (Or.inl (isAtom_of_integer? (Option.join_eq_some_iff.mp found)))
        · split at found
          · obtain ⟨x, _, same⟩ := Option.map_eq_some_iff.mp found
            exact Or.inr (Or.inl (same ▸ rfl))
          · split at found
            · next null =>
              split at found
              · next spelled =>
                refine Or.inl ⟨(Option.some.inj found).symm, ?_⟩
                by_cases written : style = .plain
                · rw [null, written]
                  exact if_pos spelled
                · rw [decide_eq_true written]
                  exact present?_of_style written _ text
              · cases found
            · exact Or.inr (Or.inr (Option.some.inj found).symm)

theorem value?_tagged_null (style : ScalarStyle) (text : Text) :
    value? (some (tag "null")) style text = if isNull text then some .null else none := by
  unfold value?
  dsimp only
  rw [if_neg (by decide), if_neg (by decide), if_neg (by decide), if_neg (by decide), if_pos rfl]

/-- A scalar with a value other than null says something. -/
theorem present?_of_ne_null {tagged : Option Text} {style : ScalarStyle} {text : Text} {value : Value}
    (there : value? tagged style text = some value) (other : value ≠ .null) :
    present? tagged style text = some true := by
  cases tagged with
  | none =>
    by_cases written : style = .plain
    · rw [written] at there ⊢
      have spelled : ¬(text.isEmpty || isNull text) = true := by
        intro null
        exact other (Option.some.inj (there.symm.trans (plain?_of_null null)))
      exact congrArg (fun b => some !b) (Bool.eq_false_iff.mpr spelled)
    · exact present?_of_style written none text
  | some found =>
    refine present?_of_tag (fun same => ?_) style text
    rw [same, value?_tagged_null] at there
    split at there
    · exact other (Option.some.inj there).symm
    · cases there

theorem fits_readings (tagged : Option Text) (style : ScalarStyle) (text : Text) :
    (readings tagged style text).Fits where
  kind value there := by
    rcases of_value? there with ⟨null, _⟩ | atom | whole
    · exact Or.inl null
    · exact Or.inr (Or.inl atom)
    · exact Or.inr (Or.inr ⟨text, whole, rfl⟩)
  present value there other := present?_of_ne_null there other
  null there := by
    rcases of_value? there with ⟨_, known⟩ | impossible | impossible
    · exact Option.isSome_iff_exists.mpr ⟨_, known⟩
    · cases impossible
    · cases impossible

end Schema

namespace Build

variable {α β : Type}

/-! ## Postconditions -/

/-- The nodes that have been anchored so far are sound. -/
def Kept (builder : Builder) : Prop :=
  ∀ held ∈ builder.anchored, held.2.Sound

/-- A part of the grammar gives only what meets a condition, and anchors only
sound nodes. -/
def Gives (build : Build α) (post : α -> Prop) : Prop :=
  forall builder, Kept builder ->
    post (StateT.run build builder).1 ∧ Kept (StateT.run build builder).2

theorem gives_pure {post : α -> Prop} {a : α} (met : post a) : Gives (pure a) post :=
  fun _ kept => ⟨met, kept⟩

theorem Gives.bind {build : Build α} {next : α -> Build β} {middle : α -> Prop} {post : β -> Prop}
    (first : Gives build middle) (later : ∀ a, middle a -> Gives (next a) post) :
    Gives (build >>= next) post := by
  intro builder kept
  obtain ⟨met, kept⟩ := first builder kept
  exact later _ met _ kept

theorem gives_get : Gives get fun _ => True :=
  fun _ kept => ⟨trivial, kept⟩

/-- A change that leaves the anchored nodes alone. -/
theorem gives_modify {change : Builder -> Builder}
    (same : forall builder, (change builder).anchored = builder.anchored) :
    Gives (modify change) fun _ => True := by
  intro builder kept
  refine ⟨trivial, ?_⟩
  change ∀ held ∈ (change builder).anchored, held.2.Sound
  rw [same]
  exact kept

theorem gives_peek : Gives peek fun _ => True :=
  fun _ kept => ⟨trivial, kept⟩

theorem gives_advance : Gives advance fun _ => True :=
  gives_modify fun _ => rfl

theorem gives_cut {post : α -> Prop} {result : α} (met : post result) : Gives (cut result) post :=
  (gives_modify fun _ => rfl).bind fun _ _ => gives_pure met

theorem gives_openAnchor (name : Option Text) : Gives (openAnchor name) fun _ => True := by
  cases name <;> exact fun _ kept => ⟨trivial, kept⟩

theorem gives_closeAnchor (count : Option Nat) {node : Node} (sound : node.Sound) :
    Gives (closeAnchor count node) Node.Sound := by
  cases count with
  | none => exact gives_pure sound
  | some count => exact fun _ kept => ⟨sound, List.forall_mem_cons.mpr ⟨sound, kept⟩⟩

theorem gives_takeAnchor : Gives takeAnchor fun _ => True := by
  refine gives_peek.bind fun token _ => ?_
  split
  · exact gives_advance.bind fun _ _ => gives_pure trivial
  · exact gives_pure trivial

theorem gives_takeTag : Gives takeTag fun _ => True := by
  refine gives_peek.bind fun token _ => ?_
  split
  · exact gives_advance.bind fun _ _ => gives_pure trivial
  · exact gives_pure trivial

theorem gives_properties : Gives properties fun _ => True := by
  refine gives_takeAnchor.bind fun anchor _ => ?_
  split
  · exact gives_takeTag.bind fun _ _ => gives_pure trivial
  · refine gives_takeTag.bind fun tag _ => ?_
    split
    · exact gives_takeAnchor.bind fun _ _ => gives_pure trivial
    · exact gives_pure trivial

theorem sound_nodeOfScalar (tagged : Option Text) (style : ScalarStyle) (text : Text) :
    (nodeOfScalar tagged style text).Sound :=
  .scalar (Schema.fits_readings tagged style text)

theorem sound_emptyNode : emptyNode.Sound :=
  sound_nodeOfScalar none .plain []

theorem gives_orEmpty (isEmpty : Token -> Bool) {read : Build Node} (sound : Gives read Node.Sound) :
    Gives (orEmpty isEmpty read) Node.Sound := by
  refine gives_peek.bind fun token _ => ?_
  cases token with
  | none => exact gives_cut .cut
  | some token =>
    dsimp only
    split
    · exact gives_pure sound_emptyNode
    · exact sound

theorem gives_valuePart (isEmpty : Token -> Bool) {read : Build Node}
    (sound : Gives read Node.Sound) : Gives (valuePart isEmpty read) Node.Sound := by
  refine gives_peek.bind fun token _ => ?_
  split
  · exact gives_cut .cut
  · exact gives_advance.bind fun _ _ => gives_orEmpty isEmpty sound
  · exact gives_pure sound_emptyNode

/-! ## The grammar -/

open Node

/-- What all parts of the grammar give when the work is bounded. -/
structure SoundUpTo (fuel : Nat) : Prop where
  node : forall block loose, Gives (node fuel block loose) Node.Sound
  content : forall block loose anchor tag, Gives (content fuel block loose anchor tag) Node.Sound
  blockItems : Gives (blockItems fuel) SoundItems
  looseItems : Gives (looseItems fuel) SoundItems
  blockEntries : Gives (blockEntries fuel) SoundEntries
  flowItems : forall first, Gives (flowItems fuel first) SoundItems
  flowPair : Gives (flowPair fuel) Node.Sound
  flowEntries : forall first, Gives (flowEntries fuel first) SoundEntries

namespace SoundUpTo

variable {fuel : Nat}

theorem node_succ (sound : SoundUpTo fuel) (block loose : Bool) :
    Gives (Build.node (fuel + 1) block loose) Node.Sound := by
  rw [Build.node]
  refine gives_peek.bind fun token _ => ?_
  split
  · refine gives_get.bind fun builder _ => ?_
    split
    · exact gives_cut .cut
    · exact gives_advance.bind fun _ _ => gives_pure (.alias _)
  · refine gives_properties.bind fun found _ => ?_
    refine gives_get.bind fun builder _ => ?_
    split
    · exact gives_cut .cut
    · exact sound.content _ _ _ _

theorem content_succ (sound : SoundUpTo fuel) (block loose : Bool) (anchor tag : Option Text) :
    Gives (Build.content (fuel + 1) block loose anchor tag) Node.Sound := by
  rw [Build.content]
  refine gives_peek.bind fun token _ => ?_
  split
  · refine (gives_openAnchor anchor).bind fun count _ => ?_
    exact gives_advance.bind fun _ _ => gives_closeAnchor count (sound_nodeOfScalar _ _ _)
  · refine (gives_openAnchor anchor).bind fun count _ => ?_
    refine gives_advance.bind fun _ _ => ?_
    exact (sound.flowItems true).bind fun items inner => gives_closeAnchor count (.list inner)
  · refine (gives_openAnchor anchor).bind fun count _ => ?_
    refine gives_advance.bind fun _ _ => ?_
    exact (sound.flowEntries true).bind fun entries inner => gives_closeAnchor count (inner.map _)
  · split
    · refine (gives_openAnchor anchor).bind fun count _ => ?_
      exact sound.looseItems.bind fun items inner => gives_closeAnchor count (.list inner)
    · split
      · refine (gives_openAnchor anchor).bind fun count _ => ?_
        refine gives_advance.bind fun _ _ => ?_
        exact sound.blockItems.bind fun items inner => gives_closeAnchor count (.list inner)
      · split
        · refine (gives_openAnchor anchor).bind fun count _ => ?_
          refine gives_advance.bind fun _ _ => ?_
          exact sound.blockEntries.bind fun entries inner => gives_closeAnchor count (inner.map _)
        · split
          · refine (gives_openAnchor anchor).bind fun count _ => ?_
            exact gives_closeAnchor count (sound_nodeOfScalar _ _ _)
          · exact gives_cut .cut

theorem gives_item {rest : Build (List Node)} {read : Build Node} (first : Gives read Node.Sound)
    (later : Gives rest SoundItems) : Gives (do return (← read) :: (← rest)) SoundItems :=
  first.bind fun _ item => later.bind fun _ items =>
    gives_pure (List.forall_mem_cons.mpr ⟨item, items⟩)

theorem gives_entry {rest : Build (List (Node × Node))} {readKey readValue : Build Node}
    (keySound : Gives readKey Node.Sound) (valueSound : Gives readValue Node.Sound)
    (later : Gives rest SoundEntries) :
    Gives (do return (← readKey, ← readValue) :: (← rest)) SoundEntries :=
  keySound.bind fun _ key => valueSound.bind fun _ value => later.bind fun _ entries =>
    gives_pure (List.forall_mem_cons.mpr ⟨⟨key, value⟩, entries⟩)

theorem soundItems_nil : SoundItems [] :=
  fun _ impossible => nomatch impossible

theorem soundEntries_nil : SoundEntries [] :=
  fun _ impossible => nomatch impossible

theorem soundItems_cut : SoundItems [.cut] :=
  List.forall_mem_singleton.mpr .cut

theorem blockItems_succ (sound : SoundUpTo fuel) : Gives (Build.blockItems (fuel + 1)) SoundItems := by
  rw [Build.blockItems]
  refine gives_peek.bind fun token _ => ?_
  split
  · refine gives_advance.bind fun _ _ => ?_
    exact gives_item (gives_orEmpty _ (sound.node _ _)) sound.blockItems
  · exact gives_advance.bind fun _ _ => gives_pure soundItems_nil
  · exact gives_cut soundItems_cut

theorem looseItems_succ (sound : SoundUpTo fuel) : Gives (Build.looseItems (fuel + 1)) SoundItems := by
  rw [Build.looseItems]
  refine gives_peek.bind fun token _ => ?_
  split
  · exact gives_cut soundItems_cut
  · refine gives_advance.bind fun _ _ => ?_
    exact gives_item (gives_orEmpty _ (sound.node _ _)) sound.looseItems
  · exact gives_pure soundItems_nil

theorem blockEntries_succ (sound : SoundUpTo fuel) :
    Gives (Build.blockEntries (fuel + 1)) SoundEntries := by
  rw [Build.blockEntries]
  refine gives_peek.bind fun token _ => ?_
  split
  · refine gives_advance.bind fun _ _ => ?_
    exact gives_entry (gives_orEmpty _ (sound.node _ _)) (gives_valuePart _ (sound.node _ _))
      sound.blockEntries
  · exact gives_advance.bind fun _ _ => gives_pure soundEntries_nil
  · exact gives_cut EveryEntry.cut

theorem flowItems_succ (sound : SoundUpTo fuel) (first : Bool) :
    Gives (Build.flowItems (fuel + 1) first) SoundItems := by
  rw [Build.flowItems]
  refine gives_peek.bind fun token _ => ?_
  split
  · exact gives_advance.bind fun _ _ => gives_pure soundItems_nil
  · split
    · exact gives_cut soundItems_cut
    · extract_lets rest
      have later : forall u, Gives (rest u) SoundItems := by
        intro _
        refine gives_peek.bind fun token _ => ?_
        split
        · exact gives_cut soundItems_cut
        · exact gives_advance.bind fun _ _ => gives_pure soundItems_nil
        · refine gives_advance.bind fun _ _ => ?_
          exact gives_item sound.flowPair (sound.flowItems false)
        · exact gives_item (sound.node _ _) (sound.flowItems false)
      split
      · exact gives_advance.bind fun _ _ => later ()
      · exact later ()

theorem flowPair_succ (sound : SoundUpTo fuel) : Gives (Build.flowPair (fuel + 1)) Node.Sound := by
  rw [Build.flowPair]
  refine gives_peek.bind fun token _ => ?_
  extract_lets rest
  have later : forall key, key.Sound -> Gives (rest key) Node.Sound := by
    intro key keySound
    refine (gives_valuePart _ (sound.node _ _)).bind fun value valueSound => ?_
    refine gives_peek.bind fun token _ => ?_
    have pair : SoundEntries [(key, value)] := List.forall_mem_singleton.mpr ⟨keySound, valueSound⟩
    split
    · exact gives_pure
        (EveryEntry.map (List.forall_mem_cons.mpr ⟨⟨keySound, valueSound⟩, EveryEntry.cut⟩) false)
    · exact gives_pure (pair.map false)
  split
  · exact (gives_cut .cut).bind later
  · split
    · refine gives_advance.bind fun _ _ => ?_
      exact (gives_pure sound_emptyNode).bind later
    · exact (sound.node _ _).bind later

theorem flowEntries_succ (sound : SoundUpTo fuel) (first : Bool) :
    Gives (Build.flowEntries (fuel + 1) first) SoundEntries := by
  rw [Build.flowEntries]
  refine gives_peek.bind fun token _ => ?_
  split
  · exact gives_advance.bind fun _ _ => gives_pure soundEntries_nil
  · split
    · exact gives_cut EveryEntry.cut
    · extract_lets rest
      have later : forall u, Gives (rest u) SoundEntries := by
        intro _
        refine gives_peek.bind fun token _ => ?_
        split
        · exact gives_cut EveryEntry.cut
        · exact gives_advance.bind fun _ _ => gives_pure soundEntries_nil
        · refine gives_advance.bind fun _ _ => ?_
          exact gives_entry (gives_orEmpty _ (sound.node _ _)) (gives_valuePart _ (sound.node _ _))
            (sound.flowEntries false)
        · exact gives_entry (sound.node _ _) (gives_orEmpty _ (gives_pure sound_emptyNode))
            (sound.flowEntries false)
      split
      · exact gives_advance.bind fun _ _ => later ()
      · exact later ()

end SoundUpTo

theorem soundUpTo_zero : SoundUpTo 0 where
  node _ _ := gives_cut .cut
  content _ _ _ _ := gives_cut .cut
  blockItems := gives_cut SoundUpTo.soundItems_cut
  looseItems := gives_cut SoundUpTo.soundItems_cut
  blockEntries := gives_cut EveryEntry.cut
  flowItems _ := gives_cut SoundUpTo.soundItems_cut
  flowPair := gives_cut .cut
  flowEntries _ := gives_cut EveryEntry.cut

/-- Every part of the grammar gives sound nodes, however much work is allowed. -/
theorem soundUpTo (fuel : Nat) : SoundUpTo fuel := by
  induction fuel with
  | zero => exact soundUpTo_zero
  | succ fuel ih =>
    exact ⟨ih.node_succ, ih.content_succ, ih.blockItems_succ, ih.looseItems_succ,
      ih.blockEntries_succ, ih.flowItems_succ, ih.flowPair_succ, ih.flowEntries_succ⟩

theorem gives_root (fuel : Nat) : Gives (root fuel) Node.Sound := by
  have node := (soundUpTo fuel).node true false
  refine gives_peek.bind fun token _ => ?_
  split
  · exact gives_cut .cut
  · exact gives_pure sound_emptyNode
  · split
    · refine gives_get.bind fun builder _ => ?_
      split
      · refine Gives.bind (gives_modify ?_) fun _ _ => gives_orEmpty _ node
        exact fun _ => rfl
      · exact gives_cut .cut
    · exact node

end Build

theorem sound_documentOf (text : Text) : (documentOf text).Sound := by
  have start : Build.Kept ⟨tokens text, Build.defaultHandles, Keyed.empty, Keyed.empty, 0, []⟩ :=
    fun _ impossible => nomatch impossible
  obtain ⟨root, kept⟩ := Build.gives_root (4 * (tokens text).length + 4) _ start
  refine ⟨root, ?_⟩
  intro anchor member
  obtain ⟨⟨number, count⟩, _, found⟩ := List.mem_filterMap.mp member
  obtain ⟨node, held, same⟩ := Option.map_eq_some_iff.mp found
  rw [← same]
  exact kept (count, node) (Keyed.mem_of_lookup held)

end Yaml
end ApiServices
