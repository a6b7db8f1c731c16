import ApiServices.Text.Basic

namespace ApiServices
namespace Text

/-!
# Cutting texts and reading lines

Two facts carry everything that is known about pieces of a text.  Cutting goes
on independently on both sides of a separator, and no piece contains one.
A text that is written line by line, with a line feed after each, is therefore
read back as the same lines.  A line must not end in a carriage return for
this, since reading takes that for a part of the line end.
-/

section Cutting

variable (p : Char -> Bool)

/-- A separator cuts a text into two that are cut independently. -/
theorem splitWhere_append_separator (before after : Text) (c : Char) (separates : p c = true) :
    splitWhere p (before ++ c :: after) = splitWhere p before ++ splitWhere p after := by
  induction before with
  | nil => simp [splitWhere, separates]
  | cons d before ih =>
    by_cases cut : p d = true
    · simp [splitWhere, cut, ih]
    · cases pieces : splitWhere p before with
      | nil => exact absurd pieces (splitWhere_ne_nil p before)
      | cons piece others =>
        rw [pieces] at ih
        simp [splitWhere, cut, ih, pieces]

/-- A text without separators is its only piece. -/
theorem splitWhere_of_forall_not (text : Text) (whole : ∀ c ∈ text, p c = false) :
    splitWhere p text = [text] := by
  induction text with
  | nil => rfl
  | cons c rest ih =>
    have tail := ih fun d member => whole d (List.mem_cons_of_mem c member)
    simp [splitWhere, whole c List.mem_cons_self, tail]

/-- No piece contains a separator. -/
theorem not_of_mem_splitWhere {text piece : Text} (member : piece ∈ splitWhere p text)
    {c : Char} (inside : c ∈ piece) : p c = false := by
  induction text generalizing piece with
  | nil =>
    rw [splitWhere, List.mem_singleton] at member
    rw [member] at inside
    cases inside
  | cons d rest ih =>
    unfold splitWhere at member
    split at member
    · rcases List.mem_cons.mp member with empty | later
      · rw [empty] at inside
        cases inside
      · exact ih later inside
    · next kept =>
      split at member
      · next none => exact absurd none (splitWhere_ne_nil p rest)
      · next first others pieces =>
        rcases List.mem_cons.mp member with grown | later
        · rw [grown] at inside
          rcases List.mem_cons.mp inside with same | inside
          · rw [same]
            exact Bool.eq_false_iff.mpr kept
          · exact ih (pieces ▸ List.mem_cons_self) inside
        · exact ih (pieces ▸ List.mem_cons_of_mem first later) inside

/-- The first piece is the beginning of the text. -/
theorem isPrefix_of_splitWhere {text first : Text} {others : List Text}
    (pieces : splitWhere p text = first :: others) : first <+: text := by
  induction text generalizing first others with
  | nil =>
    have same : [] = first := (List.cons.inj pieces).1
    exact same ▸ List.nil_prefix
  | cons d rest ih =>
    unfold splitWhere at pieces
    split at pieces
    · have same : [] = first := (List.cons.inj pieces).1
      exact same ▸ List.nil_prefix
    · split at pieces
      · next none => exact absurd none (splitWhere_ne_nil p rest)
      · next earlier more cut =>
        rw [(List.cons.inj pieces).1.symm]
        exact List.cons_prefix_cons.mpr ⟨rfl, ih cut⟩

/-- A piece stands in the text as it is. -/
theorem isInfix_of_mem_splitWhere {text piece : Text} (member : piece ∈ splitWhere p text) :
    piece <:+: text := by
  induction text with
  | nil =>
    have same : piece = [] := List.mem_singleton.mp member
    exact same ▸ List.nil_infix
  | cons d rest ih =>
    cases pieces : splitWhere p (d :: rest) with
    | nil => exact absurd pieces (splitWhere_ne_nil p (d :: rest))
    | cons first others =>
      rw [pieces] at member
      rcases List.mem_cons.mp member with same | later
      · rw [same]
        exact (isPrefix_of_splitWhere p pieces).isInfix
      · -- The pieces behind the first one are pieces of what follows the first character.
        have behind : piece ∈ splitWhere p rest := by
          unfold splitWhere at pieces
          split at pieces
          · exact (List.cons.inj pieces).2 ▸ later
          · split at pieces
            · next none => exact absurd none (splitWhere_ne_nil p rest)
            · next earlier more cut =>
              rw [cut, (List.cons.inj pieces).2]
              exact List.mem_cons_of_mem earlier later
        exact (ih behind).trans (List.suffix_cons d rest).isInfix

/-- Cutting brings nothing in. -/
theorem mem_of_mem_splitWhere {text piece : Text} (member : piece ∈ splitWhere p text)
    {c : Char} (inside : c ∈ piece) : c ∈ text :=
  (isInfix_of_mem_splitWhere p member).subset inside

/-- Runs are cut independently on both sides of a separator. -/
theorem runsBetween_append_separator (before after : Text) (c : Char) (separates : p c = true) :
    runsBetween p (before ++ c :: after) = runsBetween p before ++ runsBetween p after := by
  rw [runsBetween, splitWhere_append_separator p before after c separates, List.filter_append]
  rfl

/-- A nonempty text without separators is one run. -/
theorem runsBetween_of_forall_not (text : Text) (nonempty : text ≠ [])
    (whole : ∀ c ∈ text, p c = false) : runsBetween p text = [text] := by
  rw [runsBetween, splitWhere_of_forall_not p text whole]
  simpa using nonempty

end Cutting

section First

variable {c : Char} {before : Text}

theorem upTo_append_of_notMem (absent : c ∉ before) (after : Text) :
    upTo c (before ++ after) = before ++ upTo c after := by
  refine List.takeWhile_append_of_pos fun d member => ?_
  exact bne_iff_ne.mpr fun same => absent (same ▸ member)

theorem upTo_of_notMem (absent : c ∉ before) : upTo c before = before := by
  have none : upTo c [] = [] := rfl
  have whole := upTo_append_of_notMem absent []
  rwa [none, List.append_nil] at whole

/-- What comes behind the first occurrence does not matter. -/
theorem upTo_append_of_mem (member : c ∈ before) (after : Text) :
    upTo c (before ++ after) = upTo c before := by
  induction before with
  | nil => cases member
  | cons d rest ih =>
    unfold upTo at ih ⊢
    by_cases same : d = c
    · simp [same]
    · have later : c ∈ rest := (List.mem_cons.mp member).resolve_left fun first => same first.symm
      simp [same, ih later]

end First

/-! ## Joining -/

/-- What is in joined pieces is in one of them or between them. -/
theorem notMem_joinWith {c : Char} {separator : Text} {pieces : List Text} (between : c ∉ separator)
    (absent : ∀ piece ∈ pieces, c ∉ piece) : c ∉ joinWith separator pieces := by
  induction pieces with
  | nil => exact List.not_mem_nil
  | cons first others ih =>
    obtain ⟨start, later⟩ := List.forall_mem_cons.mp absent
    have rest := ih later
    cases others with
    | nil => simpa [joinWith] using start
    | cons second more =>
      rw [joinWith, List.intercalate_cons_cons]
      simp only [List.mem_append, not_or]
      exact ⟨⟨start, between⟩, rest⟩

/-- Pieces that are joined by a separator and a gap are cut apart at the separators. -/
theorem splitWhere_joinWith_cons {c : Char} {gap first : Text} {others : List Text}
    (gapWhole : c ∉ gap) (whole : ∀ piece ∈ first :: others, c ∉ piece) :
    splitWhere (· == c) (joinWith (c :: gap) (first :: others)) =
      first :: others.map (gap ++ ·) := by
  have single {text : Text} (absent : c ∉ text) : splitWhere (· == c) text = [text] :=
    splitWhere_of_forall_not _ text fun d member =>
      beq_false_of_ne fun same => absent (same ▸ member)
  -- the gap goes to the piece behind it, so the first piece may be any text without separators
  induction others generalizing first with
  | nil =>
    rw [joinWith, List.intercalate_singleton]
    exact single (whole first List.mem_cons_self)
  | cons second more ih =>
    obtain ⟨start, later⟩ := List.forall_mem_cons.mp whole
    obtain ⟨next, last⟩ := List.forall_mem_cons.mp later
    have joined : joinWith (c :: gap) (first :: second :: more) =
        first ++ c :: joinWith (c :: gap) ((gap ++ second) :: more) := by
      cases more with
      | nil => simp [joinWith]
      | cons third rest => simp [joinWith, List.intercalate_cons_cons]
    have widened : ∀ piece ∈ (gap ++ second) :: more, c ∉ piece :=
      List.forall_mem_cons.mpr ⟨fun member => (List.mem_append.mp member).elim gapWhole next, last⟩
    rw [joined, splitWhere_append_separator (· == c) _ _ _ (beq_self_eq_true c), single start, ih widened]
    rfl

/-! ## Beginnings -/

theorem isPrefixOf?_cons_cons (c d : Char) (others tail : Text) :
    (c :: others).isPrefixOf? (d :: tail) = if c == d then others.isPrefixOf? tail else none :=
  rfl

/-- Taking a beginning off a text leaves what follows it. -/
theorem isPrefixOf?_eq_some_iff {opening text rest : Text} :
    opening.isPrefixOf? text = some rest ↔ text = opening ++ rest := by
  induction opening generalizing text with
  | nil => exact Option.some_inj
  | cons c others ih =>
    cases text with
    | nil =>
      constructor
      · intro impossible
        cases impossible
      · intro impossible
        cases impossible
    | cons d tail =>
      rw [isPrefixOf?_cons_cons, List.cons_append]
      by_cases same : c = d
      · rw [same, beq_self_eq_true, if_pos rfl, ih, List.cons.injEq]
        exact (and_iff_right rfl).symm
      · rw [beq_false_of_ne same, if_neg Bool.false_ne_true]
        constructor
        · intro impossible
          cases impossible
        · intro equal
          exact absurd (List.cons.inj equal).1.symm same

theorem isPrefixOf?_append (opening rest : Text) :
    opening.isPrefixOf? (opening ++ rest) = some rest :=
  isPrefixOf?_eq_some_iff.mpr rfl

/-! ## Lines -/

/-- Lines that are each ended by a line feed are cut apart at the line feeds, with
nothing behind the last one. -/
theorem splitWhere_flatMap_ended (written : List Text) (oneLine : ∀ line ∈ written, '\n' ∉ line) :
    splitWhere (· == '\n') (written.flatMap (· ++ ['\n'])) = written ++ [[]] := by
  induction written with
  | nil => rfl
  | cons line others ih =>
    have first : splitWhere (· == '\n') line = [line] := by
      apply splitWhere_of_forall_not
      intro c member
      have other : c ≠ '\n' := fun same => oneLine line List.mem_cons_self (same ▸ member)
      simpa using other
    have rest := ih fun later member => oneLine later (List.mem_cons_of_mem line member)
    rw [List.flatMap_cons, List.append_assoc, List.singleton_append,
      splitWhere_append_separator _ _ _ _ (by rfl), first, rest]
    rfl

/-- Lines that are each ended by a line feed are read back as they are. -/
theorem lines_flatMap_ended (written : List Text)
    (oneLine : ∀ line ∈ written, '\n' ∉ line)
    (ended : ∀ line ∈ written, line.getLast? ≠ some '\r') :
    lines (written.flatMap (· ++ ['\n'])) = written := by
  have kept : written.map (fun line => if line.getLast? = some '\r' then line.dropLast else line)
      = written := by
    refine Eq.trans (List.map_congr_left ?_) (List.map_id written)
    intro line member
    exact if_neg (ended line member)
  unfold lines
  rw [splitWhere_flatMap_ended written oneLine]
  simp [kept]

/-- No line contains a line feed. -/
theorem lineFeed_notMem_of_mem_lines {text line : Text} (member : line ∈ lines text) :
    '\n' ∉ line := by
  have ofPiece : ∀ piece ∈ splitWhere (· == '\n') text, '\n' ∉ piece := by
    intro piece found inside
    simpa using not_of_mem_splitWhere (· == '\n') found inside
  have among : line ∈ splitWhere (· == '\n') text ∨
      Exists fun piece => piece ∈ splitWhere (· == '\n') text ∧ line = piece.dropLast := by
    unfold lines at member
    split at member
    · cases member
    · next last before pieces =>
      have found : splitWhere (· == '\n') text = before.reverse ++ [last] := by
        rw [← List.reverse_reverse (splitWhere (· == '\n') text), pieces, List.reverse_cons]
      rw [found]
      have ofEnded : line ∈ before.reverse.map (fun line =>
          if line.getLast? = some '\r' then line.dropLast else line) ->
          line ∈ before.reverse ++ [last] ∨
            Exists fun piece => piece ∈ before.reverse ++ [last] ∧ line = piece.dropLast := by
        intro mapped
        rcases List.mem_map.mp mapped with ⟨piece, inside, shape⟩
        have listed := List.mem_append.mpr (Or.inl inside : piece ∈ before.reverse ∨ piece ∈ [last])
        split at shape
        · exact Or.inr ⟨piece, listed, shape.symm⟩
        · exact Or.inl (shape ▸ listed)
      dsimp only at member
      split at member
      · exact ofEnded member
      · rcases List.mem_append.mp member with mapped | single
        · exact ofEnded mapped
        · exact Or.inl (List.mem_append.mpr (Or.inr single))
  rcases among with whole | ⟨piece, found, shape⟩
  · exact ofPiece line whole
  · rw [shape]
    exact fun inside => ofPiece piece found (List.dropLast_subset piece inside)

end Text
end ApiServices
