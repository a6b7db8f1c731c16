import ApiServices.Proofs.Disk.Places
import Mathlib.Data.List.Infix

namespace ApiServices

/-!
# The way between two directories

Where an absolute path leads is settled by its text: a step to the parent takes back
a name, and stays where it is at the root.  The normal form that ways are computed
from says nearly the same.  It keeps one thing more, a step to the parent that was
taken at the root, and the next such step takes that one back.  So two normal forms
can part at the root although the two places do not.

A way goes up once for each step that the other normal form does not share, and then
down along the names.  Where the forms part at the root, it may go up once more than
there are directories above, which does no harm there.  Where no step was taken above the
root, it goes up to the deepest directory that lies above both and no further.
-/

/-- A part of a path stays, goes up, or goes down along itself. -/
theorem PathStep.ofText_cases (part : Text) :
    part = ['.'] ∧ ofText part = .current ∨ part = ['.', '.'] ∧ ofText part = .parent ∨
      (part ≠ ['.'] ∧ part ≠ ['.', '.']) ∧ ofText part = .name part := by
  by_cases current : part = ['.']
  · exact Or.inl ⟨current, if_pos current⟩
  · by_cases parent : part = ['.', '.']
    · exact Or.inr (Or.inl ⟨parent, by rw [ofText, if_neg current, if_pos parent]⟩)
    · exact Or.inr (Or.inr ⟨⟨current, parent⟩, by rw [ofText, if_neg current, if_neg parent]⟩)

namespace Path

/-! ## Walking -/

theorem walk_append (start : Place) (before after : List Text) :
    walk start (before ++ after) = walk (walk start before) after :=
  List.foldl_append

/-- Names are walked down. -/
theorem walk_of_plain {names : List Text} (plain : ∀ name ∈ names, PlainName name)
    (start : Place) : walk start names = start ++ names := by
  induction names generalizing start with
  | nil => exact (List.append_nil start).symm
  | cons name rest ih =>
    rw [walk_cons, nextPlace_of_plain (plain name List.mem_cons_self),
      ih fun other member => plain other (List.mem_cons_of_mem name member), List.append_assoc]
    rfl

/-- Steps to the parent take back as many names, as long as there are any. -/
theorem walk_replicate_parent (start : Place) (times : Nat) :
    walk start (List.replicate times ['.', '.']) = start.take (start.length - times) := by
  induction times generalizing start with
  | zero => exact List.take_length.symm
  | succ times ih =>
    have up : nextPlace start ['.', '.'] = start.dropLast := rfl
    rw [List.replicate_succ, walk_cons, up, ih, List.dropLast_eq_take, List.take_take,
      List.length_take]
    congr 1
    omega

/-- A walk that goes up at most as often as there are directories below one on its
way does not leave that directory. -/
theorem isPrefix_walk {ancestor start : Place} {parts : List Text} (above : ancestor <+: start)
    (few : parts.count ['.', '.'] ≤ start.length - ancestor.length) :
    ancestor <+: walk start parts := by
  induction parts generalizing start with
  | nil => exact above
  | cons part rest ih =>
    rw [walk_cons, nextPlace]
    rcases PathStep.ofText_cases part with ⟨same, kind⟩ | ⟨same, kind⟩ | ⟨⟨_, other⟩, kind⟩
    · rw [same, List.count_cons_of_ne (by decide)] at few
      rw [kind]
      exact ih above few
    · rw [same, List.count_cons_self] at few
      rw [kind]
      apply ih
      · rw [List.dropLast_eq_take]
        exact List.prefix_take_iff.mpr ⟨above, by omega⟩
      · rw [List.length_dropLast]
        omega
    · rw [List.count_cons_of_ne other] at few
      rw [kind]
      apply ih (above.trans (List.prefix_append start [part]))
      rw [List.length_append]
      omega

/-! ## Parts -/

theorem mem_parts {path part : Text} (member : part ∈ parts path) : part ≠ [] ∧ '/' ∉ part := by
  rcases List.mem_filter.mp member with ⟨among, filled⟩
  constructor
  · intro empty
    rw [empty] at filled
    cases filled
  · intro slash
    have other := Text.not_of_mem_splitWhere (· == '/') among slash
    rw [beq_self_eq_true] at other
    cases other

/-- Every name on the way to a place is a plain one. -/
theorem plainName_of_mem_walk {start : Place} {walked : List Text}
    (named : ∀ name ∈ start, PlainName name)
    (cut : ∀ part ∈ walked, part ≠ [] ∧ '/' ∉ part) :
    ∀ name ∈ walk start walked, PlainName name := by
  induction walked generalizing start with
  | nil => exact named
  | cons part rest ih =>
    rw [walk_cons, nextPlace]
    refine ih ?_ fun other member => cut other (List.mem_cons_of_mem part member)
    rcases PathStep.ofText_cases part with ⟨_, kind⟩ | ⟨_, kind⟩ | ⟨⟨notCurrent, notParent⟩, kind⟩
    · rw [kind]
      exact named
    · rw [kind]
      exact fun name member => named name (List.dropLast_subset start member)
    · rw [kind]
      rcases cut part List.mem_cons_self with ⟨nonempty, unslashed⟩
      have last : PlainName part := ⟨nonempty, unslashed, notCurrent, notParent⟩
      exact List.forall_mem_append.mpr ⟨named, List.forall_mem_singleton.mpr last⟩

theorem plainName_of_mem_place {path name : Text} (member : name ∈ place path) : PlainName name :=
  plainName_of_mem_walk (fun _ none => absurd none List.not_mem_nil) (fun _ => mem_parts) name
    member

/-- Texts that are joined by slashes are the parts of the joined text. -/
theorem parts_joinWith {pieces : List Text} (cut : ∀ piece ∈ pieces, piece ≠ [] ∧ '/' ∉ piece) :
    parts (Text.joinWith ['/'] pieces) = pieces := by
  have single : ∀ piece ∈ pieces, parts piece = [piece] := by
    intro piece member
    rcases cut piece member with ⟨nonempty, unslashed⟩
    apply Text.runsBetween_of_forall_not _ piece nonempty
    exact fun c inside => beq_eq_false_iff_ne.mpr fun same => unslashed (same ▸ inside)
  induction pieces with
  | nil => rfl
  | cons piece rest ih =>
    have first := single piece List.mem_cons_self
    have others := ih (fun other member => cut other (List.mem_cons_of_mem piece member))
      fun other member => single other (List.mem_cons_of_mem piece member)
    cases rest with
    | nil => simpa [Text.joinWith] using first
    | cons second more =>
      rw [Text.joinWith, List.intercalate_cons_cons, List.append_assoc, List.singleton_append,
        parts_append_slash, first]
      exact congrArg (piece :: ·) others

/-! ## Normal forms -/

/-- Whether no step to the parent is taken at the root. -/
def StaysBelowRoot (path : Text) : Prop :=
  ∀ count < (parts path).length,
    (parts path)[count]? = some ['.', '.'] -> walk [] ((parts path).take count) ≠ []

instance (path : Text) : Decidable (StaysBelowRoot path) :=
  inferInstanceAs (Decidable (∀ count < (parts path).length,
    (parts path)[count]? = some ['.', '.'] -> walk [] ((parts path).take count) ≠ []))

/-- The steps of a normal form behind the root: one that was taken above the root
and kept, if there is one, and the names of a place. -/
def stepsTo (kept : Bool) (place : Place) : List PathStep :=
  (if kept then [.parent] else []) ++ place.map .name

theorem stepsTo_concat (kept : Bool) (place : Place) (name : Text) :
    stepsTo kept (place ++ [name]) = stepsTo kept place ++ [.name name] := by
  simp [stepsTo]

/-- One more part takes a normal form to that of the next place.  What is kept of
steps above the root changes at the root only. -/
theorem exists_advance_eq (kept : Bool) (place : Place) (part : Text)
    (moving : PathStep.ofText part ≠ .current) :
    Exists fun next =>
      advance (.root :: stepsTo kept place) (PathStep.ofText part) =
          .root :: stepsTo next (nextPlace place part) ∧
        ((part = ['.', '.'] -> place ≠ []) -> next = kept) := by
  rcases PathStep.ofText_cases part with ⟨_, kind⟩ | ⟨up, kind⟩ | ⟨_, kind⟩
  · exact absurd kind moving
  · rw [nextPlace, kind]
    rcases List.eq_nil_or_concat place with atRoot | ⟨before, last, shape⟩
    · rw [atRoot]
      refine ⟨!kept, ?_, fun below => absurd rfl (below up)⟩
      cases kept <;> rfl
    · refine ⟨kept, ?_, fun _ => rfl⟩
      have ends : (PathStep.root :: stepsTo kept place).getLast? = some (.name last) := by
        rw [shape, List.concat_eq_append, stepsTo_concat, ← List.cons_append]
        exact List.getLast?_concat
      rw [advance, ends]
      simp only
      rw [shape, List.concat_eq_append, stepsTo_concat, ← List.cons_append, List.dropLast_concat,
        List.dropLast_concat]
  · rw [nextPlace, kind]
    refine ⟨kept, ?_, fun _ => rfl⟩
    rw [advance, stepsTo_concat]
    rfl

theorem exists_foldl_advance_eq (kept : Bool) (place : Place) (walked : List Text) :
    Exists fun next =>
      ((walked.map PathStep.ofText).filter (· != .current)).foldl advance
          (.root :: stepsTo kept place) = .root :: stepsTo next (walk place walked) ∧
        ((∀ count < walked.length, walked[count]? = some ['.', '.'] ->
          walk place (walked.take count) ≠ []) -> next = kept) := by
  induction walked generalizing kept place with
  | nil => exact ⟨kept, rfl, fun _ => rfl⟩
  | cons part rest ih =>
    by_cases resting : PathStep.ofText part = .current
    · have stays : nextPlace place part = place := by
        rw [nextPlace, resting]
      rcases ih kept place with ⟨next, shape, unchanged⟩
      refine ⟨next, ?_, fun below => unchanged fun count inside up => ?_⟩
      · rw [walk_cons, stays, ← shape, List.map_cons, resting]
        rfl
      · have later := below (count + 1) (Nat.succ_lt_succ inside) up
        rwa [List.take_succ_cons, walk_cons, stays] at later
    · rcases exists_advance_eq kept place part resting with ⟨middle, first, same⟩
      rcases ih middle (nextPlace place part) with ⟨next, shape, unchanged⟩
      refine ⟨next, ?_, fun below => ?_⟩
      · have kind : (PathStep.ofText part != .current) = true := bne_iff_ne.mpr resting
        rw [walk_cons, ← shape, List.map_cons, List.filter_cons, if_pos kind, List.foldl_cons,
          first]
      · have unmoved := same fun up => below 0 (Nat.succ_pos _) (congrArg some up)
        rw [← unmoved]
        refine unchanged fun count inside up => ?_
        exact below (count + 1) (Nat.succ_lt_succ inside) up

/-- The normal form of an absolute path is the root and the steps to its place.  No
step above the root is kept of a path that takes none. -/
theorem exists_normalized_eq {path : Text} (absolute : isAbsolute path = true) :
    Exists fun kept => normalized path = .root :: stepsTo kept (place path) ∧
      (StaysBelowRoot path -> kept = false) := by
  unfold normalized steps
  rw [if_pos absolute]
  exact exists_foldl_advance_eq false [] (parts path)

/-! ## Ways -/

/-- Two lists part where they have nothing in common any more. -/
theorem exists_shared (first second : List PathStep) :
    Exists fun shared =>
      first = shared ++ (diverge first second).1 ∧ second = shared ++ (diverge first second).2 ∧
        forall step, (diverge first second).1.head? = some step ->
          (diverge first second).2.head? ≠ some step := by
  fun_induction diverge first second with
  | case1 firstRest step secondRest ih =>
    rcases ih with ⟨shared, one, other, apart⟩
    exact ⟨step :: shared, congrArg (step :: ·) one, congrArg (step :: ·) other, apart⟩
  | case2 one firstRest other secondRest different =>
    refine ⟨[], rfl, rfl, ?_⟩
    intro step here there
    rw [← Option.some.inj here] at there
    exact different (Option.some.inj there).symm
  | case3 first second ended =>
    refine ⟨[], rfl, rfl, ?_⟩
    intro step here there
    cases first with
    | nil => cases here
    | cons one firstRest =>
      cases second with
      | nil => cases there
      | cons other secondRest => exact ended one firstRest other secondRest rfl rfl

/-- The parts of a way: up as often as there are steps to leave behind, and down
along the others. -/
def turns (up down : List PathStep) : List Text :=
  List.replicate up.length ['.', '.'] ++ down.map PathStep.text

/-- A way is written with the parts that it has, and a dot in front unless it begins
by going up. -/
theorem exists_between_eq (start goal : Text) :
    let way := turns (diverge (normalized start) (normalized goal)).1
      (diverge (normalized start) (normalized goal)).2
    Exists fun first => Exists fun rest =>
      between start goal = Text.joinWith ['/'] (first :: rest) ∧
        (first = ['.'] ∧ rest = way ∨ first = ['.', '.'] ∧ first :: rest = way) := by
  intro way
  have listed : way = (diverge (normalized start) (normalized goal)).1.map
      (fun _ => PathStep.parent.text) ++
        (diverge (normalized start) (normalized goal)).2.map PathStep.text := by
    rw [List.map_const']
    rfl
  unfold between
  dsimp only
  rw [← listed]
  clear_value way
  cases way with
  | nil => exact ⟨['.'], [], rfl, Or.inl ⟨rfl, rfl⟩⟩
  | cons first rest =>
    dsimp only
    split
    · next up => exact ⟨first, rest, rfl, Or.inr ⟨up, rfl⟩⟩
    · exact ⟨['.'], first :: rest, rfl, Or.inl ⟨rfl, rfl⟩⟩

/-- A way begins with a dot, so it is a relative path. -/
theorem head?_between (start goal : Text) : (between start goal).head? = some '.' := by
  have joined : forall first rest, (first = ['.'] ∨ first = ['.', '.']) ->
      (Text.joinWith ['/'] (first :: rest)).head? = some '.' := by
    rintro first rest (dot | dots)
    · cases rest <;> rw [dot] <;> rfl
    · cases rest <;> rw [dots] <;> rfl
  rcases exists_between_eq start goal with ⟨first, rest, shape, ⟨dot, _⟩ | ⟨dots, _⟩⟩
  · exact shape ▸ joined first rest (Or.inl dot)
  · exact shape ▸ joined first rest (Or.inr dots)

section Turning

variable {kept other : Bool} {place goal : Place} {shared up down : List PathStep}

theorem walk_texts_stepsTo (plain : ∀ name ∈ place, PlainName name) :
    walk [] ((stepsTo kept place).map PathStep.text) = place := by
  have names : (place.map PathStep.name).map PathStep.text = place := by
    rw [List.map_map]
    exact List.map_id place
  rw [stepsTo, List.map_append, names]
  cases kept with
  | false => exact walk_of_plain plain []
  | true => exact walk_of_plain plain []

/-- Behind a step that two normal forms share there are names only. -/
theorem isSuffix_names_of_shared (shape : stepsTo kept place = shared ++ up) (some : shared ≠ []) :
    up <:+ place.map PathStep.name := by
  rcases List.append_eq_append_iff.mp shape with ⟨more, _, names⟩ | ⟨more, kepts, names⟩
  · exact ⟨more, names.symm⟩
  · have short : (shared ++ more).length ≤ 1 := by
      rw [← kepts]
      cases kept <;> simp
    have positive := List.length_pos_iff.mpr some
    rw [List.length_append] at short
    have none : more = [] := List.length_eq_zero_iff.mp (by omega)
    rw [names, none]
    exact List.suffix_rfl

/-- Going up along the steps that are not shared leads to where the shared ones lead. -/
theorem walk_up (plain : ∀ name ∈ place, PlainName name)
    (shape : stepsTo kept place = shared ++ up) :
    walk place (List.replicate up.length ['.', '.']) = walk [] (shared.map PathStep.text) := by
  have whole : walk [] ((stepsTo kept place).map PathStep.text) = place := walk_texts_stepsTo plain
  rw [shape, List.map_append, walk_append] at whole
  rw [walk_replicate_parent]
  by_cases none : shared = []
  · -- Nothing is shared, and there are no more names than steps to take back.
    have enough : place.length ≤ up.length := by
      rw [none, List.nil_append] at shape
      rw [← shape, stepsTo, List.length_append, List.length_map]
      omega
    rw [none, Nat.sub_eq_zero_of_le enough]
    rfl
  · have names := isSuffix_names_of_shared shape none
    have below : walk [] (shared.map PathStep.text) ++ up.map PathStep.text = place := by
      rw [← whole]
      symm
      apply walk_of_plain
      intro name member
      rcases List.mem_map.mp member with ⟨step, inside, text⟩
      rcases List.mem_map.mp (names.subset inside) with ⟨found, among, same⟩
      rw [← text, ← same]
      exact plain found among
    have counted := congrArg List.length below
    rw [List.length_append, List.length_map] at counted
    rw [← counted, Nat.add_sub_cancel]
    conv_lhs => rw [← below]
    exact List.take_left

/-- Up along the steps of one normal form and down along those of another. -/
theorem walk_turns (plain : ∀ name ∈ place, PlainName name) (also : ∀ name ∈ goal, PlainName name)
    (start : stepsTo kept place = shared ++ up) (ending : stepsTo other goal = shared ++ down) :
    walk place (turns up down) = goal := by
  calc
    walk place (turns up down) =
        walk (walk [] (shared.map PathStep.text)) (down.map PathStep.text) := by
      rw [turns, walk_append, walk_up plain start]
    _ = walk [] ((stepsTo other goal).map PathStep.text) := by
      rw [ending, List.map_append, walk_append]
    _ = goal := walk_texts_stepsTo also

end Turning

/-! ## Common directories -/

/-- The deepest of the places that two places lie below. -/
structure DeepestCommon (first second ancestor : Place) : Prop where
  above : ancestor <+: first
  alsoAbove : ancestor <+: second
  deepest : forall other, other <+: first -> other <+: second -> other <+: ancestor

theorem deepestCommon_of_apart {ancestor up down : Place}
    (apart : forall name, up.head? = some name -> down.head? ≠ some name) :
    DeepestCommon (ancestor ++ up) (ancestor ++ down) ancestor where
  above := List.prefix_append ancestor up
  alsoAbove := List.prefix_append ancestor down
  deepest := by
    intro other first second
    rcases List.prefix_or_prefix_of_prefix first (List.prefix_append ancestor up) with
      shorter | ⟨more, longer⟩
    · exact shorter
    · rw [← longer, List.prefix_append_right_inj] at first second
      cases more with
      | nil =>
        rw [← longer, List.append_nil]
      | cons name rest =>
        -- Both go on with one name, but they part here.
        rcases first with ⟨later, one⟩
        rcases second with ⟨alsoLater, another⟩
        apply absurd _ (apart name (one ▸ rfl))
        exact another ▸ rfl

/-- Where nothing was kept of steps above the root, normal forms part at the deepest
common place, and a way goes up to it. -/
theorem exists_deepestCommon {place goal : Place} {shared up down : List PathStep}
    (plain : ∀ name ∈ goal, PlainName name)
    (start : stepsTo false place = shared ++ up) (ending : stepsTo false goal = shared ++ down)
    (apart : forall step, up.head? = some step -> down.head? ≠ some step) :
    Exists fun ancestor => DeepestCommon place goal ancestor ∧
      (turns up down).count ['.', '.'] = place.length - ancestor.length := by
  rcases List.map_eq_append_iff.mp start with ⟨ancestor, above, split, sharedNames, upNames⟩
  rcases List.map_eq_append_iff.mp ending with ⟨same, below, alsoSplit, alsoShared, downNames⟩
  have one : same = ancestor :=
    List.map_injective_iff.mpr (fun _ _ => PathStep.name.inj) (alsoShared.trans sharedNames.symm)
  rw [one] at alsoSplit
  refine ⟨ancestor, ?_, ?_⟩
  · rw [split, alsoSplit]
    apply deepestCommon_of_apart
    intro name here there
    rw [← upNames, ← downNames, List.head?_map, List.head?_map, here, there] at apart
    exact apart (.name name) rfl rfl
  · have named : down.map PathStep.text = below := by
      rw [← downNames, List.map_map]
      exact List.map_id below
    have none : ['.', '.'] ∉ below := by
      intro member
      apply (plain _ _).notParent rfl
      rw [alsoSplit]
      exact List.mem_append_right ancestor member
    rw [turns, named, List.count_append, List.count_replicate_self, List.count_eq_zero.mpr none,
      ← upNames, split]
    simp

/-! ## Import paths -/

/-- What stands before the last slash of a path. -/
def beforeLastSlash (path : Text) : Text :=
  (path.reverse.dropWhile (· != '/')).tail.reverse

theorem beforeLastSlash_append {way file : Text} (unslashed : '/' ∉ file) :
    beforeLastSlash (way ++ '/' :: file) = way := by
  have skipped : ∀ c ∈ file.reverse, (c != '/') = true := by
    intro c member
    exact bne_iff_ne.mpr fun same => unslashed (same ▸ List.mem_reverse.mp member)
  rw [beforeLastSlash, List.reverse_append, List.reverse_cons, List.append_assoc,
    List.dropWhile_append_of_pos skipped, List.singleton_append,
    List.dropWhile_cons_of_neg (by simp), List.tail_cons, List.reverse_reverse]

theorem isPrefix_joinWith_append (first : Text) (rest : List Text) (after : Text) :
    first ++ ['/'] <+: Text.joinWith ['/'] (first :: rest) ++ '/' :: after := by
  cases rest with
  | nil => exact ⟨after, by simp [Text.joinWith]⟩
  | cons second more =>
    rw [Text.joinWith, List.intercalate_cons_cons, List.append_assoc]
    exact List.prefix_append _ _

/-- A way from one directory to another. -/
structure Leads (start goal way : Text) : Prop where
  /-- Followed from the one directory it leads to the other. -/
  arrives : place (join start way) = place goal
  /-- It goes up to the deepest directory that both lie below, and no further, when no
  step of either path goes above the root. -/
  turns : StaysBelowRoot start -> StaysBelowRoot goal -> Exists fun ancestor =>
    DeepestCommon (place start) (place goal) ancestor ∧
      (parts way).count ['.', '.'] = (place start).length - ancestor.length ∧
      forall count, ancestor <+: walk (place start) ((parts way).take count)

section Leading

variable {start goal : Text}

/-- The texts of the steps of a normal form are parts of paths. -/
theorem cut_of_mem_stepsTo {kept : Bool} {place : Place} (plain : ∀ name ∈ place, PlainName name) :
    ∀ step ∈ stepsTo kept place, step.text ≠ [] ∧ '/' ∉ step.text := by
  intro step member
  rcases List.mem_append.mp member with above | named
  · have parent : step = .parent := by
      cases kept with
      | false => exact absurd above List.not_mem_nil
      | true => exact List.mem_singleton.mp above
    rw [parent]
    decide
  · rcases List.mem_map.mp named with ⟨name, inside, same⟩
    rw [← same]
    exact ⟨(plain name inside).nonempty, (plain name inside).unslashed⟩

theorem parts_between {kept other : Bool}
    (normal : normalized start = .root :: stepsTo kept (place start))
    (alsoNormal : normalized goal = .root :: stepsTo other (place goal)) :
    let way := turns (diverge (stepsTo kept (place start)) (stepsTo other (place goal))).1
      (diverge (stepsTo kept (place start)) (stepsTo other (place goal))).2
    parts (between start goal) = way ∨ parts (between start goal) = ['.'] :: way := by
  intro way
  have parted : diverge (normalized start) (normalized goal) =
      diverge (stepsTo kept (place start)) (stepsTo other (place goal)) := by
    rw [normal, alsoNormal, diverge, if_pos rfl]
  have cut : ∀ part ∈ ['.'] :: way, part ≠ [] ∧ '/' ∉ part := by
    rcases exists_shared (stepsTo kept (place start)) (stepsTo other (place goal)) with
      ⟨shared, _, another, _⟩
    rw [List.forall_mem_cons]
    refine ⟨by decide, ?_⟩
    intro part member
    rcases List.mem_append.mp member with parent | named
    · rw [List.eq_of_mem_replicate parent]
      decide
    · rcases List.mem_map.mp named with ⟨step, inside, text⟩
      rw [← text]
      apply cut_of_mem_stepsTo (fun _ => plainName_of_mem_place) step
      rw [another]
      exact List.mem_append_right shared inside
  rcases exists_between_eq start goal with ⟨first, rest, shape, ahead⟩
  rw [parted] at ahead
  rw [shape]
  rcases ahead with ⟨dot, tail⟩ | ⟨_, whole⟩
  · right
    rw [dot, tail]
    exact parts_joinWith cut
  · left
    rw [whole]
    exact parts_joinWith fun part member => cut part (List.mem_cons_of_mem _ member)

/-- What follows a way and a slash is reached by one dot or two. -/
theorem isPrefix_between_append (start goal after : Text) :
    "./".toList <+: between start goal ++ '/' :: after ∨
      "../".toList <+: between start goal ++ '/' :: after := by
  rcases exists_between_eq start goal with ⟨first, rest, shape, ahead⟩
  have opening := isPrefix_joinWith_append first rest after
  rw [shape]
  rcases ahead with ⟨dot, _⟩ | ⟨dots, _⟩
  · rw [dot] at opening ⊢
    exact Or.inl opening
  · rw [dots] at opening ⊢
    exact Or.inr opening

/-- Between absolute directories the way is one that leads. -/
theorem leads_between (absolute : isAbsolute start = true) (alsoAbsolute : isAbsolute goal = true) :
    Leads start goal (between start goal) := by
  rcases exists_normalized_eq absolute with ⟨kept, normal, unkept⟩
  rcases exists_normalized_eq alsoAbsolute with ⟨other, alsoNormal, alsoUnkept⟩
  rcases exists_shared (stepsTo kept (place start)) (stepsTo other (place goal)) with
    ⟨shared, one, another, apart⟩
  have listed := parts_between normal alsoNormal
  have walked := walk_turns (fun _ => plainName_of_mem_place) (fun _ => plainName_of_mem_place)
    one another
  constructor
  · have relative : (between start goal).head? ≠ some '/' := by
      rw [head?_between]
      decide
    rw [place, parts_join_of_relative relative, walk_append]
    rcases listed with plainly | dotted
    · rw [plainly]
      exact walked
    · rw [dotted]
      exact walked
  · intro below alsoBelow
    have none := unkept below
    have alsoNone := alsoUnkept alsoBelow
    subst none alsoNone
    rcases exists_deepestCommon (fun _ => plainName_of_mem_place) one another apart with
      ⟨ancestor, deepest, counted⟩
    have ups : (parts (between start goal)).count ['.', '.'] =
        (place start).length - ancestor.length := by
      rcases listed with plainly | dotted
      · rw [plainly]
        exact counted
      · rw [dotted, List.count_cons_of_ne (by decide)]
        exact counted
    refine ⟨ancestor, deepest, ups, fun count => ?_⟩
    apply isPrefix_walk deepest.above
    rw [← ups]
    exact (List.take_sublist count _).count_le _

end Leading

/-- The path by which a service is imported begins with one dot or two and a slash.
Its last slash stands before the file, and what stands before that slash is a way
from the tests directory to the directory of the services. -/
theorem importPath_leads {testsDir outputDir service extension : Text}
    (tests : isAbsolute testsDir = true) (output : isAbsolute outputDir = true)
    (named : '/' ∉ service) (extended : '/' ∉ extension) :
    let path := importPath testsDir outputDir service extension
    ("./".toList <+: path ∨ "../".toList <+: path) ∧
      path = beforeLastSlash path ++ '/' :: (service ++ extension) ∧
        Leads testsDir outputDir (beforeLastSlash path) := by
  have unslashed : '/' ∉ service ++ extension := by
    rw [List.mem_append, not_or]
    exact ⟨named, extended⟩
  have shape : importPath testsDir outputDir service extension =
      between testsDir outputDir ++ '/' :: (service ++ extension) :=
    List.append_assoc _ _ _
  dsimp only
  rw [shape, beforeLastSlash_append unslashed]
  exact ⟨isPrefix_between_append testsDir outputDir _, rfl, leads_between tests output⟩

/-- Up twice from a directory that is written with dots and slashes to spare, and
down into one whose path turns around on the way. -/
theorem importPath_leads_down_a_crooked_path :
    importPath "/p/./a//tests/".toList "/p/b/../services/v1".toList "UsersService".toList
          ".js".toList = "../../services/v1/UsersService.js".toList ∧
      place (join "/p/./a//tests/".toList "../../services/v1".toList) =
        ["p".toList, "services".toList, "v1".toList] ∧
      Exists fun ancestor =>
        DeepestCommon ["p".toList, "a".toList, "tests".toList]
            ["p".toList, "services".toList, "v1".toList] ancestor ∧
          2 = 3 - ancestor.length := by
  have leads := @importPath_leads "/p/./a//tests/".toList "/p/b/../services/v1".toList
    "UsersService".toList ".js".toList (by decide) (by decide) (by decide) (by decide)
  rcases leads.2.2.turns (by decide) (by decide) with ⟨ancestor, deepest, counted, _⟩
  exact ⟨by decide, leads.2.2.arrives, ancestor, deepest, counted⟩

/-- Two steps above the root take each other back, and one is kept. -/
example : importPath "/../..".toList "/../a".toList "A".toList [] = "../a/A".toList := by
  decide

end Path
end ApiServices
