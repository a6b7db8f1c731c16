import ApiServices.Naming
import ApiServices.Proofs.Route.Placeholders
import ApiServices.Proofs.Text.CaseMapping
import ApiServices.Proofs.Text.Lines

namespace ApiServices

/-!
# Method names that are identifiers

A method name is made of the segments of a route, and a segment counts as a
placeholder by its first and its last character.  The parameters of the route are
found in another way, by going from brace to brace.  Both agree on a segment that is
one placeholder, and on a segment that has placeholders somewhere inside it, where
the name loses the braces.

They do not agree on a segment that begins with one placeholder and ends with
another.  It counts as a single one, and the braces between the two get into the
name.  The same goes for a segment whose braces are on different lines, which has no
parameter at all.  In all other cases the name is an identifier, provided that the
parameters are.
-/

namespace Identifier

def canBegin (c : Char) : Bool :=
  c.isAlpha || c == '_' || c == '$'

def canFollow (c : Char) : Bool :=
  c.isAlphanum || c == '_' || c == '$'

theorem canFollow_of_isAlpha {c : Char} (letter : c.isAlpha = true) : canFollow c = true := by
  simp [canFollow, Char.isAlphanum, letter]

theorem canFollow_of_canBegin {c : Char} (first : canBegin c = true) : canFollow c = true := by
  simp only [canBegin, Bool.or_eq_true] at first
  simp only [canFollow, Char.isAlphanum, Bool.or_eq_true]
  rcases first with (letter | underscore) | dollar
  · exact Or.inl (Or.inl (Or.inl letter))
  · exact Or.inl (Or.inr underscore)
  · exact Or.inr dollar

theorem toNat_lt_of_canFollow {c : Char} (follow : canFollow c = true) : c.toNat < 128 := by
  unfold canFollow Char.isAlphanum Char.isAlpha Char.isUpper Char.isLower Char.isDigit at follow
  simp only [Bool.or_eq_true, Bool.and_eq_true, decide_eq_true_eq, beq_iff_eq,
    UInt32.le_iff_toNat_le, Char.reduceVal, UInt32.reduceToNat] at follow
  change c.val.toNat < 128
  rcases follow with (letter | same) | same
  · omega
  · rw [same]
    decide
  · rw [same]
    decide

end Identifier

/-- Whether a text is an identifier of ASCII characters. -/
def isIdentifier : Text -> Bool
  | [] => false
  | c :: rest => Identifier.canBegin c && rest.all Identifier.canFollow

namespace Identifier

theorem canFollow_of_mem {name : Text} (identifier : isIdentifier name = true) :
    ∀ c ∈ name, canFollow c = true := by
  cases name with
  | nil => cases identifier
  | cons first rest =>
    rw [isIdentifier, Bool.and_eq_true, List.all_eq_true] at identifier
    intro c member
    rcases List.mem_cons.mp member with same | later
    · exact same ▸ canFollow_of_canBegin identifier.1
    · exact identifier.2 c later

/-- Behind a letter, an identifier goes on with whatever can follow. -/
theorem isIdentifier_append {letters rest : Text} (nonempty : letters ≠ [])
    (alphabetic : ∀ c ∈ letters, c.isAlpha = true) :
    isIdentifier (letters ++ rest) = rest.all canFollow := by
  cases letters with
  | nil => exact absurd rfl nonempty
  | cons first others =>
    have begins : canBegin first = true := by
      simp [canBegin, alphabetic first List.mem_cons_self]
    have follow : others.all canFollow = true :=
      List.all_eq_true.mpr fun c member =>
        canFollow_of_isAlpha (alphabetic c (List.mem_cons_of_mem first member))
    rw [List.cons_append, isIdentifier, List.all_append, begins, follow, Bool.true_and,
      Bool.true_and]

/-! ## Letter case -/

/-- The lowercase forms of letters are letters. -/
theorem isAlpha_of_mem_lowerChar {c : Char} (letter : c.isAlpha = true) :
    ∀ d ∈ Text.lowerChar c, d.isAlpha = true := by
  have passes : Text.tablePasses
      (fun n codes => !(Char.ofNat n).isAlpha || (codes.map Char.ofNat).all Char.isAlpha)
      Text.lowerRuns Text.lowerExpansions = true := by
    decide +kernel
  intro d member
  rcases Text.mapped_eq_self_or passes c with same | ⟨codes, checked, image⟩
  · rw [Text.lowerChar, same, List.mem_singleton] at member
    exact member ▸ letter
  · rw [Text.lowerChar, image] at member
    rw [Char.ofNat_toNat, letter] at checked
    exact List.all_eq_true.mp checked d member

/-- What can follow in an identifier still can with an uppercase first letter. -/
theorem canFollow_of_mem_upperFirst {text : Text} (follow : ∀ c ∈ text, canFollow c = true) :
    ∀ c ∈ Text.upperFirst text, canFollow c = true := by
  have passes : Text.tablePasses
      (fun n codes => !canFollow (Char.ofNat n) || (codes.map Char.ofNat).all canFollow)
      Text.upperRuns Text.upperExpansions = true := by
    decide +kernel
  cases text with
  | nil => exact follow
  | cons first rest =>
    have begins := follow first List.mem_cons_self
    refine List.forall_mem_append.mpr
      ⟨?_, fun c later => follow c (List.mem_cons_of_mem first later)⟩
    intro c member
    rcases Text.mapped_eq_self_or passes first with same | ⟨codes, checked, image⟩
    · rw [Text.upperChar, same, List.mem_singleton] at member
      exact member ▸ begins
    · rw [Text.upperChar, image] at member
      rw [Char.ofNat_toNat, begins] at checked
      exact List.all_eq_true.mp checked c member

/-- A character without an uppercase form stays in the text. -/
theorem mem_upperFirst {text : Text} {c : Char} (caseless : Text.upperChar c = [c])
    (member : c ∈ text) : c ∈ Text.upperFirst text := by
  cases text with
  | nil => exact member
  | cons first rest =>
    rcases List.mem_cons.mp member with same | later
    · rw [Text.upperFirst, ← same, caseless]
      exact List.mem_append_left rest List.mem_cons_self
    · exact List.mem_append_right _ later

theorem lowerAfter_cons_of_letter {c : Char} (before rest : Text) (letter : c.isAlpha = true) :
    Text.lowerAfter before (c :: rest) =
      Text.lowerChar c ++ Text.lowerAfter (c :: before) rest := by
  have other : c ≠ 'Σ' := by
    intro same
    rw [same] at letter
    exact absurd letter (by decide)
  rw [Text.lowerAfter, if_neg other]

theorem isAlpha_of_mem_lowerAfter {before text : Text}
    (letters : ∀ c ∈ text, c.isAlpha = true) :
    ∀ c ∈ Text.lowerAfter before text, c.isAlpha = true := by
  induction text generalizing before with
  | nil => simp [Text.lowerAfter]
  | cons first rest ih =>
    rw [lowerAfter_cons_of_letter before rest (letters first List.mem_cons_self)]
    exact List.forall_mem_append.mpr
      ⟨isAlpha_of_mem_lowerChar (letters first List.mem_cons_self),
        ih fun c member => letters c (List.mem_cons_of_mem first member)⟩

/-- A text that begins with a letter has letters in front when the first of them is
made lowercase, and otherwise stays as it is. -/
theorem exists_lowerFirst_append {letters : Text} (nonempty : letters ≠ [])
    (alphabetic : ∀ c ∈ letters, c.isAlpha = true) :
    Exists fun lowered => lowered ≠ [] ∧ (∀ c ∈ lowered, c.isAlpha = true) ∧
      forall rest, Text.lowerFirst (letters ++ rest) = lowered ++ rest := by
  cases letters with
  | nil => exact absurd rfl nonempty
  | cons first others =>
    refine ⟨Text.lowerChar first ++ others, ?_, ?_, fun rest => ?_⟩
    · exact fun empty => Text.lowerChar_ne_nil first (List.append_eq_nil_iff.mp empty).1
    · exact List.forall_mem_append.mpr
        ⟨isAlpha_of_mem_lowerChar (alphabetic first List.mem_cons_self),
          fun c member => alphabetic c (List.mem_cons_of_mem first member)⟩
    · rw [List.append_assoc]
      rfl

end Identifier

/-! ## Segments -/

namespace MethodName

open Identifier

variable {verb route segment name : Text}

theorem placeholder?_eq_some_iff :
    placeholder? segment = some name ↔ segment = '{' :: name ++ ['}'] := by
  constructor
  · intro found
    unfold placeholder? at found
    split at found
    · next rest =>
      split at found
      · next ends =>
        rcases List.getLast?_eq_some_iff.mp ends with ⟨before, shape⟩
        rw [shape, List.dropLast_concat] at found
        rw [shape, Option.some.inj found]
        rfl
      · cases found
    · cases found
  · intro shape
    rw [shape, List.cons_append, placeholder?, List.getLast?_concat, if_pos rfl,
      List.dropLast_concat]

/-- A segment that is a placeholder from its first to its last character, or is not
taken for one: between the two braces there is no closing brace and no line feed. -/
def Whole (segment : Text) : Prop :=
  ∀ name ∈ placeholder? segment, '}' ∉ name ∧ '\n' ∉ name

instance (segment : Text) : Decidable (Whole segment) :=
  inferInstanceAs (Decidable (∀ name ∈ placeholder? segment, '}' ∉ name ∧ '\n' ∉ name))

theorem isInfix_of_mem_segments (member : segment ∈ segments route) : segment <:+: route :=
  (Text.isInfix_of_mem_splitWhere (· == '/') (List.mem_filter.mp member).1).trans
    (List.takeWhile_prefix _).isInfix

/-- The name in a whole segment is a parameter of the route, or a parameter has an
opening brace in its name. -/
theorem mem_params_of_whole (member : segment ∈ segments route) (whole : Whole segment)
    (placed : placeholder? segment = some name) :
    name ∈ Route.params route ∨ Exists fun other => other ∈ Route.params route ∧ '{' ∈ other := by
  rcases isInfix_of_mem_segments member with ⟨before, after, shape⟩
  rcases whole name placed with ⟨unbraced, oneLine⟩
  have spelled : route = before ++ '{' :: name ++ '}' :: after := by
    rw [← shape, placeholder?_eq_some_iff.mp placed]
    simp
  rw [spelled]
  exact Route.mem_params_of_braced before after unbraced oneLine

/-- What a segment contributes can follow in an identifier just where the segment is
whole. -/
theorem all_ofSegment_iff (params : ∀ other ∈ Route.params route, isIdentifier other = true)
    (member : segment ∈ segments route) :
    (ofSegment segment).all canFollow = true ↔ Whole segment := by
  unfold ofSegment
  cases placed : placeholder? segment with
  | none =>
    have follow : ∀ c ∈ segment.filter isNameChar, canFollow c = true := by
      intro c inside
      have kept : c.isAlphanum = true := (List.mem_filter.mp inside).2
      simp [canFollow, kept]
    refine iff_of_true (List.all_eq_true.mpr (canFollow_of_mem_upperFirst follow)) ?_
    intro name found
    rw [placed] at found
    cases found
  | some name =>
    constructor
    · intro follow other found
      rw [← Option.some.inj (placed.symm.trans found)]
      -- Neither character has an uppercase form, so each would be in the name.
      have absent : forall c, Text.upperChar c = [c] -> canFollow c = false -> c ∉ name := by
        intro c caseless stops inside
        have reached : c ∈ 'B' :: 'y' :: Text.upperFirst name :=
          List.mem_cons_of_mem _ (List.mem_cons_of_mem _ (mem_upperFirst caseless inside))
        rw [List.all_eq_true.mp follow c reached] at stops
        cases stops
      exact ⟨absent '}' (by decide +kernel) (by decide),
        absent '\n' (by decide +kernel) (by decide)⟩
    · intro whole
      have follow : ∀ c ∈ name, canFollow c = true := by
        rcases mem_params_of_whole member whole placed with param | ⟨other, param, brace⟩
        · exact canFollow_of_mem (params name param)
        · exact absurd (canFollow_of_mem (params other param) '{' brace) (by decide)
      have rest := List.all_eq_true.mpr (canFollow_of_mem_upperFirst follow)
      rw [List.all_cons, List.all_cons, rest]
      decide

/-- A derived name is letters, and then what the segments contribute. -/
theorem exists_ofRoute_eq (named : verb ≠ []) (letters : ∀ c ∈ verb, c.isAlpha = true)
    (route : Text) :
    Exists fun lowered => lowered ≠ [] ∧ (∀ c ∈ lowered, c.isAlpha = true) ∧
      ofRoute verb route = lowered ++ (segments route).flatMap ofSegment := by
  have nonempty : Text.lower verb ≠ [] := mt Text.lower_eq_nil_iff.mp named
  have alphabetic : ∀ c ∈ Text.lower verb, c.isAlpha = true := isAlpha_of_mem_lowerAfter letters
  unfold ofRoute
  split
  · next empty =>
    rw [List.isEmpty_iff.mp empty]
    exact ⟨Text.lower verb, nonempty, alphabetic, (List.append_nil _).symm⟩
  · rcases exists_lowerFirst_append nonempty alphabetic with ⟨lowered, filled, plain, shape⟩
    exact ⟨lowered, filled, plain, shape _⟩

/-- Where the verb has letters only and the parameters are identifiers, the name of a
method without an identifier of its own is an identifier just if each segment of its
route that begins and ends like a placeholder is one. -/
theorem isIdentifier_methodName_iff (named : verb ≠ []) (letters : ∀ c ∈ verb, c.isAlpha = true)
    (params : ∀ name ∈ Route.params route, isIdentifier name = true) :
    isIdentifier (methodName verb route none) = true ↔
      ∀ segment ∈ segments route, Whole segment := by
  rcases exists_ofRoute_eq named letters route with ⟨lowered, nonempty, alphabetic, shape⟩
  change isIdentifier (ofRoute verb route) = true ↔ _
  rw [shape, isIdentifier_append nonempty alphabetic, List.all_flatMap, List.all_eq_true]
  exact forall₂_congr fun segment member => all_ofSegment_iff params member

/-- Placeholders inside a segment, at its end, and behind the query mark. -/
theorem isIdentifier_methodName_of_mixedSegments :
    isIdentifier (methodName "GET".toList
      "/a-\x7bid\x7d.\x7b$b_1\x7d/\x7bc\x7d?q=/\x7bd\x7d\x7de\x7d".toList none) = true :=
  (isIdentifier_methodName_iff (by decide) (List.all_eq_true.mp (by decide)) (by decide)).mpr
    (by decide)

/-- Two placeholders that fill a segment between them leave their braces in the name. -/
theorem methodName_not_always_identifier :
    ¬forall verb route : Text, verb ≠ [] -> (∀ c ∈ verb, c.isAlpha = true) ->
      (∀ name ∈ Route.params route, isIdentifier name = true) ->
      isIdentifier (methodName verb route none) = true := by
  intro always
  have name : methodName "get".toList "/\x7ba\x7d\x7bb\x7d".toList none =
      "getByA\x7d\x7bb".toList := by
    decide +kernel
  have identifier := always "get".toList "/\x7ba\x7d\x7bb\x7d".toList (by decide)
    (List.all_eq_true.mp (by decide)) (by decide)
  rw [name] at identifier
  exact absurd identifier (by decide)

end MethodName
end ApiServices
