import ApiServices.Route
import Mathlib.Data.List.Infix

namespace ApiServices
namespace Route

/-!
# Where the placeholders are

The pieces of a route are found by going through it once, with what has been read
since an opening brace as the only memory.  So each statement here is about a text
and a memory, and goes through the text as the function does.

A placeholder ends at the first closing brace and stays on its line.  An opening
brace remains as a character only where its line has no closing brace left.  And
whatever stands before a text in braces, the text does not get lost: it is a name,
or the end of a longer name that has a brace in it.
-/

/-- Every opening brace has a closing one somewhere behind it. -/
def Closed (text : Text) : Prop :=
  ∀ rest ∈ text.tails, rest.head? = some '{' -> '}' ∈ rest

instance (text : Text) : Decidable (Closed text) :=
  inferInstanceAs (Decidable (∀ rest ∈ text.tails, rest.head? = some '{' -> '}' ∈ rest))

theorem Closed.tail {c : Char} {rest : Text} (closed : Closed (c :: rest)) : Closed rest := by
  intro later member
  apply closed later
  rw [List.tails_cons]
  exact List.mem_cons_of_mem (c :: rest) member

theorem Closed.brace {rest : Text} (closed : Closed ('{' :: rest)) : '}' ∈ rest := by
  have whole : '{' :: rest ∈ ('{' :: rest).tails := by
    rw [List.tails_cons]
    exact List.mem_cons_self
  exact List.mem_of_ne_of_mem (by decide) (closed _ whole rfl)

variable {opened : Option Text} {text name : Text}

/-- The name in a placeholder ends where the placeholder does, and is on one line. -/
theorem unbraced_of_mem_piecesAfter
    (earlier : ∀ inside ∈ opened, '}' ∉ inside ∧ '\n' ∉ inside)
    (member : .placeholder name ∈ piecesAfter opened text) : '}' ∉ name ∧ '\n' ∉ name := by
  fun_induction piecesAfter opened text with
  | case1 => cases member
  | case2 rest ih =>
    refine ih ?_ member
    intro inside same
    rw [← Option.some.inj same]
    exact ⟨List.not_mem_nil, List.not_mem_nil⟩
  | case3 c rest plain ih => exact ih earlier (by simpa using member)
  | case4 inside => simp at member
  | case5 inside rest ih =>
    rcases List.mem_cons.mp member with here | later
    · rw [RoutePiece.placeholder.inj here]
      exact earlier inside rfl
    · exact ih (by simp) later
  | case6 inside rest unended ih => exact ih (by simp) (by simpa using member)
  | case7 inside c rest unended unbroken ih =>
    refine ih ?_ member
    intro longer same
    rcases earlier inside rfl with ⟨unbraced, oneLine⟩
    rw [← Option.some.inj same]
    simp [unbraced, oneLine, Ne.symm unended, Ne.symm unbroken]

/-- On one line, with every opening brace closed, no opening brace is left over. -/
theorem brace_notMem_piecesAfter (unbroken : '\n' ∉ text) (closed : Closed text)
    (ends : opened.isSome -> '}' ∈ text) : .literal '{' ∉ piecesAfter opened text := by
  fun_induction piecesAfter opened text with
  | case1 => exact List.not_mem_nil
  | case2 rest ih =>
    exact ih (fun later => unbroken (List.mem_cons_of_mem _ later)) closed.tail
      fun _ => closed.brace
  | case3 c rest plain ih =>
    have later := ih (fun inside => unbroken (List.mem_cons_of_mem c inside)) closed.tail (by simp)
    simpa [Ne.symm plain] using later
  | case4 inside => cases ends rfl
  | case5 inside rest ih =>
    have later := ih (fun inside => unbroken (List.mem_cons_of_mem _ inside)) closed.tail (by simp)
    simpa using later
  | case6 inside rest unended ih => exact absurd List.mem_cons_self unbroken
  | case7 inside c rest unended _ ih =>
    apply ih (fun later => unbroken (List.mem_cons_of_mem c later)) closed.tail
    exact fun _ => List.mem_of_ne_of_mem (Ne.symm unended) (ends rfl)

/-! ## Texts in braces -/

/-- What has been read since an opening brace, and what follows up to the first
closing brace, is one name. -/
theorem piecesAfter_some_append {inside : Text} (before rest : Text) (unbraced : '}' ∉ inside)
    (oneLine : '\n' ∉ inside) :
    piecesAfter (some before) (inside ++ '}' :: rest) =
      .placeholder (before ++ inside) :: piecesAfter none rest := by
  induction inside generalizing before with
  | nil => simp [piecesAfter]
  | cons c others ih =>
    rw [List.mem_cons, not_or] at unbraced oneLine
    rw [List.cons_append, piecesAfter, if_neg (Ne.symm unbraced.1), if_neg (Ne.symm oneLine.1),
      ih _ unbraced.2 oneLine.2, List.append_assoc, List.singleton_append]

/-- One character adds pieces to those of the text behind it, and changes the memory. -/
theorem exists_piecesAfter_cons (opened : Option Text) (c : Char) :
    Exists fun found => Exists fun next => forall rest,
      piecesAfter opened (c :: rest) = found ++ piecesAfter next rest := by
  cases opened with
  | none =>
    by_cases brace : c = '{'
    · exact ⟨[], some [], fun rest => by rw [piecesAfter, if_pos brace, List.nil_append]⟩
    · exact ⟨[.literal c], none,
        fun rest => by rw [piecesAfter, if_neg brace, List.singleton_append]⟩
  | some inside =>
    by_cases brace : c = '}'
    · exact ⟨[.placeholder inside], none,
        fun rest => by rw [piecesAfter, if_pos brace, List.singleton_append]⟩
    · by_cases broken : c = '\n'
      · exact ⟨('{' :: inside ++ [c]).map .literal, none,
          fun rest => by rw [piecesAfter, if_neg brace, if_pos broken]⟩
      · exact ⟨[], some (inside ++ [c]),
          fun rest => by rw [piecesAfter, if_neg brace, if_neg broken, List.nil_append]⟩

theorem exists_piecesAfter_append (opened : Option Text) (before : Text) :
    Exists fun found => Exists fun next => forall rest,
      piecesAfter opened (before ++ rest) = found ++ piecesAfter next rest := by
  induction before generalizing opened with
  | nil => exact ⟨[], opened, fun rest => rfl⟩
  | cons c others ih =>
    rcases exists_piecesAfter_cons opened c with ⟨first, middle, step⟩
    rcases ih middle with ⟨found, next, goesOn⟩
    refine ⟨first ++ found, next, fun rest => ?_⟩
    rw [List.cons_append, step, goesOn, List.append_assoc]

/-- A text in braces is a parameter, unless there is one with an opening brace in
its name. -/
theorem mem_params_of_braced {inside : Text} (before after : Text) (unbraced : '}' ∉ inside)
    (oneLine : '\n' ∉ inside) :
    inside ∈ params (before ++ '{' :: inside ++ '}' :: after) ∨
      Exists fun name => name ∈ params (before ++ '{' :: inside ++ '}' :: after) ∧ '{' ∈ name := by
  rcases exists_piecesAfter_append none before with ⟨found, opened, reads⟩
  have cut : pieces (before ++ '{' :: inside ++ '}' :: after) =
      found ++ piecesAfter opened ('{' :: inside ++ '}' :: after) := by
    rw [List.append_assoc]
    exact reads _
  unfold params
  rw [cut, List.filterMap_append, List.cons_append]
  cases opened with
  | none =>
    left
    rw [piecesAfter, if_pos rfl, piecesAfter_some_append [] after unbraced oneLine]
    simp [RoutePiece.name?]
  | some earlier =>
    -- The brace belongs to a placeholder that was opened before.
    right
    rw [piecesAfter, if_neg (by decide), if_neg (by decide),
      piecesAfter_some_append _ after unbraced oneLine]
    exact ⟨earlier ++ ['{'] ++ inside, by simp [RoutePiece.name?], by simp⟩

end Route
end ApiServices
