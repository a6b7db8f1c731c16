import ApiServices.Proofs.Route.Placeholders

namespace ApiServices

/-!
# What a template literal evaluates to

The template of a route is pasted between backquotes, so what counts is what comes
out when it is read there.  Reading is defined here from the side of the reader: a
backslash makes the next character an ordinary one, a dollar sign with an opening
brace begins an interpolation, which ends at the next closing brace, and a backquote
by itself would end the literal.

For a route on one line whose braces are closed, and whose parameters have no
characters that are escaped, reading gives the route back.  The reader meets dollar
signs and backslashes of the route right before an interpolation, and closing braces
behind one, and takes none of them for a part of it.
-/

/-- What a template literal is made of. -/
inductive TemplatePart
  | character (c : Char)
  | interpolation (name : Text)
deriving DecidableEq

namespace TemplatePart

def interpolation? : TemplatePart -> Option Text
  | .character _ => none
  | .interpolation name => some name

/-- A part as it stands in a route, with an interpolation as a name in braces. -/
def inRoute : TemplatePart -> Text
  | .character c => [c]
  | .interpolation name => '{' :: name ++ ['}']

/-- The part that a piece of a route becomes. -/
def ofPiece : RoutePiece -> TemplatePart
  | .literal c => .character c
  | .placeholder name => .interpolation name

end TemplatePart

namespace TemplateLiteral

/-- Read on, given what has been read of an interpolation that has not ended. -/
def readAfter : Option Text -> Text -> Option (List TemplatePart)
  | none, [] => some []
  | none, '\\' :: c :: rest => (readAfter none rest).map (.character c :: ·)
  | none, ['\\'] => none
  | none, '`' :: _ => none
  | none, '$' :: '{' :: rest => readAfter (some []) rest
  | none, c :: rest => (readAfter none rest).map (.character c :: ·)
  | some _, [] => none
  | some inside, c :: rest =>
    if c = '}' then (readAfter none rest).map (.interpolation inside :: ·)
    else readAfter (some (inside ++ [c])) rest

/-- The parts of the body of a template literal, if it is one. -/
def read? (body : Text) : Option (List TemplatePart) :=
  readAfter none body

theorem readAfter_escape (c : Char) (rest : Text) :
    readAfter none ('\\' :: c :: rest) = (readAfter none rest).map (.character c :: ·) := by
  rw [readAfter]

theorem readAfter_interpolation (rest : Text) :
    readAfter none ('$' :: '{' :: rest) = readAfter (some []) rest := by
  rw [readAfter]

/-- A dollar sign is a character like others where no brace follows it. -/
theorem readAfter_character {c : Char} {rest : Text} (plain : c ≠ '\\' ∧ c ≠ '`')
    (unbraced : c = '$' -> rest.head? ≠ some '{') :
    readAfter none (c :: rest) = (readAfter none rest).map (.character c :: ·) := by
  rw [readAfter.eq_def]
  split
  all_goals simp_all

/-- An interpolation ends at the first closing brace. -/
theorem readAfter_some_append {name : Text} (before rest : Text) (unbraced : '}' ∉ name) :
    readAfter (some before) (name ++ '}' :: rest) =
      (readAfter none rest).map (.interpolation (before ++ name) :: ·) := by
  induction name generalizing before with
  | nil => simp [readAfter]
  | cons c others ih =>
    rw [List.mem_cons, not_or] at unbraced
    rw [List.cons_append, readAfter, if_neg (Ne.symm unbraced.1), ih _ unbraced.2,
      List.append_assoc, List.singleton_append]

end TemplateLiteral

namespace RoutePiece

open TemplateLiteral TemplatePart

theorem escaped_cases (c : Char) :
    escaped c = ['\\', c] ∨ escaped c = [c] ∧ c ≠ '\\' ∧ c ≠ '`' := by
  unfold escaped
  split
  · exact Or.inl rfl
  · next plain =>
    simp only [Bool.or_eq_true, decide_eq_true_eq, not_or] at plain
    exact Or.inr ⟨rfl, plain⟩

theorem flatMap_escaped_of_plain {name : Text} (plain : '\\' ∉ name ∧ '`' ∉ name) :
    name.flatMap escaped = name := by
  have single : ∀ c ∈ name, escaped c = [c] := by
    intro c member
    apply if_neg
    simp only [Bool.or_eq_true, decide_eq_true_eq, not_or]
    exact ⟨fun same => plain.1 (same ▸ member), fun same => plain.2 (same ▸ member)⟩
  rw [List.flatMap_congr single]
  exact List.flatMap_singleton' name

/-- A piece that a template carries: an opening brace is no literal, and a name has
neither a closing brace nor a character that is escaped. -/
def Carried : RoutePiece -> Prop
  | .literal c => c ≠ '{'
  | .placeholder name => '}' ∉ name ∧ '\\' ∉ name ∧ '`' ∉ name

/-- The text of a template does not begin with a brace, so a dollar sign before it
begins no interpolation. -/
theorem head?_template_ne_brace {pieces : List RoutePiece}
    (carried : ∀ piece ∈ pieces, piece.Carried) :
    (pieces.flatMap template).head? ≠ some '{' := by
  cases pieces with
  | nil => simp
  | cons piece rest =>
    have first := carried piece List.mem_cons_self
    cases piece with
    | placeholder name => simp [template]
    | literal c =>
      change c ≠ '{' at first
      rw [List.flatMap_cons, template]
      rcases escaped_cases c with image | ⟨image, _⟩
      · simp [image]
      · simpa [image] using first

/-- Reading the template of a piece, and what follows it. -/
theorem readAfter_template_append {piece : RoutePiece} {rest : Text} (carried : piece.Carried)
    (unbraced : rest.head? ≠ some '{') :
    readAfter none (piece.template ++ rest) = (readAfter none rest).map (ofPiece piece :: ·) := by
  cases piece with
  | literal c =>
    rw [template]
    rcases escaped_cases c with image | ⟨image, plain⟩
    · rw [image]
      exact readAfter_escape c rest
    · rw [image]
      exact readAfter_character plain fun _ => unbraced
  | placeholder name =>
    rcases carried with ⟨ends, plain⟩
    rw [template, flatMap_escaped_of_plain plain]
    simp only [List.cons_append, List.append_assoc, List.nil_append]
    rw [readAfter_interpolation, readAfter_some_append [] rest ends]
    rfl

/-- A template made of pieces that it carries is read as these pieces. -/
theorem read?_flatMap_template {pieces : List RoutePiece}
    (carried : ∀ piece ∈ pieces, piece.Carried) :
    read? (pieces.flatMap template) = some (pieces.map ofPiece) := by
  unfold read?
  induction pieces with
  | nil => rfl
  | cons piece rest ih =>
    have others : ∀ other ∈ rest, other.Carried :=
      fun other member => carried other (List.mem_cons_of_mem piece member)
    rw [List.flatMap_cons, readAfter_template_append (carried piece List.mem_cons_self)
      (head?_template_ne_brace others), ih others]
    rfl

end RoutePiece

/-! ## Escaping before and after -/

namespace RoutePiece

/-- The pieces that a piece is cut into when its spelling is escaped. -/
def escapedPieces : RoutePiece -> List RoutePiece
  | .literal c => (escaped c).map .literal
  | .placeholder name => [.placeholder (name.flatMap escaped)]

/-- A piece in a text that has been escaped already. -/
def interpolated : RoutePiece -> Text
  | .literal c => [c]
  | .placeholder name => '$' :: '{' :: name ++ ['}']

theorem flatMap_interpolated_escapedPieces (piece : RoutePiece) :
    piece.escapedPieces.flatMap interpolated = piece.template := by
  cases piece with
  | literal c =>
    rw [escapedPieces, List.flatMap_map]
    exact List.flatMap_singleton' (escaped c)
  | placeholder name => simp [escapedPieces, interpolated, template]

end RoutePiece

namespace Route

open RoutePiece

theorem piecesAfter_none_escaped_append {c : Char} (rest : Text) (plain : c ≠ '{') :
    piecesAfter none (escaped c ++ rest) = (escaped c).map .literal ++ piecesAfter none rest := by
  rcases escaped_cases c with image | ⟨image, _⟩
  · simp [image, piecesAfter, plain]
  · simp [image, piecesAfter, plain]

theorem piecesAfter_some_escaped_append {c : Char} (inside rest : Text) (unended : c ≠ '}')
    (unbroken : c ≠ '\n') :
    piecesAfter (some inside) (escaped c ++ rest) =
      piecesAfter (some (inside ++ escaped c)) rest := by
  rcases escaped_cases c with image | ⟨image, _⟩
  · simp [image, piecesAfter, unended, unbroken]
  · simp [image, piecesAfter, unended, unbroken]

/-- An escaped text is cut where the text is cut. -/
theorem piecesAfter_flatMap_escaped (opened : Option Text) (text : Text) :
    piecesAfter (opened.map (·.flatMap escaped)) (text.flatMap escaped) =
      (piecesAfter opened text).flatMap escapedPieces := by
  -- The three characters that are looked for are not escaped.
  have brace : escaped '{' = ['{'] := rfl
  have ending : escaped '}' = ['}'] := rfl
  have lineFeed : escaped '\n' = ['\n'] := rfl
  have literals : forall rest : Text,
      (rest.map RoutePiece.literal).flatMap escapedPieces =
        (rest.flatMap escaped).map .literal := by
    intro rest
    rw [List.flatMap_map, List.map_flatMap]
    rfl
  fun_induction piecesAfter opened text with
  | case1 => rfl
  | case2 rest ih =>
    rw [List.flatMap_cons, brace, ← ih]
    rfl
  | case3 c rest plain ih =>
    rw [List.flatMap_cons, List.flatMap_cons, ← ih]
    exact piecesAfter_none_escaped_append _ plain
  | case4 inside =>
    rw [literals, List.flatMap_cons, brace]
    rfl
  | case5 inside rest ih =>
    rw [List.flatMap_cons, List.flatMap_cons, ending, ← ih]
    rfl
  | case6 inside rest unended ih =>
    rw [List.flatMap_cons, List.flatMap_append, lineFeed, ← ih, literals]
    simp [piecesAfter, brace, lineFeed]
  | case7 inside c rest unended unbroken ih =>
    have longer := piecesAfter_some_escaped_append (inside.flatMap escaped) (rest.flatMap escaped)
      unended unbroken
    rw [List.flatMap_cons, Option.map_some, longer, ← ih]
    simp

/-- It makes no difference whether the template is made piece by piece, or the route
is escaped as a whole and its placeholders are replaced afterwards. -/
theorem template_eq_interpolated (route : Text) :
    template route = (pieces (route.flatMap escaped)).flatMap interpolated := by
  have cut := piecesAfter_flatMap_escaped none route
  rw [Option.map_none] at cut
  unfold template pieces
  rw [cut, List.flatMap_assoc]
  simp only [flatMap_interpolated_escapedPieces]

/-! ## Templates of routes -/

open TemplatePart

variable {route : Text}

theorem mem_params_iff {name : Text} : name ∈ params route ↔ .placeholder name ∈ pieces route := by
  unfold params
  rw [List.mem_filterMap]
  constructor
  · rintro ⟨piece, member, named⟩
    cases piece with
    | literal c => cases named
    | placeholder found => exact Option.some.inj named ▸ member
  · exact fun member => ⟨_, member, rfl⟩

theorem carried_of_mem_pieces (unbroken : '\n' ∉ route) (closed : Closed route)
    (plain : ∀ name ∈ params route, '\\' ∉ name ∧ '`' ∉ name) :
    ∀ piece ∈ pieces route, piece.Carried := by
  intro piece member
  cases piece with
  | literal c =>
    intro brace
    exact brace_notMem_piecesAfter unbroken closed (by simp) (brace ▸ member)
  | placeholder name =>
    have ends := unbraced_of_mem_piecesAfter (by simp) member
    exact ⟨ends.1, plain name (mem_params_iff.mpr member)⟩

/-- The template of a route is a template literal.  Its interpolations are the
parameters of the route in their order, and with them put back between braces it
spells the route. -/
theorem template_spells_route (unbroken : '\n' ∉ route) (closed : Closed route)
    (plain : ∀ name ∈ params route, '\\' ∉ name ∧ '`' ∉ name) :
    Exists fun parts =>
      TemplateLiteral.read? (template route) = some parts ∧
        parts.filterMap interpolation? = params route ∧
        parts.flatMap inRoute = route := by
  refine ⟨(pieces route).map ofPiece,
    RoutePiece.read?_flatMap_template (carried_of_mem_pieces unbroken closed plain), ?_, ?_⟩
  · rw [List.filterMap_map]
    unfold params
    congr 1
    funext piece
    cases piece <;> rfl
  · calc
      ((pieces route).map ofPiece).flatMap inRoute =
          (pieces route).flatMap RoutePiece.spelling := by
        rw [List.flatMap_map]
        congr 1
        funext piece
        cases piece <;> rfl
      _ = route := spelling_pieces route

/-- A route with dollar signs, a backslash and a backquote beside its placeholders,
with a doubled brace and with braces that close nothing. -/
def awkwardRoute : Text :=
  "/$\\\x7b\x7ba\x7d\x7d`$$\x7bb$\x7d/\x7b\x7d".toList

theorem template_spells_awkwardRoute :
    Exists fun parts =>
      TemplateLiteral.read? (template awkwardRoute) = some parts ∧
        parts.filterMap interpolation? = ["\x7ba".toList, "b$".toList, []] ∧
        parts.flatMap inRoute = awkwardRoute :=
  template_spells_route (by decide) (by decide) (by decide)

end Route
end ApiServices
