import ApiServices.Text.Basic

namespace ApiServices

/-!
# Routes

A route is a path of the API with placeholders such as `{petId}` in it.  The
module cuts a route into pieces once, and everything else about placeholders
is read off the pieces: the parameters a request takes, and the body of the
template literal that fills them in.

A placeholder runs from an opening brace to the first closing brace after it.
It does not reach across a line feed: a brace with no closing partner on its
line is an ordinary character.
-/

/-- What a route is made of. -/
inductive RoutePiece
  | literal (c : Char)
  | placeholder (name : Text)
deriving DecidableEq

namespace RoutePiece

/-- The spelling of a piece in the route. -/
def spelling : RoutePiece -> Text
  | .literal c => [c]
  | .placeholder name => '{' :: name ++ ['}']

def name? : RoutePiece -> Option Text
  | .literal _ => none
  | .placeholder name => some name

/-- Characters that would end or disturb a template literal. -/
def escaped (c : Char) : Text :=
  if c = '\\' || c = '`' then ['\\', c] else [c]

/-- The spelling of a piece in a template literal: placeholders become
interpolations. -/
def template : RoutePiece -> Text
  | .literal c => escaped c
  | .placeholder name => '$' :: '{' :: name.flatMap escaped ++ ['}']

end RoutePiece

namespace Route

/-- Pieces of the rest of a route, given what has been read since an opening
brace whose partner has not turned up yet. -/
def piecesAfter : Option Text -> Text -> List RoutePiece
  | none, [] => []
  | none, c :: rest =>
    if c = '{' then piecesAfter (some []) rest else .literal c :: piecesAfter none rest
  | some inside, [] => ('{' :: inside).map .literal
  | some inside, c :: rest =>
    if c = '}' then .placeholder inside :: piecesAfter none rest
    else if c = '\n' then ('{' :: inside ++ [c]).map .literal ++ piecesAfter none rest
    else piecesAfter (some (inside ++ [c])) rest

/-- The pieces of a route, from left to right. -/
def pieces (route : Text) : List RoutePiece :=
  piecesAfter none route

/-- The names in the placeholders of a route, from left to right, each as
often as it occurs. -/
def params (route : Text) : List Text :=
  (pieces route).filterMap RoutePiece.name?

/-- The body of the template literal that evaluates to the route. -/
def template (route : Text) : Text :=
  (pieces route).flatMap RoutePiece.template

theorem spelling_piecesAfter_none_and_some (route : Text) :
    (piecesAfter none route).flatMap RoutePiece.spelling = route ∧
      forall inside, (piecesAfter (some inside) route).flatMap RoutePiece.spelling =
        '{' :: inside ++ route := by
  have literals : forall text : Text,
      (text.map RoutePiece.literal).flatMap RoutePiece.spelling = text := by
    intro text
    induction text with
    | nil => rfl
    | cons c rest ih => simpa [RoutePiece.spelling] using ih
  induction route with
  | nil =>
    refine ⟨rfl, fun inside => ?_⟩
    simpa [piecesAfter] using literals ('{' :: inside)
  | cons c rest ih =>
    obtain ⟨plain, opened⟩ := ih
    constructor
    · unfold piecesAfter
      split
      · next brace => simpa [brace] using opened []
      · simpa [RoutePiece.spelling] using plain
    · intro inside
      unfold piecesAfter
      split
      · next brace => simpa [RoutePiece.spelling, brace] using plain
      · split
        · rw [List.flatMap_append, literals, plain]
          simp
        · rw [opened]
          simp

/-- Nothing of a route is lost in its pieces. -/
theorem spelling_pieces (route : Text) :
    (pieces route).flatMap RoutePiece.spelling = route :=
  (spelling_piecesAfter_none_and_some route).1

end Route
end ApiServices
