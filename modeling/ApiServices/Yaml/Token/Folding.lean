import ApiServices.Yaml.Cursor

namespace ApiServices
namespace Yaml

/-!
# Line folding

Between two words of a scalar that is written over several lines, a single
line break counts as a space, and further line breaks count as themselves.
White space around line breaks counts for nothing.
-/

/-- White space that waits for the word after it. -/
structure Gap where
  /-- Spaces and tabs, as long as there is no line break. -/
  spaces : Text
  /-- Whether there was a line break. -/
  broken : Bool
  /-- The first line break. -/
  first : Text
  /-- The line breaks after the first. -/
  others : Text

namespace Gap

def none : Gap :=
  ⟨[], false, [], []⟩

/-- The gap after a line break that was escaped and counts for nothing. -/
def escaped : Gap :=
  ⟨[], true, [], []⟩

/-- What the gap contributes to the scalar. -/
def folded (gap : Gap) : Text :=
  if !gap.broken then gap.spaces
  else if gap.first = ['\n'] then
    if gap.others.isEmpty then [' '] else gap.others
  else gap.first ++ gap.others

def addSpace (gap : Gap) (c : Char) : Gap :=
  if gap.broken then gap else { gap with spaces := gap.spaces ++ [c] }

def addBreak (gap : Gap) (lineBreak : Text) : Gap :=
  if gap.broken then { gap with others := gap.others ++ lineBreak }
  else { gap with spaces := [], broken := true, first := lineBreak }

/-- Pass over white space and line breaks.  A tab may not stand left of
`indent` on a line that it begins.  No more characters are passed over than
`bound` has; it is the text at the cursor, or a longer one. -/
def read? (indent : Int) (bound : Text) (gap : Gap) (cursor : Cursor) : Option (Gap × Cursor) :=
  match bound with
  | [] => some (gap, cursor)
  | _ :: bound =>
    match cursor.head? with
    | .none => some (gap, cursor)
    | some c =>
      if isSpaceOrTab c then
        if gap.broken && (cursor.column : Int) < indent && c == '\t' then .none
        else read? indent bound (gap.addSpace c) (cursor.advance 1)
      else if isLineBreak c then
        read? indent bound (gap.addBreak cursor.lineBreak) cursor.nextLine
      else some (gap, cursor)

end Gap
end Yaml
end ApiServices
