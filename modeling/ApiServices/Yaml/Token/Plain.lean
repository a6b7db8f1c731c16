import ApiServices.Yaml.Token.Folding

namespace ApiServices
namespace Yaml

/-!
# Plain scalars

A plain scalar ends where something else is bound to begin: at a comment, at
a colon with white space behind it, at the marker of a document, at a line
that is not indented enough, and inside brackets also at a comma or a bracket.
-/

namespace Plain

def flowIndicators : Text :=
  ",[]\x7b\x7d".toList

/-- Read characters without white space up to the end of the scalar.  Inside
brackets a colon may not stand before an indicator. -/
def word? (inFlow : Bool) : Text -> Option Text
  | [] => some []
  | c :: rest =>
    if endsWord (some c) then some []
    else if inFlow && c == ':' && rest.head?.any (('?' :: flowIndicators).contains ·) then none
    else if c == ':' && endsWord rest.head? then some []
    else if inFlow && flowIndicators.contains c then some []
    else (word? inFlow rest).map (c :: ·)

/-- What has been read of a scalar. -/
structure Progress where
  text : Text
  gap : Gap
  cursor : Cursor

/-- Read on, word after word, until the scalar ends.  There are no more words
than `bound` has characters; it is the text at the beginning of the scalar. -/
def words? (inFlow : Bool) (indent : Int) (bound : Text) (progress : Progress) :
    Option Progress :=
  match bound with
  | [] => some progress
  | _ :: bound =>
    let cursor := progress.cursor
    if cursor.isAtDocumentMarker || cursor.isAt '#' then some progress
    else do
      let word ← word? inFlow cursor.rest
      let progress : Progress :=
        if word.isEmpty then progress
        else ⟨progress.text ++ progress.gap.folded ++ word, .none, cursor.advance word.length⟩
      if progress.cursor.rest.isEmpty || !endsWord progress.cursor.head? then some progress
      else
        let (gap, after) ←
          Gap.read? indent progress.cursor.rest progress.gap progress.cursor
        let progress := { progress with gap, cursor := after }
        if !inFlow && (after.column : Int) < indent then some progress
        else words? inFlow indent bound progress

/-- Read a plain scalar.  The last result says whether the scalar reaches over
a line break, after which a key may begin. -/
def scalar? (inFlow : Bool) (indent : Int) (cursor : Cursor) : Option (Text × Cursor × Bool) := do
  let progress ← words? inFlow indent cursor.rest ⟨[], .none, cursor⟩
  some (progress.text, progress.cursor, progress.gap.broken)

end Plain
end Yaml
end ApiServices
