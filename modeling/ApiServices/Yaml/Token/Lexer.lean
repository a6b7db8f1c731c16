import ApiServices.Yaml.Token.Block
import ApiServices.Yaml.Token.Plain
import ApiServices.Yaml.Token.Quoted

namespace ApiServices
namespace Yaml

/-!
# From text to tokens

Indentation turns into tokens here, and so do keys.  A key shows only by the
colon after it, so any token that may begin one is remembered together with
its place among the tokens; when the colon comes, a key token is put in at
that place, and in front of it the beginning of a map if this is its first
key.

A token is settled when nothing can be put in before it any more.  If the text
breaks the rules, the tokens that are not settled are lost with the rest.
-/

/-- A place where a key may turn out to have begun. -/
structure PossibleKey where
  /-- Whether nothing but a key can stand here. -/
  required : Bool
  /-- The number of the token that would be the key. -/
  place : Nat
  index : Nat
  line : Nat
  column : Nat

structure Lexer where
  cursor : Cursor
  /-- The tokens so far, the last one first. -/
  tokens : List Token
  /-- The number of tokens so far. -/
  count : Nat
  /-- The indentation of the current block, and those of the blocks around. -/
  indent : Int
  outerIndents : List Int
  /-- Whether a key may begin here. -/
  keyAllowed : Bool
  /-- The possible key outside all brackets, or in the innermost ones. -/
  possibleKey : Option PossibleKey
  /-- The possible keys around the brackets that are open. -/
  outerKeys : List (Option PossibleKey)

namespace Lexer

def start (text : Text) : Lexer :=
  ⟨.start text, [], 0, -1, [], true, none, []⟩

def inFlow (lexer : Lexer) : Bool :=
  !lexer.outerKeys.isEmpty

def emit (lexer : Lexer) (token : Token) : Lexer :=
  { lexer with tokens := token :: lexer.tokens, count := lexer.count + 1 }

/-- Put a token in before the one that has the given number. -/
def putIn (lexer : Lexer) (place : Nat) (token : Token) : Lexer :=
  let later := lexer.count - place
  { lexer with
    tokens := lexer.tokens.take later ++ token :: lexer.tokens.drop later
    count := lexer.count + 1 }

def moveTo (lexer : Lexer) (cursor : Cursor) : Lexer :=
  { lexer with cursor }

/-- The number of tokens before which nothing can be put in any more. -/
def settledCount (lexer : Lexer) : Nat :=
  let places := (lexer.possibleKey :: lexer.outerKeys).filterMap fun key => key.map (·.place)
  places.foldl min lexer.count

/-- A key has to be on one line and may not be longer than 1024 characters. -/
def isStale (lexer : Lexer) (key : PossibleKey) : Bool :=
  key.line < lexer.cursor.line || key.index + 1024 < lexer.cursor.index

/-- Forget a possible key; it is an error if it was required. -/
def forget? : Option PossibleKey -> Option (Option PossibleKey)
  | some key => if key.required then none else some none
  | none => some none

/-- Forget the possible keys that are too far away by now. -/
def dropStale? (lexer : Lexer) : Option Lexer := do
  let fresh? (key? : Option PossibleKey) : Option (Option PossibleKey) :=
    match key? with
    | some key => if lexer.isStale key then forget? key? else some key?
    | none => some none
  let outerKeys ← lexer.outerKeys.reverse.mapM fresh?
  let possibleKey ← fresh? lexer.possibleKey
  some { lexer with possibleKey, outerKeys := outerKeys.reverse }

/-- Give up on the possible key of the current level. -/
def removeKey? (lexer : Lexer) : Option Lexer := do
  let possibleKey ← forget? lexer.possibleKey
  some { lexer with possibleKey }

/-- Remember that a key may begin with the next token. -/
def saveKey? (lexer : Lexer) : Option Lexer := do
  if lexer.keyAllowed then
    let lexer ← lexer.removeKey?
    let cursor := lexer.cursor
    some { lexer with
      possibleKey := some
        { required := !lexer.inFlow && lexer.indent == (cursor.column : Int)
          place := lexer.count
          index := cursor.index
          line := cursor.line
          column := cursor.column } }
  else some lexer

/-- Close the blocks that are indented further than `column`. -/
def closeBlocks (lexer : Lexer) (column : Int) : Lexer :=
  if lexer.inFlow then lexer else close lexer.outerIndents lexer
where
  close : List Int -> Lexer -> Lexer
    | [], lexer => lexer
    | outer :: others, lexer =>
      if column < lexer.indent then
        close others
          { lexer.emit .blockEnd with
            indent := outer
            outerIndents := others }
      else lexer

/-- Open a block at `column` if it is indented further than the current one;
its token goes to the given place. -/
def openBlock (lexer : Lexer) (column place : Nat) (token : Token) : Lexer :=
  if !lexer.inFlow && lexer.indent < (column : Int) then
    { lexer.putIn place token with
      indent := column
      outerIndents := lexer.indent :: lexer.outerIndents }
  else lexer

/-- Pass over white space, comments and line breaks.  A tab may not stand where
a key may begin, outside of brackets.  No more lines are passed over than
`bound` has characters; it is the text at the cursor. -/
def skipToToken (bound : Text) (lexer : Lexer) : Lexer :=
  match bound with
  | [] => lexer
  | _ :: bound =>
    let isGap (c : Char) : Bool := c == ' ' || ((lexer.inFlow || !lexer.keyAllowed) && c == '\t')
    let cursor := lexer.cursor.advanceWhile isGap
    let cursor := if cursor.isAt '#' then cursor.advanceWhile (!isLineBreak ·) else cursor
    if cursor.head?.any isLineBreak then
      skipToToken bound
        { lexer with
          cursor := cursor.nextLine
          keyAllowed := lexer.keyAllowed || !lexer.inFlow }
    else { lexer with cursor }

/-- Add a token of one or more characters that needs no reading. -/
def indicator (lexer : Lexer) (length : Nat) (token : Token) : Lexer :=
  (lexer.moveTo (lexer.cursor.advance length)).emit token

def streamEnd? (lexer : Lexer) : Option Lexer := do
  let cursor := lexer.cursor
  let atLineStart :=
    if cursor.column = 0 then lexer
    else lexer.moveTo { cursor with line := cursor.line + 1, column := 0 }
  let lexer ← (atLineStart.closeBlocks (-1)).removeKey?
  some (lexer.emit .streamEnd)

def directiveToken? (lexer : Lexer) : Option Lexer := do
  let lexer ← (lexer.closeBlocks (-1)).removeKey?
  let (token, after) ← directive? lexer.cursor
  some ({ lexer with keyAllowed := false }.moveTo after |>.emit token)

def documentMarker? (lexer : Lexer) (token : Token) : Option Lexer := do
  let lexer ← (lexer.closeBlocks (-1)).removeKey?
  some ({ lexer with keyAllowed := false }.indicator 3 token)

def flowStart? (lexer : Lexer) (token : Token) : Option Lexer := do
  let lexer ← lexer.saveKey?
  let inside :=
    { lexer with
      possibleKey := none
      outerKeys := lexer.possibleKey :: lexer.outerKeys
      keyAllowed := true }
  some (inside.indicator 1 token)

def flowEnd? (lexer : Lexer) (token : Token) : Option Lexer := do
  let lexer ← lexer.removeKey?
  let outside :=
    match lexer.outerKeys with
    | [] => lexer
    | possibleKey :: outerKeys => { lexer with possibleKey, outerKeys }
  some ({ outside with keyAllowed := false }.indicator 1 token)

def flowEntry? (lexer : Lexer) : Option Lexer := do
  let lexer ← lexer.removeKey?
  some ({ lexer with keyAllowed := true }.indicator 1 .flowEntry)

def blockEntry? (lexer : Lexer) : Option Lexer := do
  if !lexer.inFlow && !lexer.keyAllowed then none
  let opened := lexer.openBlock lexer.cursor.column lexer.count .blockListStart
  let lexer ← opened.removeKey?
  some ({ lexer with keyAllowed := true }.indicator 1 .blockEntry)

def key? (lexer : Lexer) : Option Lexer := do
  if !lexer.inFlow && !lexer.keyAllowed then none
  let opened := lexer.openBlock lexer.cursor.column lexer.count .blockMapStart
  let lexer ← opened.removeKey?
  some ({ lexer with keyAllowed := !lexer.inFlow }.indicator 1 .key)

/-- A colon: either the possible key is one now, or the key is empty. -/
def value? (lexer : Lexer) : Option Lexer := do
  match lexer.possibleKey with
  | some key =>
    let announced := { lexer.putIn key.place .key with possibleKey := none }
    let opened := announced.openBlock key.column key.place .blockMapStart
    some ({ opened with keyAllowed := false }.indicator 1 .value)
  | none =>
    if !lexer.inFlow && !lexer.keyAllowed then none
    let opened := lexer.openBlock lexer.cursor.column lexer.count .blockMapStart
    some ({ opened with keyAllowed := !lexer.inFlow }.indicator 1 .value)

/-- A token that may be the beginning of a key. -/
def keyStart? (lexer : Lexer) (read : Cursor -> Option (Token × Cursor)) : Option Lexer := do
  let lexer ← lexer.saveKey?
  let (token, after) ← read lexer.cursor
  some ({ lexer with keyAllowed := false }.moveTo after |>.emit token)

def blockScalar? (lexer : Lexer) (style : ScalarStyle) : Option Lexer := do
  let lexer ← lexer.removeKey?
  let (text, after) ← Block.scalar? style lexer.indent lexer.cursor
  some ({ lexer with keyAllowed := true }.moveTo after |>.emit (.scalar text style))

def plainScalar? (lexer : Lexer) : Option Lexer := do
  let lexer ← lexer.saveKey?
  let (text, after, broken) ← Plain.scalar? lexer.inFlow (lexer.indent + 1) lexer.cursor
  some ({ lexer with keyAllowed := broken }.moveTo after |>.emit (.scalar text .plain))

/-- Characters that begin something else than a plain scalar. -/
def indicators : Text :=
  "-?:,[]\x7b\x7d#&*!|>'\"%@`".toList

/-- Whether a plain scalar begins with `c`, followed by `next`. -/
def beginsPlain (inFlow : Bool) (c : Char) (next : Option Char) : Bool :=
  !(endsWord (some c) || indicators.contains c)
    || (c == '-' && !next.any isSpaceOrTab)
    || (!inFlow && (c == '?' || c == ':') && !endsWord next)

/-- Read the next token, at a cursor where one begins. -/
def token? (lexer : Lexer) : Option Lexer :=
  let cursor := lexer.cursor
  let next := cursor.get? 1
  match cursor.head? with
  | none => lexer.streamEnd?
  | some c =>
    if c = '%' && cursor.column = 0 then lexer.directiveToken?
    else if cursor.isAtMarker '-' then lexer.documentMarker? .documentStart
    else if cursor.isAtMarker '.' then lexer.documentMarker? .documentEnd
    else if c = '[' then lexer.flowStart? .flowListStart
    else if c = '{' then lexer.flowStart? .flowMapStart
    else if c = ']' then lexer.flowEnd? .flowListEnd
    else if c = '}' then lexer.flowEnd? .flowMapEnd
    else if c = ',' then lexer.flowEntry?
    else if c = '-' && endsWord next then lexer.blockEntry?
    else if c = '?' && (lexer.inFlow || endsWord next) then lexer.key?
    else if c = ':' && (lexer.inFlow || endsWord next) then lexer.value?
    else if c = '*' then
      lexer.keyStart? fun cursor =>
        (anchorName? cursor).map fun (name, after) => (.alias name, after)
    else if c = '&' then
      lexer.keyStart? fun cursor =>
        (anchorName? cursor).map fun (name, after) => (.anchor name, after)
    else if c = '!' then lexer.keyStart? (tag? lexer.inFlow)
    else if c = '|' && !lexer.inFlow then lexer.blockScalar? .literal
    else if c = '>' && !lexer.inFlow then lexer.blockScalar? .folded
    else if c = '\'' then
      lexer.keyStart? fun cursor =>
        (Quoted.scalar? cursor).map fun (text, after) => (.scalar text .singleQuoted, after)
    else if c = '"' then
      lexer.keyStart? fun cursor =>
        (Quoted.scalar? cursor).map fun (text, after) => (.scalar text .doubleQuoted, after)
    else if beginsPlain lexer.inFlow c next then lexer.plainScalar?
    else none

/-- Go to the next token and read it. -/
def step? (lexer : Lexer) : Option Lexer := do
  let lexer ← (skipToToken lexer.cursor.rest lexer).dropStale?
  let read ← (lexer.closeBlocks lexer.cursor.column).token?
  read.dropStale?

/-- The tokens before which nothing can be put in any more, in their order. -/
def settled (lexer : Lexer) : List Token :=
  lexer.tokens.reverse.take lexer.settledCount

/-- Read tokens to the end of the text, or as far as its tokens are settled.
The number bounds the work; there is at most one step for each character. -/
def run : Nat -> Lexer -> List Token
  | 0, lexer => lexer.settled
  | fuel + 1, lexer =>
    match lexer.step? with
    | none => lexer.settled
    | some next =>
      if next.tokens.head? = some .streamEnd then next.tokens.reverse else run fuel next

end Lexer

/-- The tokens of a text.  A byte order mark at the beginning is passed over.
The last token is the end of the stream if and only if the whole text could
be read. -/
def tokens (text : Text) : List Token :=
  let text := if text.head? = some '\ufeff' then text.drop 1 else text
  if text.all isAllowed then Lexer.run (text.length + 1) (.start text) else []

end Yaml
end ApiServices
