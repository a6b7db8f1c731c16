import ApiServices.Json.Printer
import ApiServices.Yaml.Cursor
import ApiServices.Yaml.Scalar

namespace ApiServices
namespace Yaml

/-!
# Writing YAML

Collections are written as blocks, two columns deeper at each level, except
that the dashes of a list stand in the column of the key they belong to.

A text is written in the plainest style that reads back as the same text.
Texts with line feeds are literal blocks; other texts are plain if they then
still read as texts, and quoted otherwise.  What no other style can show is
written between double quotation marks, with escapes.
-/

/-! ## The style of a text -/

/-- Characters that show as themselves in every style. -/
def isPrintable (c : Char) : Bool :=
  isAllowed c && c != '\t' && c != '\r' && c != '\u0085'

/-- Whether a character that satisfies `p` is followed by one that satisfies `q`. -/
def isFollowed (p q : Char -> Bool) (text : Text) : Bool :=
  (text.zip text.tail).any fun pair => p pair.1 && q pair.2

def isSpace (c : Char) : Bool :=
  c == ' '

/-- Whether an end of a text is a space or a line break. -/
def isOuterSpace (c : Option Char) : Bool :=
  c.any fun c => isSpace c || isLineBreak c

/-- Characters that mean something else than themselves at the beginning of a
scalar. -/
def isIndicator (c : Char) : Bool :=
  "#,[]\x7b\x7d&*!|>'\"%@\x60".toList.contains c

/-- Whether the beginning of a text would be taken for something else. -/
def beginsAsOther (text : Text) : Bool :=
  text.head?.any isIndicator
    || (text.head?.any (fun c => c == '-' || c == '?') && endsWord text[1]?)
    || "---".toList.isPrefixOf text
    || "...".toList.isPrefixOf text

/-- Whether a text holds what ends a key or begins a comment. -/
def holdsOther (text : Text) : Bool :=
  isFollowed (· == ':') (fun c => endsWord (some c)) text
    || text.getLast? == some ':'
    || isFollowed (fun c => endsWord (some c)) (· == '#') text

/-- Whether a text without quotation marks is understood as a text. -/
def readsAsText (text : Text) : Bool :=
  match Schema.plain? text with
  | some (.text _) => !Schema.isPaddedNumeral text
  | _ => false

def mayBePlain (text : Text) : Bool :=
  readsAsText text && text.all (fun c => isPrintable c && !isLineBreak c)
    && !isOuterSpace text.head? && !isOuterSpace text.getLast?
    && !beginsAsOther text && !holdsOther text

def mayBeSingleQuoted (text : Text) : Bool :=
  text.all isPrintable && !isFollowed isLineBreak isSpace text
    && !isFollowed isSpace isLineBreak text

def mayBeLiteral (text : Text) : Bool :=
  text.all isPrintable && !text.getLast?.any isSpace && !isFollowed isSpace isLineBreak text

/-- The style of a text on one line. -/
def lineStyle (text : Text) : ScalarStyle :=
  if mayBePlain text then .plain
  else if mayBeSingleQuoted text then .singleQuoted
  else .doubleQuoted

def styleOf (text : Text) : ScalarStyle :=
  if !text.contains '\n' then lineStyle text
  else if mayBeLiteral text then .literal
  else .doubleQuoted

/-! ## Texts -/

def spaces (n : Nat) : Text :=
  List.replicate n ' '

/-- The escapes that are a letter. -/
def letterEscapes : List (Char × Char) :=
  [ ('\x00', '0'), ('\x07', 'a'), ('\x08', 'b'), ('\t', 't'), ('\n', 'n'), ('\x0b', 'v'),
    ('\x0c', 'f'), ('\r', 'r'), ('\x1b', 'e'), ('"', '"'), ('\\', '\\'), ('\u0085', 'N'),
    ('\u2028', 'L'), ('\u2029', 'P') ]

/-- The last hexadecimal digits of a number. -/
def hexDigits : Nat -> Nat -> Text
  | 0, _ => []
  | width + 1, n => hexDigits width (n / 16) ++ [(Json.hexDigit n).toUpper]

/-- The escape for a character. -/
def escape (c : Char) : Text :=
  match letterEscapes.lookup c with
  | some letter => ['\\', letter]
  | none =>
    if c.toNat < 0x100 then '\\' :: 'x' :: hexDigits 2 c.toNat
    else if c.toNat < 0x10000 then '\\' :: 'u' :: hexDigits 4 c.toNat
    else '\\' :: 'U' :: hexDigits 8 c.toNat

def doubleQuotedChar (c : Char) : Text :=
  if !isPrintable c || isLineBreak c || c = '"' || c = '\\' then escape c else [c]

def doubleQuoted (text : Text) : Text :=
  '"' :: text.flatMap doubleQuotedChar ++ ['"']

/-- The inside of a single-quoted text.  After line breaks the text goes on
at its indentation; `broken` tells whether one has just been written. -/
def singleQuotedInside (indentation : Nat) (broken : Bool) : Text -> Text
  | [] => if broken then spaces indentation else []
  | c :: rest =>
    if isLineBreak c then c :: singleQuotedInside indentation true rest
    else
      (if broken then spaces indentation else []) ++ (if c = '\'' then ['\'', '\''] else [c])
        ++ singleQuotedInside indentation false rest

def singleQuoted (indentation : Nat) (text : Text) : Text :=
  '\'' :: singleQuotedInside indentation false text ++ ['\'']

/-- The lines of a literal block, each at the indentation of the block. -/
def literalLines (indentation : Nat) (broken : Bool) : Text -> Text
  | [] => []
  | c :: rest =>
    if isLineBreak c then c :: literalLines indentation true rest
    else (if broken then spaces indentation else []) ++ c :: literalLines indentation false rest

/-- What is said about a literal block at its head: its indentation, when the
text begins with a space or a line break and so does not show it, and whether
the text ends in no line break at all or in more than one. -/
def literalHints (text : Text) : Text :=
  (if isOuterSpace text.head? then ['2'] else [])
    ++ match text.reverse with
      | [] => ['-']
      | last :: before =>
        if !isLineBreak last then ['-']
        else if before.head?.all isLineBreak then ['+']
        else []

def literal (indentation : Nat) (text : Text) : Text :=
  '|' :: literalHints text ++ '\n' :: literalLines indentation true text

/-- A text that ends its line.  A literal block that ends in a line break has
done so already. -/
def textLine (indentation : Nat) (text : Text) : Text :=
  match styleOf text with
  | .plain => text ++ ['\n']
  | .singleQuoted => singleQuoted indentation text ++ ['\n']
  | .literal =>
    literal indentation text ++ if text.getLast?.any isLineBreak then [] else ['\n']
  | _ => doubleQuoted text ++ ['\n']

/-! ## Values -/

/-- A scalar that ends its line. -/
def scalarLine (indentation : Nat) : Value -> Text
  | .text t => textLine indentation t
  | value => Json.scalar value ++ ['\n']

/-- A key, which has to stand on one line. -/
def keyText : Value -> Text
  | .text t =>
    match if t.any isLineBreak then .doubleQuoted else lineStyle t with
    | .plain => t
    | .singleQuoted => singleQuoted 0 t
    | _ => doubleQuoted t
  | value => Json.scalar value

mutual

/-- A value after a key that begins in a column. -/
def afterKey (column : Nat) : Value -> Text
  | .list [] => " []\n".toList
  | .map [] => " \x7b\x7d\n".toList
  | .list (item :: items) =>
    '\n' :: (blockItems column (item :: items)).flatMap (spaces column ++ ·)
  | .map (entry :: entries) =>
    '\n' :: (blockEntries (column + 2) (entry :: entries)).flatMap (spaces (column + 2) ++ ·)
  | value => ' ' :: scalarLine (column + 2) value

/-- A value after a dash in a column.  The first part of a collection stands
on the line of the dash. -/
def afterDash (column : Nat) : Value -> Text
  | .list [] => " []\n".toList
  | .map [] => " \x7b\x7d\n".toList
  | .list (item :: items) =>
    ' ' :: (spaces (column + 2)).intercalate (blockItems (column + 2) (item :: items))
  | .map (entry :: entries) =>
    ' ' :: (spaces (column + 2)).intercalate (blockEntries (column + 2) (entry :: entries))
  | value => ' ' :: scalarLine (column + 2) value

/-- The items of a list whose dashes stand in a column. -/
def blockItems (column : Nat) : List Value -> List Text
  | [] => []
  | item :: rest => ('-' :: afterDash column item) :: blockItems column rest

/-- The entries of a map whose keys begin in a column. -/
def blockEntries (column : Nat) : List (Value × Value) -> List Text
  | [] => []
  | (key, value) :: rest =>
    (keyText key ++ ':' :: afterKey column value) :: blockEntries column rest

end

/-- A document that holds a value. -/
def document : Value -> Text
  | .list [] => "[]\n".toList
  | .map [] => "\x7b\x7d\n".toList
  | .list (item :: items) => (blockItems 0 (item :: items)).flatten
  | .map (entry :: entries) => (blockEntries 0 (entry :: entries)).flatten
  | value => scalarLine 0 value

end Yaml
end ApiServices
