import ApiServices.Yaml.Scalar
import ApiServices.Yaml.Token.Lexer

namespace ApiServices
namespace Yaml

/-!
# From tokens to a tree

The grammar of nodes.  Where the tokens break it, or run out before the end of
the stream, the tree is cut; the rest of the tokens is dropped then, so every
part of the tree that is still open is cut as well.

Anchors are numbered.  The number of an anchor is how many different names
came before it, and a name that is used again gets a number of that kind too,
which another name may have already.  The anchor that took a number last has
it.
-/

structure Builder where
  tokens : List Token
  /-- What the handles of tags stand for. -/
  handles : List (Text × Text)
  /-- The numbers of the anchors by their names. -/
  anchors : Keyed Text Nat
  /-- The anchored nodes that have the numbers, counted as they begin. -/
  holders : Keyed Nat Nat
  anchoredCount : Nat
  anchored : List (Nat × Node)

abbrev Build := StateM Builder

namespace Build

def peek : Build (Option Token) := do
  return (← get).tokens.head?

def advance : Build Unit :=
  modify fun builder => { builder with tokens := builder.tokens.tail }

/-- Give up on the rest of the tokens. -/
def cut {α : Type} (result : α) : Build α := do
  modify fun builder => { builder with tokens := [] }
  return result

def nodeOfScalar (tagged : Option Text) (style : ScalarStyle) (text : Text) : Node :=
  .scalar (Schema.readings tagged style text)

/-- The node that stands where nothing is written. -/
def emptyNode : Node :=
  nodeOfScalar none .plain []

/-- Number the anchor of a node that begins. -/
def openAnchor : Option Text -> Build (Option Nat)
  | none => return none
  | some name => do
    let builder ← get
    let number := builder.anchors.size
    set { builder with
      anchors := builder.anchors.insert name number
      holders := builder.holders.insert number builder.anchoredCount
      anchoredCount := builder.anchoredCount + 1 }
    return some builder.anchoredCount

/-- Keep a node that ends, if it is anchored. -/
def closeAnchor (count : Option Nat) (node : Node) : Build Node := do
  match count with
  | none => return node
  | some count =>
    modify fun builder => { builder with anchored := (count, node) :: builder.anchored }
    return node

def takeAnchor : Build (Option Text) := do
  match ← peek with
  | some (.anchor name) =>
    advance
    return some name
  | _ => return none

def takeTag : Build (Option (Text × Text)) := do
  match ← peek with
  | some (.tag handle suffix) =>
    advance
    return some (handle, suffix)
  | _ => return none

/-- The anchor and the tag of a node, in either order. -/
def properties : Build (Option Text × Option (Text × Text)) := do
  match ← takeAnchor with
  | some name => return (some name, ← takeTag)
  | none =>
    match ← takeTag with
    | some tag => return (← takeAnchor, some tag)
    | none => return (none, none)

/-- A tag written out in full; its handle has to be known. -/
def fullTag? (handles : List (Text × Text)) : Option (Text × Text) -> Option (Option Text)
  | none => some none
  | some ([], suffix) => some (some suffix)
  | some (handle, suffix) => (handles.lookup handle).map fun uri => some (uri ++ suffix)

def isMarked (tag : Option Text) : Bool :=
  (tag.getD []).head? == some '!'

/-- Whether nothing is written between a key or a hyphen and this token. -/
def endsBlockPart (inList : Bool) : Token -> Bool
  | .key => !inList
  | .value => !inList
  | .blockEntry => inList
  | .blockEnd => true
  | _ => false

/-- Whether nothing is written between an item of a list without indentation
and this token. -/
def endsLooseItem : Token -> Bool
  | .blockEntry => true
  | .key => true
  | .value => true
  | .blockEnd => true
  | _ => false

/-- Whether nothing is written between a bracket or a comma and this token. -/
def endsFlowPart (close : Token) (token : Token) : Bool :=
  token == .flowEntry || token == close

/-- Read a part with `read` unless the next token shows that it is empty. -/
def orEmpty (isEmpty : Token -> Bool) (read : Build Node) : Build Node := do
  match ← peek with
  | none => cut .cut
  | some token => if isEmpty token then return emptyNode else read

/-- Read the value of a key, if the next token announces one. -/
def valuePart (isEmpty : Token -> Bool) (read : Build Node) : Build Node := do
  match ← peek with
  | none => cut .cut
  | some .value =>
    advance
    orEmpty isEmpty read
  | _ => return emptyNode

mutual

/-- Read a node.  The number bounds the work; the flags say whether block
collections may stand here, and whether a list may do so without being
indented. -/
def node : Nat -> Bool -> Bool -> Build Node
  | 0, _, _ => cut .cut
  | fuel + 1, block, loose => do
    match ← peek with
    | some (.alias name) =>
      match (← get).anchors.get? name with
      | none => cut .cut
      | some number =>
        advance
        return .alias number
    | _ =>
      let (anchor, tag) ← properties
      match fullTag? (← get).handles tag with
      | none => cut .cut
      | some tag => content fuel block loose anchor tag

/-- Read what follows the properties of a node. -/
def content : Nat -> Bool -> Bool -> Option Text -> Option Text -> Build Node
  | 0, _, _, _, _ => cut .cut
  | fuel + 1, block, loose, anchor, tag => do
    match ← peek with
    | some (.scalar text style) =>
      let count ← openAnchor anchor
      advance
      closeAnchor count (nodeOfScalar (if tag = some ['!'] then none else tag) style text)
    | some .flowListStart =>
      let count ← openAnchor anchor
      advance
      closeAnchor count (.list (isMarked tag) (← flowItems fuel true))
    | some .flowMapStart =>
      let count ← openAnchor anchor
      advance
      closeAnchor count (.map (isMarked tag) (← flowEntries fuel true))
    | token =>
      if token = some .blockEntry && loose then
        let count ← openAnchor anchor
        closeAnchor count (.list (isMarked tag) (← looseItems fuel))
      else if token = some .blockListStart && block then
        let count ← openAnchor anchor
        advance
        closeAnchor count (.list (isMarked tag) (← blockItems fuel))
      else if token = some .blockMapStart && block then
        let count ← openAnchor anchor
        advance
        closeAnchor count (.map (isMarked tag) (← blockEntries fuel))
      else if token.isSome && (anchor.isSome || tag.isSome) then
        let count ← openAnchor anchor
        closeAnchor count (nodeOfScalar tag .plain [])
      else cut .cut

/-- Read the items of an indented list. -/
def blockItems : Nat -> Build (List Node)
  | 0 => cut [.cut]
  | fuel + 1 => do
    match ← peek with
    | some .blockEntry =>
      advance
      let item ← orEmpty (endsBlockPart true) (node fuel true false)
      return item :: (← blockItems fuel)
    | some .blockEnd =>
      advance
      return []
    | _ => cut [.cut]

/-- Read the items of a list that is not indented; it has no end of its own. -/
def looseItems : Nat -> Build (List Node)
  | 0 => cut [.cut]
  | fuel + 1 => do
    match ← peek with
    | none => cut [.cut]
    | some .blockEntry =>
      advance
      let item ← orEmpty endsLooseItem (node fuel true false)
      return item :: (← looseItems fuel)
    | some _ => return []

/-- Read the entries of a block map. -/
def blockEntries : Nat -> Build (List (Node × Node))
  | 0 => cut [(.cut, .cut)]
  | fuel + 1 => do
    match ← peek with
    | some .key =>
      advance
      let key ← orEmpty (endsBlockPart false) (node fuel true true)
      let value ← valuePart (endsBlockPart false) (node fuel true true)
      return (key, value) :: (← blockEntries fuel)
    | some .blockEnd =>
      advance
      return []
    | _ => cut [(.cut, .cut)]

/-- Read the items of a list in brackets, each but the first after a comma.
There may be a comma after the last item. -/
def flowItems : Nat -> Bool -> Build (List Node)
  | 0, _ => cut [.cut]
  | fuel + 1, first => do
    let token ← peek
    if token = some .flowListEnd then
      advance
      return []
    else if !first && token ≠ some .flowEntry then cut [.cut]
    else
      if !first then advance
      match ← peek with
      | none => cut [.cut]
      | some .flowListEnd =>
        advance
        return []
      | some .key =>
        advance
        let pair ← flowPair fuel
        return pair :: (← flowItems fuel false)
      | some _ =>
        let item ← node fuel false false
        return item :: (← flowItems fuel false)

/-- Read a map of one entry that stands in a list in brackets.  A token that
shows the key to be empty is passed over with it. -/
def flowPair : Nat -> Build Node
  | 0 => cut .cut
  | fuel + 1 => do
    let key ←
      match ← peek with
      | none => cut .cut
      | some token =>
        if token == .value || endsFlowPart .flowListEnd token then do
          advance
          pure emptyNode
        else node fuel false false
    let value ← valuePart (endsFlowPart .flowListEnd) (node fuel false false)
    match ← peek with
    | none => return .map false [(key, value), (.cut, .cut)]
    | some _ => return .map false [(key, value)]

/-- Read the entries of a map in braces. -/
def flowEntries : Nat -> Bool -> Build (List (Node × Node))
  | 0, _ => cut [(.cut, .cut)]
  | fuel + 1, first => do
    let token ← peek
    if token = some .flowMapEnd then
      advance
      return []
    else if !first && token ≠ some .flowEntry then cut [(.cut, .cut)]
    else
      if !first then advance
      match ← peek with
      | none => cut [(.cut, .cut)]
      | some .flowMapEnd =>
        advance
        return []
      | some .key =>
        advance
        let key ← orEmpty (fun token => token == .value || endsFlowPart .flowMapEnd token)
          (node fuel false false)
        let value ← valuePart (endsFlowPart .flowMapEnd) (node fuel false false)
        return (key, value) :: (← flowEntries fuel false)
      | some _ =>
        let key ← node fuel false false
        let value ← orEmpty (fun _ => true) (pure emptyNode)
        return (key, value) :: (← flowEntries fuel false)

end

/-- Read the directives of a document.  Each may be given once, and only the
two versions of the language that agree on everything here are known. -/
def directives (versionSeen : Bool) (handles : List (Text × Text)) :
    List Token -> Option (List (Text × Text) × List Token)
  | .versionDirective major minor :: rest =>
    if versionSeen || major ≠ 1 || (minor ≠ 1 && minor ≠ 2) then none
    else directives true handles rest
  | .tagDirective handle uri :: rest =>
    if (handles.lookup handle).isSome then none
    else directives versionSeen ((handle, uri) :: handles) rest
  | rest => some (handles, rest)

/-- The handles that need no directive. -/
def defaultHandles : List (Text × Text) :=
  [(['!'], ['!']), (['!', '!'], Schema.tagBase)]

def startsExplicitly : Token -> Bool
  | .versionDirective .. => true
  | .tagDirective .. => true
  | .documentStart => true
  | _ => false

/-- Whether a document is empty because this token follows its start. -/
def endsDocument (token : Token) : Bool :=
  startsExplicitly token || token == .documentEnd || token == .streamEnd

/-- Read the first document of a stream. -/
def root (fuel : Nat) : Build Node := do
  match ← peek with
  | none => cut .cut
  | some .streamEnd => return emptyNode
  | some token =>
    if startsExplicitly token then
      match directives false [] (← get).tokens with
      | some (handles, .documentStart :: rest) =>
        modify fun builder => { builder with tokens := rest, handles := handles ++ defaultHandles }
        orEmpty endsDocument (node fuel true false)
      | _ => cut .cut
    else node fuel true false

end Build

/-- How many collections may stand inside each other in a YAML document. -/
def depthLimit : Nat :=
  128

/-- The document that a YAML text holds: the first of its stream, which has to
be the only one. -/
def documentOf (text : Text) : Document :=
  let tokens := tokens text
  let start : Builder := ⟨tokens, Build.defaultHandles, Keyed.empty, Keyed.empty, 0, []⟩
  let (root, builder) := (Build.root (4 * tokens.length + 4)).run start
  { root
    anchors := builder.holders.entries.filterMap fun (number, count) =>
      (builder.anchored.lookup count).map (number, ·)
    isWhole := builder.tokens.dropWhile (· == .documentEnd) == [.streamEnd]
    depthLimit
    aliasLimit := 100 * root.steps
    listsAreRecords := false }

end Yaml
end ApiServices
