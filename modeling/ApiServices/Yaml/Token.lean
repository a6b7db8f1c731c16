import ApiServices.Text.Basic

namespace ApiServices
namespace Yaml

/-!
# YAML tokens

The grammar of YAML is stated over tokens in which indentation has already
become explicit: where a block begins and ends there is a token for it, and a
key is announced before it.
-/

inductive ScalarStyle
  | plain
  | singleQuoted
  | doubleQuoted
  | literal
  | folded
deriving DecidableEq

inductive Token
  | versionDirective (major minor : Nat)
  | tagDirective (handle uri : Text)
  | documentStart
  | documentEnd
  | blockListStart
  | blockMapStart
  | blockEnd
  | blockEntry
  | flowListStart
  | flowListEnd
  | flowMapStart
  | flowMapEnd
  | flowEntry
  | key
  | value
  | alias (name : Text)
  | anchor (name : Text)
  | tag (handle suffix : Text)
  | scalar (text : Text) (style : ScalarStyle)
  | streamEnd
deriving DecidableEq

end Yaml
end ApiServices
