import ApiServices.Proofs.Naming.Identifiers
import ApiServices.Proofs.Text.Lines
import ApiServices.Service
import Mathlib.Data.List.Nodup

namespace ApiServices

/-!
# Names in a method

A method binds names from two sources.  Its path parameters are called as the route
calls them, while the payload and the local constant have names of their own.  The
two sources are not kept apart: a route may well have a parameter with one of the two
fixed names.  Then the name is bound twice, and the method is no program any more.
This is the only way in which it can happen, provided that the route does not use a
name twice itself.

What a method binds is read off its lines.  The reader goes by the punctuation around
the names, so the names must be without it.  Identifiers are, in any script.
-/

/-- What is bound to a name in a method. -/
inductive Binding
  | argument (name : Text)
  | payload (name : Text)
  | constant (name : Text)
deriving DecidableEq

namespace Binding

def name : Binding -> Text
  | .argument name => name
  | .payload name => name
  | .constant name => name

/-- Characters by which the parts of a method are told apart. -/
def isMark (c : Char) : Bool :=
  ['(', ')', ',', ':', '?', ' '].contains c

/-- A text that can be told from what stands around it. -/
def Unmarked (name : Text) : Prop :=
  ∀ c ∈ name, isMark c = false

instance (name : Text) : Decidable (Unmarked name) :=
  inferInstanceAs (Decidable (∀ c ∈ name, isMark c = false))

theorem unmarked_of_isIdentifier {name : Text} (identifier : isIdentifier name = true) :
    Unmarked name := by
  intro c member
  have follows := Identifier.canFollow_of_mem identifier c member
  apply Bool.eq_false_iff.mpr
  intro mark
  have marks : ['(', ')', ',', ':', '?', ' '].all (!Identifier.canFollow ·) = true := by
    decide
  have apart := List.all_eq_true.mp marks c (List.contains_iff_mem.mp mark)
  rw [follows] at apart
  cases apart

theorem Unmarked.notMem {name : Text} (unmarked : Unmarked name) {c : Char} (mark : isMark c = true) :
    c ∉ name := by
  intro member
  rw [unmarked c member] at mark
  cases mark

/-! ## Reading a method -/

/-- What a parameter binds: an argument, or the payload if it may be left out. -/
def ofParameter? (parameter : Text) : Option Binding :=
  let spelled := parameter.dropWhile (· == ' ')
  let name := spelled.takeWhile (!isMark ·)
  match spelled.drop name.length with
  | ':' :: _ => some (.argument name)
  | '?' :: _ => some (.payload name)
  | _ => none

/-- What stands between the last opening parenthesis of a line and the next closing
one. -/
def parameterList (line : Text) : Text :=
  (line.reverse.takeWhile (· != '(')).reverse.takeWhile (· != ')')

/-- What a line of a method binds. -/
def ofLine (line : Text) : List Binding :=
  if "  async ".toList.isPrefixOf line then
    (Text.splitWhere (· == ',') (parameterList line)).filterMap ofParameter?
  else
    match "    const ".toList.isPrefixOf? line with
    | some rest => [.constant (Text.upTo ' ' rest)]
    | none => []

/-- What the lines of a method bind. -/
def scope (lines : List Text) : List Binding :=
  lines.flatMap ofLine

/-- A text before a colon is the name of an argument. -/
theorem ofParameter?_append_colon {name : Text} (unmarked : Unmarked name) (rest : Text) :
    ofParameter? (name ++ ':' :: rest) = some (.argument name) := by
  have spelled : (name ++ ':' :: rest).dropWhile (· == ' ') = name ++ ':' :: rest := by
    cases name with
    | nil => rfl
    | cons c others =>
      have plain : ¬(c == ' ') = true := by
        intro same
        exact unmarked.notMem (c := ' ') (by decide) (beq_iff_eq.mp same ▸ List.mem_cons_self)
      exact List.dropWhile_cons_of_neg plain
  have plain : ∀ c ∈ name, (!isMark c) = true :=
    fun c member => (Bool.not_eq_true' _).mpr (unmarked c member)
  have taken : (name ++ ':' :: rest).takeWhile (!isMark ·) = name := by
    rw [List.takeWhile_append_of_pos plain, List.takeWhile_cons_of_neg (by decide), List.append_nil]
  unfold ofParameter?
  dsimp only
  rw [spelled, taken, List.drop_left]
  rfl

/-- Parameters are told apart by the commas between them. -/
theorem filterMap_splitWhere_joinWith {parameters : List Text}
    (whole : ∀ parameter ∈ parameters, ',' ∉ parameter) :
    (Text.splitWhere (· == ',') (Text.joinWith ", ".toList parameters)).filterMap ofParameter? =
      parameters.filterMap ofParameter? := by
  cases parameters with
  | nil => rfl
  | cons first others =>
    have cut := Text.splitWhere_joinWith_cons (show ',' ∉ [' '] by decide) whole
    change (Text.splitWhere (· == ',') (Text.joinWith [',', ' '] (first :: others))).filterMap _ = _
    rw [cut, List.filterMap_cons, List.filterMap_cons, List.filterMap_map]
    rfl

theorem parameterList_append (before : Text) {inside : Text} (unopened : '(' ∉ inside)
    (unclosed : ')' ∉ inside) :
    parameterList (before ++ '(' :: (inside ++ ") \x7b".toList)) = inside := by
  have behind : (before ++ '(' :: (inside ++ ") \x7b".toList)).reverse =
      (inside ++ ") \x7b".toList).reverse ++ '(' :: before.reverse := by
    simp
  have open? : ∀ c ∈ (inside ++ ") \x7b".toList).reverse, (c != '(') = true := by
    intro c member
    rw [List.mem_reverse, List.mem_append] at member
    apply bne_iff_ne.mpr
    rintro rfl
    exact member.elim unopened (by decide)
  have close? : ∀ c ∈ inside, (c != ')') = true :=
    fun c member => bne_iff_ne.mpr fun same => unclosed (same ▸ member)
  unfold parameterList
  rw [behind, List.takeWhile_append_of_pos open?, List.takeWhile_cons_of_neg (by decide),
    List.append_nil, List.reverse_reverse, List.takeWhile_append_of_pos close?]
  exact List.append_nil inside

/-! ## Referring to a name -/

/-- What a name refers to in a scope: the only binding of this name. -/
def referent? (bindings : List Binding) (name : Text) : Option Binding :=
  match bindings.filter fun binding => binding.name = name with
  | [only] => some only
  | _ => none

variable {bindings : List Binding} {binding other : Binding}

/-- In a scope of different names every name refers to what it is bound to. -/
theorem referent?_of_nodup (distinct : (bindings.map name).Nodup) (member : binding ∈ bindings) :
    referent? bindings binding.name = some binding := by
  obtain ⟨before, after, split⟩ := List.append_of_mem member
  rw [split, List.map_append, List.map_cons, List.nodup_middle, List.nodup_cons] at distinct
  have apart : ∀ other ∈ before ++ after, ¬decide (other.name = binding.name) = true := by
    intro other inside same
    apply distinct.1
    rw [← List.map_append, ← of_decide_eq_true same]
    exact List.mem_map_of_mem inside
  have only : bindings.filter (fun other => other.name = binding.name) = [binding] := by
    rw [split, List.filter_append, List.filter_cons_of_pos (by simp),
      List.filter_eq_nil_iff.mpr fun other inside => apart other (List.mem_append_left _ inside),
      List.filter_eq_nil_iff.mpr fun other inside => apart other (List.mem_append_right _ inside)]
    rfl
  rw [referent?, only]

/-- What a name refers to is the only thing bound to it. -/
theorem eq_of_referent? {name : Text} (found : referent? bindings name = some binding)
    (member : other ∈ bindings) (named : other.name = name) : other = binding := by
  have among : other ∈ bindings.filter fun binding => binding.name = name :=
    List.mem_filter.mpr ⟨member, decide_eq_true named⟩
  unfold referent? at found
  split at found
  · next only shape =>
    rw [shape] at among
    exact (List.mem_singleton.mp among).trans (Option.some.inj found)
  · cases found

end Binding

/-! ## The scope of a method -/

namespace Operation

variable (operation : Operation)

/-- What an operation binds in its method. -/
def bindings : List Binding :=
  operation.pathParams.map .argument
    ++ (if operation.needsPayload then [.payload "data".toList] else [])
    ++ [.constant "res".toList]

/-- Whether the route leaves the names alone that the method has besides. -/
def LeavesFixedNames : Prop :=
  "res".toList ∉ operation.pathParams ∧
    (operation.needsPayload = true -> "data".toList ∉ operation.pathParams)

/-- Whether the names that a request mentions refer to what the caller has given. -/
def RefersToCaller (bindings : List Binding) : Prop :=
  (∀ param ∈ operation.pathParams, Binding.referent? bindings param = some (.argument param)) ∧
    (operation.needsPayload = true ->
      Binding.referent? bindings "data".toList = some (.payload "data".toList))

theorem map_name_bindings :
    operation.bindings.map Binding.name =
      operation.pathParams ++ (if operation.needsPayload then ["data".toList] else []) ++ ["res".toList] := by
  have params : (operation.pathParams.map Binding.argument).map Binding.name = operation.pathParams := by
    rw [List.map_map]
    exact List.map_id _
  unfold bindings
  rw [List.map_append, List.map_append, params]
  cases operation.needsPayload <;> rfl

variable {operation}

theorem nodup_bindings_iff (distinct : operation.pathParams.Nodup) :
    (operation.bindings.map Binding.name).Nodup ↔ operation.LeavesFixedNames := by
  rw [map_name_bindings, LeavesFixedNames, List.append_assoc, List.nodup_append_comm]
  cases operation.needsPayload with
  | false => simp [distinct]
  | true => simp [distinct, and_comm]

theorem refersToCaller_iff (distinct : operation.pathParams.Nodup) :
    operation.RefersToCaller operation.bindings ↔ operation.LeavesFixedNames := by
  have result : Binding.constant "res".toList ∈ operation.bindings :=
    List.mem_append_right _ List.mem_cons_self
  have argument {param : Text} (member : param ∈ operation.pathParams) :
      Binding.argument param ∈ operation.bindings :=
    List.mem_append_left _ (List.mem_append_left _ (List.mem_map_of_mem member))
  constructor
  · rintro ⟨params, payload⟩
    constructor
    · intro member
      cases Binding.eq_of_referent? (params _ member) result rfl
    · intro carries member
      cases Binding.eq_of_referent? (payload carries) (argument member) rfl
  · intro apart
    have names := (nodup_bindings_iff distinct).mpr apart
    constructor
    · exact fun param member => Binding.referent?_of_nodup names (argument member)
    · intro carries
      have data : Binding.payload "data".toList ∈ operation.bindings := by
        apply List.mem_append_left
        apply List.mem_append_right
        rw [if_pos carries]
        exact List.mem_cons_self
      exact Binding.referent?_of_nodup names data

end Operation

namespace Service

variable {operation : Operation}

open Binding

/-- The parameters of a method bind the path parameters and the payload. -/
theorem filterMap_parameters (unmarked : ∀ param ∈ operation.pathParams, Unmarked param) :
    (parameters operation).filterMap ofParameter? =
      operation.pathParams.map .argument
        ++ if operation.needsPayload then [.payload "data".toList] else [] := by
  unfold parameters
  rw [List.filterMap_append, List.filterMap_map]
  congr 1
  · rw [List.filterMap_eq_map_iff_forall_eq_some]
    intro param member
    exact ofParameter?_append_colon (unmarked param member) _
  · cases operation.needsPayload <;> rfl

theorem notMem_parameters {c : Char} (mark : isMark c = true)
    (unmarked : ∀ param ∈ operation.pathParams, Unmarked param)
    (typing : c ∉ ": string | number".toList) (payload : c ∉ "data?: any".toList) :
    ∀ parameter ∈ parameters operation, c ∉ parameter := by
  intro parameter member
  rcases List.mem_append.mp member with typed | last
  · obtain ⟨param, among, shape⟩ := List.mem_map.mp typed
    rw [← shape, List.mem_append, not_or]
    exact ⟨(unmarked param among).notMem mark, typing⟩
  · split at last
    · rw [List.mem_singleton.mp last]
      exact payload
    · cases last

/-- The lines of a method bind what the operation says. -/
theorem scope_methodLines (unmarked : ∀ param ∈ operation.pathParams, Unmarked param) :
    scope (methodLines operation) = operation.bindings := by
  have opened := Text.notMem_joinWith (show '(' ∉ ", ".toList by decide)
    (notMem_parameters (c := '(') (by decide) unmarked (by decide) (by decide))
  have closed := Text.notMem_joinWith (show ')' ∉ ", ".toList by decide)
    (notMem_parameters (c := ')') (by decide) unmarked (by decide) (by decide))
  have line : signatureLine operation =
      ("  async ".toList ++ operation.methodName) ++
        '(' :: (Text.joinWith ", ".toList (parameters operation) ++ ") \x7b".toList) := by
    unfold signatureLine
    simp only [List.append_assoc]
    rfl
  have marked : "  async ".toList.isPrefixOf (signatureLine operation) = true := by
    rw [List.isPrefixOf_iff_prefix, line, List.append_assoc]
    exact List.prefix_append _ _
  have signature : ofLine (signatureLine operation) =
      operation.pathParams.map .argument
        ++ if operation.needsPayload then [.payload "data".toList] else [] := by
    rw [ofLine, if_pos marked, line, parameterList_append _ opened closed,
      filterMap_splitWhere_joinWith
        (notMem_parameters (c := ',') (by decide) unmarked (by decide) (by decide)),
      filterMap_parameters unmarked]
  have request : ofLine (requestLine operation) = [.constant "res".toList] := by
    unfold requestLine
    simp only [List.append_assoc]
    rfl
  change ofLine [] ++ (ofLine (signatureLine operation) ++ (ofLine (requestLine operation) ++ _)) = _
  rw [signature, request]
  rfl

/-- A method binds its path parameters, the payload if there is one, and the result.
These names are different just where the route leaves the fixed ones alone, and just
there do all names in the request refer to what the caller has given. -/
theorem names_apart_iff (unmarked : ∀ param ∈ operation.pathParams, Unmarked param)
    (distinct : operation.pathParams.Nodup) :
    (scope (methodLines operation)).map Binding.name =
        operation.pathParams ++ (if operation.needsPayload then ["data".toList] else []) ++ ["res".toList] ∧
      (((scope (methodLines operation)).map Binding.name).Nodup ↔ operation.LeavesFixedNames) ∧
      (operation.RefersToCaller (scope (methodLines operation)) ↔ operation.LeavesFixedNames) := by
  rw [scope_methodLines unmarked]
  exact ⟨operation.map_name_bindings, Operation.nodup_bindings_iff distinct,
    Operation.refersToCaller_iff distinct⟩

/-- An operation with the fixed names in its route, but not as parameters. -/
def nestedOperation : Operation :=
  ⟨"/data/\x7bpetId\x7d/res/\x7bData\x7d".toList, "PUT".toList, none, "pet".toList, []⟩

theorem names_apart_iff_of_nestedOperation :
    (∀ param ∈ nestedOperation.pathParams, isIdentifier param = true) ∧
      (scope (methodLines nestedOperation)).map Binding.name =
        ["petId".toList, "Data".toList, "data".toList, "res".toList] ∧
      nestedOperation.RefersToCaller (scope (methodLines nestedOperation)) := by
  have identifiers : ∀ param ∈ nestedOperation.pathParams, isIdentifier param = true := by decide
  have apart : nestedOperation.LeavesFixedNames := by
    unfold Operation.LeavesFixedNames
    decide
  have unmarked : ∀ param ∈ nestedOperation.pathParams, Unmarked param :=
    fun param member => unmarked_of_isIdentifier (identifiers param member)
  obtain ⟨names, _, refers⟩ := names_apart_iff unmarked (by decide)
  exact ⟨identifiers, names, refers.mpr apart⟩

/-- A parameter of the route can have the name of the payload. -/
theorem names_not_always_apart :
    ¬forall operation : Operation, (∀ param ∈ operation.pathParams, isIdentifier param = true) ->
      operation.pathParams.Nodup ->
        ((scope (methodLines operation)).map Binding.name).Nodup := by
  intro always
  have clash := always ⟨"/pets/\x7bdata\x7d".toList, "post".toList, none, "pet".toList, []⟩
    (by decide) (by decide)
  exact absurd clash (by decide +kernel)

end Service
end ApiServices
