import ApiServices.Proofs.Generation.Services
import ApiServices.Proofs.Text.Lines

namespace ApiServices

/-!
# The lines of a service file

Routes, verbs and identifiers are pasted into the text of a service file as
they are, but for the characters that would end a template literal.  As long as
they have no line feeds, a method has its own lines: the file can be cut at its
line feeds, and the methods of the service are found again by the way in which
their first lines begin.  No other line begins like this, whatever was pasted
into it.
-/

/-! ## Line feeds -/

/-- An operation that stays on one line wherever it is mentioned. -/
structure Operation.OneLine (operation : Operation) : Prop where
  route : '\n' ∉ operation.route
  verb : '\n' ∉ operation.verb
  operationId : ∀ identifier ∈ operation.operationId, '\n' ∉ identifier

instance (operation : Operation) : Decidable operation.OneLine :=
  decidable_of_iff
    ('\n' ∉ operation.route ∧ '\n' ∉ operation.verb ∧
      ∀ identifier ∈ operation.operationId, '\n' ∉ identifier)
    ⟨fun ⟨route, verb, operationId⟩ => ⟨route, verb, operationId⟩,
      fun oneLine => ⟨oneLine.route, oneLine.verb, oneLine.operationId⟩⟩

section LineFeeds

variable {text : Text}

theorem lineFeed_notMem_lower (oneLine : '\n' ∉ text) : '\n' ∉ Text.lower text :=
  Text.notMem_lower (by decide +kernel) (by decide) oneLine

theorem lineFeed_notMem_upperFirst (oneLine : '\n' ∉ text) : '\n' ∉ Text.upperFirst text :=
  Text.notMem_mapFirst (by decide +kernel) oneLine

theorem lineFeed_notMem_ofSegment {segment : Text} (oneLine : '\n' ∉ segment) :
    '\n' ∉ MethodName.ofSegment segment := by
  unfold MethodName.ofSegment
  split
  · next name placed =>
    have part : name ⊆ segment := by
      unfold MethodName.placeholder? at placed
      split at placed
      · next rest =>
        split at placed
        · rw [← Option.some.inj placed]
          exact fun c member => List.mem_cons_of_mem '{' (List.dropLast_subset rest member)
        · cases placed
      · cases placed
    have upper := lineFeed_notMem_upperFirst fun member : '\n' ∈ name => oneLine (part member)
    simp [upper]
  · exact lineFeed_notMem_upperFirst fun member => oneLine (List.mem_filter.mp member).1

theorem lineFeed_notMem_segments {route : Text} (oneLine : '\n' ∉ route) :
    ∀ segment ∈ MethodName.segments route, '\n' ∉ segment := by
  intro segment member inside
  have whole := Text.mem_of_mem_splitWhere (· == '/') (List.mem_filter.mp member).1 inside
  exact oneLine (List.takeWhile_subset _ whole)

theorem lineFeed_notMem_ofRoute {verb route : Text} (verbLine : '\n' ∉ verb)
    (routeLine : '\n' ∉ route) : '\n' ∉ MethodName.ofRoute verb route := by
  have lowered := lineFeed_notMem_lower verbLine
  unfold MethodName.ofRoute
  split
  · exact lowered
  · apply Text.notMem_mapFirst (by decide +kernel)
    intro member
    rcases List.mem_append.mp member with first | later
    · exact lowered first
    · obtain ⟨segment, among, inside⟩ := List.mem_flatMap.mp later
      exact lineFeed_notMem_ofSegment (lineFeed_notMem_segments routeLine segment among) inside

end LineFeeds

/-- Whatever is in a piece of a route is in the route. -/
theorem Route.mem_of_mem_spelling {route : Text} {piece : RoutePiece} {c : Char}
    (member : piece ∈ pieces route) (inside : c ∈ piece.spelling) : c ∈ route := by
  rw [← spelling_pieces route]
  exact List.mem_flatMap.mpr ⟨piece, member, inside⟩

namespace Operation

variable {operation : Operation}

theorem OneLine.methodName (oneLine : operation.OneLine) : '\n' ∉ operation.methodName := by
  unfold Operation.methodName ApiServices.methodName
  split
  · next c rest identified => exact oneLine.operationId (c :: rest) identified
  · exact lineFeed_notMem_ofRoute oneLine.verb oneLine.route

theorem OneLine.pathParams (oneLine : operation.OneLine) :
    ∀ param ∈ operation.pathParams, '\n' ∉ param := by
  intro param member inside
  obtain ⟨piece, among, named⟩ := List.mem_filterMap.mp member
  cases piece with
  | literal c => cases named
  | placeholder name =>
    apply oneLine.route
    apply Route.mem_of_mem_spelling among
    rw [show name = param from Option.some.inj named]
    exact List.mem_cons_of_mem '{' (List.mem_append_left _ inside)

theorem OneLine.template (oneLine : operation.OneLine) :
    '\n' ∉ Route.template operation.route := by
  have escaped : forall c, '\n' ∈ RoutePiece.escaped c -> c = '\n' := by
    intro c member
    unfold RoutePiece.escaped at member
    split at member
    · simpa [eq_comm] using member
    · simpa [eq_comm] using member
  intro member
  obtain ⟨piece, among, inside⟩ := List.mem_flatMap.mp member
  apply oneLine.route
  apply Route.mem_of_mem_spelling among
  cases piece with
  | literal c => simp [RoutePiece.spelling, escaped c inside]
  | placeholder name =>
    have named : '\n' ∈ name.flatMap RoutePiece.escaped := by
      simpa [RoutePiece.template] using inside
    obtain ⟨c, within, same⟩ := List.mem_flatMap.mp named
    simp [RoutePiece.spelling, escaped c same ▸ within]

end Operation

namespace Service

variable {operation : Operation} {operations : List Operation}

theorem lineFeed_notMem_signatureLine (oneLine : operation.OneLine) :
    '\n' ∉ signatureLine operation := by
  have payload : ∀ parameter ∈ if operation.needsPayload then ["data?: any".toList] else [],
      '\n' ∉ parameter := by
    split <;> decide
  have typing : '\n' ∉ ": string | number".toList := by decide
  have parameters : ∀ parameter ∈ parameters operation, '\n' ∉ parameter := by
    intro parameter member
    rcases List.mem_append.mp member with typed | last
    · obtain ⟨param, among, shape⟩ := List.mem_map.mp typed
      rw [← shape, List.mem_append, not_or]
      exact ⟨oneLine.pathParams param among, typing⟩
    · exact payload parameter last
  have joined := Text.notMem_joinWith (show '\n' ∉ ", ".toList by decide) parameters
  have opening : '\n' ∉ "  async ".toList := by decide
  have closing : '\n' ∉ ") \x7b".toList := by decide
  unfold signatureLine
  simp only [List.mem_append, not_or]
  exact ⟨⟨⟨⟨opening, oneLine.methodName⟩, by decide⟩, joined⟩, closing⟩

theorem lineFeed_notMem_requestLine (oneLine : operation.OneLine) :
    '\n' ∉ requestLine operation := by
  have payload : '\n' ∉ if operation.needsPayload then ", \x7b data \x7d".toList else [] := by
    split <;> decide
  have opening : '\n' ∉ "    const res = await this.request.".toList := by decide
  have verb := lineFeed_notMem_lower oneLine.verb
  unfold requestLine
  simp only [List.mem_append, not_or]
  exact ⟨⟨⟨⟨⟨⟨opening, verb⟩, by decide⟩, oneLine.template⟩, by decide⟩, payload⟩, by decide⟩

theorem lineFeed_notMem_methodLines (oneLine : operation.OneLine) :
    ∀ line ∈ methodLines operation, '\n' ∉ line := by
  unfold methodLines
  simp only [List.forall_mem_cons]
  exact ⟨by decide, lineFeed_notMem_signatureLine oneLine, lineFeed_notMem_requestLine oneLine,
    by decide, by decide, by simp⟩

theorem lineFeed_notMem_fileLines (tag : Text)
    (oneLine : ∀ operation ∈ operations, operation.OneLine) :
    ∀ line ∈ fileLines (serviceName tag) operations, '\n' ∉ line := by
  have named : '\n' ∉ serviceName tag := notMem_serviceName (by decide) tag
  intro line member
  simp only [fileLines, List.mem_append] at member
  rcases member with (opening | method) | closing
  · simp only [List.mem_cons, List.not_mem_nil, or_false] at opening
    rcases opening with framework | empty | title | constructor
    · rw [framework]
      decide
    · rw [empty]
      decide
    · rw [title]
      simp [named]
    · rw [constructor]
      decide
  · obtain ⟨operation, among, inside⟩ := List.mem_flatMap.mp method
    exact lineFeed_notMem_methodLines (oneLine operation among) line inside
  · rw [List.mem_singleton.mp closing]
    decide

/-- The text of a service file is cut at its line feeds into its lines. -/
theorem splitWhere_fileText (tag : Text) (oneLine : ∀ operation ∈ operations, operation.OneLine) :
    Text.splitWhere (· == '\n') (fileText (serviceName tag) operations) =
      fileLines (serviceName tag) operations ++ [[]] :=
  Text.splitWhere_flatMap_ended _ (lineFeed_notMem_fileLines tag oneLine)

end Service

/-! ## Methods -/

/-- How the first line of a method begins. -/
def methodMark : Text :=
  "  async ".toList

/-- The first lines of methods among lines, each with the line that follows
it. -/
def methodHeads : List Text -> List (Text × Option Text)
  | [] => []
  | line :: rest =>
    if methodMark.isPrefixOf line then (line, rest.head?) :: methodHeads rest
    else methodHeads rest

theorem methodHeads_append_of_unmarked {block : List Text} (rest : List Text)
    (unmarked : ∀ line ∈ block, methodMark.isPrefixOf line = false) :
    methodHeads (block ++ rest) = methodHeads rest := by
  induction block with
  | nil => rfl
  | cons line others ih =>
    rw [List.cons_append, methodHeads, unmarked line List.mem_cons_self]
    exact ih fun other member => unmarked other (List.mem_cons_of_mem line member)

namespace Service

theorem methodMark_signatureLine (operation : Operation) :
    methodMark.isPrefixOf (signatureLine operation) = true := by
  rw [List.isPrefixOf_iff_prefix]
  unfold signatureLine methodMark
  simp only [List.append_assoc]
  exact List.prefix_append _ _

theorem methodHeads_methodLines_append (operation : Operation) (rest : List Text) :
    methodHeads (methodLines operation ++ rest) =
      (signatureLine operation, some (requestLine operation)) :: methodHeads rest := by
  have ending : methodHeads ([requestLine operation, "    return res;".toList, "  \x7d".toList] ++ rest) =
      methodHeads rest := by
    apply methodHeads_append_of_unmarked
    simp only [List.forall_mem_cons]
    exact ⟨rfl, rfl, rfl, by simp⟩
  rw [← ending]
  change methodHeads ([] :: signatureLine operation :: _) = _
  rw [methodHeads, if_neg (by decide), methodHeads, methodMark_signatureLine, if_pos rfl]
  rfl

theorem methodHeads_flatMap_methodLines_append (operations : List Operation) (rest : List Text) :
    methodHeads (operations.flatMap methodLines ++ rest) =
      operations.map (fun operation =>
        (signatureLine operation, some (requestLine operation))) ++ methodHeads rest := by
  induction operations with
  | nil => rfl
  | cons operation others ih =>
    rw [List.flatMap_cons, List.append_assoc, methodHeads_methodLines_append, ih]
    rfl

/-- A service file has the methods of its operations, in their order, and no
others. -/
theorem methodHeads_fileText {operations : List Operation} (tag : Text)
    (oneLine : ∀ operation ∈ operations, operation.OneLine) :
    methodHeads (Text.splitWhere (· == '\n') (fileText (serviceName tag) operations)) =
      operations.map fun operation => (signatureLine operation, some (requestLine operation)) := by
  rw [splitWhere_fileText tag oneLine]
  unfold fileLines
  rw [List.append_assoc, List.append_assoc, methodHeads_append_of_unmarked,
    methodHeads_flatMap_methodLines_append]
  · exact List.append_nil _
  · simp only [List.forall_mem_cons]
    exact ⟨rfl, rfl, rfl, rfl, by simp⟩

end Service
end ApiServices
