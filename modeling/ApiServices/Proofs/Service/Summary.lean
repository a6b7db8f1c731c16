import ApiServices.Proofs.Service.Lines
import ApiServices.Summary

namespace ApiServices

/-!
# What a summary shows

A summary is made of the groups and not of the generated code, so nothing forces
the two to agree.  They do: whoever reads the summary knows which services are
generated, and knows the first two lines of each method up to the last
character.  The methods that a summary shows are exactly those of the files, and
both come in the same order.

Names are not required to be unambiguous here.  A summary shows a name that is
taken twice, and then so does the file.
-/

/-! ## Reading summaries -/

namespace Value

/-- A field of a map with text keys. -/
def field? (name : Text) : Value -> Option Value
  | .map entries => (textEntries? entries).bind fun fields => fields.lookup name
  | _ => none

def asText? : Value -> Option Text
  | .text t => some t
  | _ => none

def asBool? : Value -> Option Bool
  | .bool b => some b
  | _ => none

/-- The items of a list, each read in the same way. -/
def asListOf? {α : Type} (read : Value -> Option α) : Value -> Option (List α)
  | .list items => items.mapM read
  | _ => none

/-- A map of fields has the fields that it was made of. -/
theorem field?_ofFields (name : Text) (fields : List (Text × Value)) :
    (ofFields fields).field? name = fields.lookup name := by
  rw [ofFields, field?, textEntries?_map]
  rfl

/-- A list of written items is read as what was written. -/
theorem asListOf?_map {α β : Type} {read : Value -> Option β} {write : α -> Value} {value : α -> β}
    (inverse : forall a, read (write a) = some (value a)) (items : List α) :
    asListOf? read (.list (items.map write)) = some (items.map value) := by
  change (items.map write).mapM read = _
  induction items with
  | nil => rfl
  | cons item rest ih =>
    rw [List.map_cons, List.mapM_cons, inverse, ih]
    rfl

end Value

/-- What a summary shows of a method. -/
structure ShownMethod where
  name : Text
  verb : Text
  route : Text
  params : List Text
  payload : Bool
deriving DecidableEq

namespace ShownMethod

def read? (value : Value) : Option ShownMethod := do
  let name ← (← value.field? "name".toList).asText?
  let verb ← (← value.field? "verb".toList).asText?
  let route ← (← value.field? "route".toList).asText?
  let params ← (← value.field? "path_params".toList).asListOf? Value.asText?
  let payload ← (← value.field? "payload".toList).asBool?
  return ⟨name, verb, route, params, payload⟩

/-- The line that opens a method, by what is shown of it. -/
def signature (method : ShownMethod) : Text :=
  methodMark ++ method.name ++ "(".toList
    ++ Text.joinWith ", ".toList
      (method.params.map (· ++ ": string | number".toList)
        ++ if method.payload then ["data?: any".toList] else [])
    ++ ") \x7b".toList

/-- The line that sends the request, by what is shown of the method. -/
def request (method : ShownMethod) : Text :=
  "    const res = await this.request.".toList ++ Text.lower method.verb ++ "(`".toList
    ++ Route.template method.route ++ "`".toList
    ++ (if method.payload then ", \x7b data \x7d".toList else []) ++ ");".toList

end ShownMethod

/-- What a summary shows of a service. -/
structure ShownService where
  tag : Text
  service : Text
  methods : List ShownMethod
deriving DecidableEq

namespace ShownService

def read? (value : Value) : Option ShownService := do
  let tag ← (← value.field? "tag".toList).asText?
  let service ← (← value.field? "service".toList).asText?
  let methods ← (← value.field? "methods".toList).asListOf? ShownMethod.read?
  return ⟨tag, service, methods⟩

/-- The services that a summary shows. -/
def readAll? (summary : Value) : Option (List ShownService) := do
  (← summary.field? "services".toList).asListOf? read?

end ShownService

/-! ## Summaries of groups -/

/-- What is shown of an operation. -/
def Operation.shown (operation : Operation) : ShownMethod where
  name := operation.methodName
  verb := operation.verb
  route := operation.route
  params := operation.pathParams
  payload := operation.needsPayload

theorem Operation.read?_summary (operation : Operation) :
    ShownMethod.read? operation.summary = some operation.shown := by
  have params : Value.asListOf? Value.asText? (.ofTexts operation.pathParams) =
      some operation.pathParams := by
    have read := Value.asListOf?_map (fun t => (rfl : Value.asText? (.text t) = some t))
      operation.pathParams
    rw [List.map_id'] at read
    exact read
  unfold ShownMethod.read? Operation.summary
  simp only [Value.field?_ofFields]
  change (Value.asListOf? Value.asText? (.ofTexts operation.pathParams)).bind _ = _
  rw [params]
  rfl

/-- What is shown of the service for a tag. -/
def Groups.shownService (tag : Text) (operations : List Operation) : ShownService where
  tag := tag
  service := serviceName tag
  methods := operations.map Operation.shown

theorem Groups.read?_serviceSummary (tag : Text) (operations : List Operation) :
    ShownService.read? (serviceSummary tag operations) = some (shownService tag operations) := by
  unfold ShownService.read? serviceSummary
  simp only [Value.field?_ofFields]
  change (Value.asListOf? ShownMethod.read? (.list (operations.map Operation.summary))).bind _ = _
  rw [Value.asListOf?_map Operation.read?_summary]
  rfl

/-- A summary of groups shows one service per tag, in their order. -/
theorem Groups.readAll?_summary (groups : Groups) :
    ShownService.readAll? groups.summary =
      some (groups.entries.map fun entry => shownService entry.1 entry.2) := by
  unfold ShownService.readAll? summary
  simp only [Value.field?_ofFields]
  exact Value.asListOf?_map (fun entry => read?_serviceSummary entry.1 entry.2) groups.entries

/-! ## Services of groups -/

namespace Logged

variable {ε α β : Type}

theorem outcome_mapM_cons (step : α -> Logged ε β) (input : α) (rest : List α) :
    ((input :: rest).mapM step).outcome =
      (step input).outcome.bind fun result =>
        (rest.mapM step).outcome.map fun results => result :: results := by
  rw [List.mapM_cons, outcome_bind]
  congr 1
  funext result
  rw [outcome_bind]
  cases (rest.mapM step).outcome <;> rfl

/-- A computation that goes through a list succeeds if every step does. -/
theorem outcome_mapM_of_forall {step : α -> Logged ε β} {value : α -> β}
    (steps : forall a, (step a).outcome = .ok (value a)) (inputs : List α) :
    (inputs.mapM step).outcome = .ok (inputs.map value) := by
  induction inputs with
  | nil => rfl
  | cons input rest ih =>
    rw [outcome_mapM_cons, steps, ih]
    rfl

end Logged

/-- Names that are taken are no failure unless they are required to be
unambiguous. -/
theorem Service.outcome_checkNames (service : Text) (taken : List Text)
    (operations : List Operation) :
    (checkNames service false taken operations).outcome = .ok () := by
  induction operations generalizing taken with
  | nil => rfl
  | cons operation rest ih =>
    unfold checkNames
    dsimp only
    split
    · rw [if_neg Bool.false_ne_true, Logged.outcome_bind]
      exact ih _
    · exact ih _

theorem Groups.outcome_services (groups : Groups) :
    (Groups.services groups false).outcome = .ok groups.allServices := by
  refine Logged.outcome_mapM_of_forall (fun entry => ?_) groups.entries
  unfold Service.emit
  rw [Logged.outcome_bind, Service.outcome_checkNames]
  rfl

/-! ## Agreement -/

/-- The services of groups are those of their summary, and the methods in their
files are those that the summary shows. -/
theorem Groups.summary_shows_services {groups : Groups}
    (oneLine : ∀ operation ∈ groups.operations, operation.OneLine) :
    Exists fun shown => Exists fun services =>
      ShownService.readAll? groups.summary = some shown ∧
        (Groups.services groups false).outcome = .ok services ∧
        services.map (fun service =>
            (service.name, methodHeads (Text.splitWhere (· == '\n') service.content))) =
          shown.map fun entry =>
            (entry.service, entry.methods.map fun method =>
              (method.signature, some method.request)) := by
  refine ⟨_, _, groups.readAll?_summary, groups.outcome_services, ?_⟩
  rw [Groups.allServices, List.map_map, List.map_map]
  apply List.map_congr_left
  intro entry member
  have ofEntry : ∀ operation ∈ entry.2, operation.OneLine := by
    intro operation inside
    exact oneLine operation
      (List.mem_flatten.mpr ⟨entry.2, List.mem_map_of_mem member, inside⟩)
  have heads := Service.methodHeads_fileText entry.1 ofEntry
  refine Prod.ext rfl ?_
  change methodHeads (Text.splitWhere (· == '\n') (Service.fileText (serviceName entry.1) entry.2)) =
    (entry.2.map Operation.shown).map fun method => (method.signature, some method.request)
  rw [heads, List.map_map]
  rfl

/-- Operations with a backquote in a route and with a name that is taken twice. -/
def awkwardGroups : Groups :=
  Groups.ofOperations
    [ ⟨"/pet/\x7bid\x7d/`".toList, "POST".toList, none, "pet store".toList, []⟩,
      ⟨"/other".toList, "get".toList, some "postPetById".toList, "pet store".toList, []⟩ ]

theorem Groups.summary_shows_services_of_awkwardGroups :
    Exists fun services =>
      (Groups.services awkwardGroups false).outcome = .ok services ∧
        services.map (fun service =>
            (service.name, methodHeads (Text.splitWhere (· == '\n') service.content))) =
          [ ("petStoreService".toList,
              [ ("  async postPetById(id: string | number, data?: any) \x7b".toList,
                  some "    const res = await this.request.post(`/pet/$\x7bid\x7d/\\``, \x7b data \x7d);".toList),
                ("  async postPetById() \x7b".toList,
                  some "    const res = await this.request.get(`/other`);".toList) ]) ] := by
  have read : ShownService.readAll? awkwardGroups.summary =
      some [⟨"pet store".toList, "petStoreService".toList,
        [ ⟨"postPetById".toList, "POST".toList, "/pet/\x7bid\x7d/`".toList, ["id".toList], true⟩,
          ⟨"postPetById".toList, "get".toList, "/other".toList, [], false⟩ ]⟩] := by
    decide +kernel
  rcases Groups.summary_shows_services (show ∀ operation ∈ awkwardGroups.operations,
    operation.OneLine by decide +kernel) with ⟨shown, services, summary, emitted, same⟩
  rw [read] at summary
  refine ⟨services, emitted, same.trans ?_⟩
  rw [← Option.some.inj summary]
  decide +kernel

end ApiServices
