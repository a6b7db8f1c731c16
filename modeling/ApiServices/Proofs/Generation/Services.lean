import ApiServices.Proofs.Disk.Places
import ApiServices.Proofs.Text.CaseMapping
import ApiServices.Proofs.Text.Trimming
import ApiServices.Service
import ApiServices.Skeleton

namespace ApiServices

/-!
# Services and their files

A tag can be any text, also one that looks like a path.  The name of a service
keeps no white space, no slash and no punctuation of it but the underscore and
the dollar sign, and always ends in the same word.  So the file of a service is a
child of the directory it is written to, and it is never one of the two files
that a run writes besides.
-/

/-! ## Names of services -/

/-- White space, and the punctuation that means something in a path or in the
fixture file. -/
def isForeign (c : Char) : Bool :=
  Text.isBlank c || ['/', '{', '}', ',', '\'', '"'].contains c

namespace ServiceName

theorem isWordChar_of_isForeign {c : Char} (foreign : isForeign c = true) :
    isWordChar c = false := by
  have separators : (Text.blankChars ++ ['/', '{', '}', ',', '\'', '"']).all (!isWordChar ·) =
      true := by
    decide +kernel
  rw [isForeign, Bool.or_eq_true, List.contains_iff_mem] at foreign
  have among := List.mem_append.mpr (foreign.imp_left Text.mem_blankChars)
  simpa using List.all_eq_true.mp separators c among

section Absence

variable {p : Char -> Bool}

theorem not_of_mem_words (separators : forall c, p c = true -> isWordChar c = false)
    {tag word : Text} (member : word ∈ words tag) : ∀ c ∈ word, p c = false := by
  intro c inside
  have kept := Text.not_of_mem_splitWhere (!isWordChar ·) (List.mem_filter.mp member).1 inside
  apply Bool.eq_false_iff.mpr
  intro held
  rw [separators c held] at kept
  cases kept

theorem not_of_mem_joined (absent : Text.bringsInNo p Text.upperRuns Text.upperExpansions = true)
    {pieces : List Text} (plain : ∀ piece ∈ pieces, ∀ c ∈ piece, p c = false) :
    ∀ c ∈ joined pieces, p c = false := by
  intro c member
  cases pieces with
  | nil => cases member
  | cons first others =>
    rcases List.mem_append.mp member with here | later
    · exact plain first List.mem_cons_self c here
    · rcases List.mem_flatMap.mp later with ⟨piece, among, inside⟩
      exact Text.forall_mem_mapFirst absent
        (plain piece (List.mem_cons_of_mem first among)) c inside

theorem not_of_mem_guarded (fixed : ('_' :: defaultTag).all (!p ·) = true) {text : Text}
    (plain : ∀ c ∈ text, p c = false) : ∀ c ∈ guarded text, p c = false := by
  have own : ∀ c ∈ '_' :: defaultTag, p c = false := by
    simpa using fixed
  cases text with
  | nil => exact fun c member => own c (List.mem_cons_of_mem '_' member)
  | cons d rest =>
    change ∀ c ∈ if Text.isNumeric d then '_' :: d :: rest else d :: rest, p c = false
    split
    · exact List.forall_mem_cons.mpr ⟨own '_' List.mem_cons_self, plain⟩
    · exact plain

end Absence

end ServiceName

/-- What separates the words of a tag and comes with no uppercase form is not in
the name of a service, unless the name has it in its own letters. -/
theorem not_of_mem_serviceName {p : Char -> Bool}
    (separators : forall c, p c = true -> ServiceName.isWordChar c = false)
    (absent : Text.bringsInNo p Text.upperRuns Text.upperExpansions = true)
    (fixed : "_DefaultService".toList.all (!p ·) = true) (tag : Text) :
    ∀ c ∈ serviceName tag, p c = false := by
  have letters : "_DefaultService".toList = ('_' :: defaultTag) ++ "Service".toList := rfl
  rw [letters, List.all_append, Bool.and_eq_true] at fixed
  have stem : ∀ c ∈ ServiceName.stem tag, p c = false :=
    ServiceName.not_of_mem_guarded fixed.1
      (ServiceName.not_of_mem_joined absent fun _ member =>
        ServiceName.not_of_mem_words separators member)
  have ending : ∀ c ∈ "Service".toList, p c = false := by
    simpa using fixed.2
  exact List.forall_mem_append.mpr ⟨stem, ending⟩

theorem notMem_serviceName_of_separator {c : Char} (separator : ServiceName.isWordChar c = false)
    (absent : Text.bringsInNo (· == c) Text.upperRuns Text.upperExpansions = true)
    (fixed : c ∉ "_DefaultService".toList) (tag : Text) : c ∉ serviceName tag := by
  have others : "_DefaultService".toList.all (!(· == c) ·) = true :=
    List.all_eq_true.mpr fun d inside =>
      (Bool.not_eq_true' _).mpr (beq_eq_false_iff_ne.mpr fun same => fixed (same ▸ inside))
  intro member
  have other := not_of_mem_serviceName (p := (· == c))
    (fun d same => beq_iff_eq.mp same ▸ separator) absent others tag c member
  rw [beq_self_eq_true] at other
  cases other

/-- Nothing foreign gets from a tag into the name of its service. -/
theorem isForeign_of_mem_serviceName (tag : Text) : ∀ c ∈ serviceName tag, isForeign c = false :=
  not_of_mem_serviceName (fun _ => ServiceName.isWordChar_of_isForeign) (by decide +kernel)
    (by decide) tag

theorem notMem_serviceName {c : Char} (foreign : isForeign c = true) (tag : Text) :
    c ∉ serviceName tag := by
  intro member
  rw [isForeign_of_mem_serviceName tag c member] at foreign
  cases foreign

/-! ## Names of files -/

/-- The file that the service of a tag is written to. -/
def tagFileName (tag : Text) : Text :=
  serviceFileName (serviceName tag)

theorem tagFileName_eq (tag : Text) :
    tagFileName tag = ServiceName.stem tag ++ "Service.ts".toList := by
  unfold tagFileName serviceFileName serviceName
  simp

theorem tagFileName_ne_of_not_suffix {text : Text} (tag : Text)
    (other : ¬"Service.ts".toList <:+ text) : tagFileName tag ≠ text := by
  intro same
  apply other
  rw [← same, tagFileName_eq]
  exact List.suffix_append _ _

theorem plainName_tagFileName (tag : Text) : Path.PlainName (tagFileName tag) where
  nonempty := tagFileName_ne_of_not_suffix tag (by decide)
  unslashed := by
    intro member
    rcases List.mem_append.mp member with inside | ending
    · exact notMem_serviceName (by decide) tag inside
    · exact absurd ending (by decide)
  notCurrent := tagFileName_ne_of_not_suffix tag (by decide)
  notParent := tagFileName_ne_of_not_suffix tag (by decide)

theorem plainName_fixtureFileName : Path.PlainName fixtureFileName := by
  decide

theorem plainName_skeletonFileName : Path.PlainName skeletonFileName := by
  decide

theorem tagFileName_ne_fixtureFileName (tag : Text) : tagFileName tag ≠ fixtureFileName :=
  tagFileName_ne_of_not_suffix tag (by decide)

theorem tagFileName_ne_skeletonFileName (tag : Text) : tagFileName tag ≠ skeletonFileName :=
  tagFileName_ne_of_not_suffix tag (by decide)

theorem fixtureFileName_ne_skeletonFileName : fixtureFileName ≠ skeletonFileName := by
  decide

/-- Services with different names are written to different files. -/
theorem serviceFileName_injective {first second : Text}
    (same : serviceFileName first = serviceFileName second) : first = second :=
  List.append_cancel_right same

/-! ## Services of groups -/

/-- A computation that goes through a list gives what each element gives. -/
theorem Logged.eq_map_of_mapM {ε α β : Type} {step : α -> Logged ε β} {value : α -> β}
    (steps : forall a b, (step a).outcome = .ok b -> b = value a) {inputs : List α}
    {results : List β} (computed : (inputs.mapM step).outcome = .ok results) :
    results = inputs.map value := by
  induction inputs generalizing results with
  | nil => exact (Except.ok.inj computed).symm
  | cons input rest ih =>
    rw [List.mapM_cons, Logged.outcome_bind] at computed
    cases first : (step input).outcome with
    | error error =>
      rw [first] at computed
      cases computed
    | ok result =>
      rw [first] at computed
      change (rest.mapM step >>= fun others => pure (result :: others)).outcome = _ at computed
      rw [Logged.outcome_bind] at computed
      cases later : (rest.mapM step).outcome with
      | error error =>
        rw [later] at computed
        cases computed
      | ok others =>
        rw [later] at computed
        rw [← Except.ok.inj computed, steps input result first, ih later]
        rfl

theorem Service.eq_ofTag_of_emit {tag : Text} {operations : List Operation} {strict : Bool}
    {service : Service} (emitted : (Service.emit tag operations strict).outcome = .ok service) :
    service = Service.ofTag tag operations := by
  unfold Service.emit at emitted
  rw [Logged.outcome_bind] at emitted
  cases checked : (Service.checkNames (serviceName tag) strict [] operations).outcome with
  | error error =>
    rw [checked] at emitted
    cases emitted
  | ok done =>
    rw [checked] at emitted
    exact (Except.ok.inj emitted).symm

namespace Groups

/-- The services of groups, tag after tag. -/
def allServices (groups : Groups) : List Service :=
  groups.entries.map fun entry => Service.ofTag entry.1 entry.2

/-- Emission that succeeds gives the services of all tags. -/
theorem eq_allServices_of_services {groups : Groups} {strict : Bool} {services : List Service}
    (emitted : (Groups.services groups strict).outcome = .ok services) :
    services = allServices groups :=
  Logged.eq_map_of_mapM (fun _ _ single => Service.eq_ofTag_of_emit single) emitted

theorem map_name_allServices (groups : Groups) :
    groups.allServices.map Service.name = groups.keys.map serviceName := by
  unfold allServices Keyed.keys
  simp only [List.map_map, Function.comp_def, Service.ofTag]

end Groups
end ApiServices
