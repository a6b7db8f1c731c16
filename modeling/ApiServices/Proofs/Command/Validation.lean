import ApiServices.Command.Run
import ApiServices.Proofs.Generation.Success
import ApiServices.Proofs.Groups.Partition
import ApiServices.Proofs.Keyed.Totals
import ApiServices.Proofs.Service.Lines
import Mathlib.Data.Finset.Card
import Mathlib.Data.Finset.SDiff

namespace ApiServices

/-!
# What validation says of a generation

Validation counts the groups of a description and the operations in them.  A
generation writes a file for each name of a service, and different tags may have
the same name; the file is then that of the last of them.  So the two agree
exactly on the descriptions whose tags have names of their own.  On all others
validation promises more services and more operations than there are in the
files.
-/

namespace Groups

/-- Groups under the names of their services, as they stand in files: of the
groups that share a name the last one stays. -/
def byService (groups : Groups) : Groups :=
  Keyed.ofList (groups.entries.map fun entry => (serviceName entry.1, entry.2))

/-- No two tags have the same service. -/
def NamedApart (groups : Groups) : Prop :=
  (groups.keys.map serviceName).Nodup

section Services

variable {groups : Groups}

theorem map_fst_renamed (entries : List (Text × List Operation)) :
    (entries.map fun entry => (serviceName entry.1, entry.2)).map Prod.fst =
      (entries.map Prod.fst).map serviceName := by
  rw [List.map_map, List.map_map]
  rfl

theorem mem_keys_byService {name : Text} :
    name ∈ groups.byService.keys ↔
      Exists fun tag => tag ∈ groups.keys ∧ serviceName tag = name := by
  rw [byService, Keyed.keys_ofList, Keyed.mem_firstKeys, map_fst_renamed]
  exact List.mem_map

/-- What stands under a name comes from the last tag with the name. -/
theorem exists_lastTag {name : Text} {operations : List Operation}
    (member : (name, operations) ∈ groups.byService.entries) :
    Exists fun before => Exists fun tag => Exists fun later =>
      groups.entries = before ++ (tag, operations) :: later ∧ serviceName tag = name ∧
        name ∉ later.map fun entry => serviceName entry.1 := by
  have found := Keyed.get?_of_mem_entries member
  rw [byService, Keyed.get?_ofList] at found
  rcases Keyed.exists_of_lastValue? found with ⟨ahead, behind, split, last⟩
  rcases List.map_eq_append_iff.mp split with ⟨before, rest, whole, _, remaining⟩
  rcases List.map_eq_cons_iff.mp remaining with ⟨⟨tag, own⟩, later, opened, same, renamed⟩
  cases same
  refine ⟨before, tag, later, opened ▸ whole, rfl, ?_⟩
  intro shadowed
  apply last
  rwa [← renamed, List.map_map]

theorem operationCount_eq_total (groups : Groups) :
    operationCount groups = Keyed.total List.length groups.entries :=
  (Keyed.total_length groups.entries).symm

/-- However groups are weighed, no weight is gained by filing them by service. -/
theorem total_byService_le (weight : List Operation -> Nat) (groups : Groups) :
    Keyed.total weight groups.byService.entries ≤ Keyed.total weight groups.entries := by
  rw [← Keyed.total_map_fst serviceName weight groups.entries]
  exact Keyed.total_ofList_le weight _

/-- And none is lost just when every tag has a service of its own, if every group
weighs something. -/
theorem total_byService_eq_iff (weight : List Operation -> Nat)
    (positive : ∀ entry ∈ groups.entries, 0 < weight entry.2) :
    Keyed.total weight groups.byService.entries = Keyed.total weight groups.entries ↔
      groups.NamedApart := by
  rw [← Keyed.total_map_fst serviceName weight groups.entries, NamedApart, Keyed.keys,
    ← map_fst_renamed]
  apply Keyed.total_ofList_eq_iff
  intro entry member
  rcases List.mem_map.mp member with ⟨own, inside, same⟩
  rw [← same]
  exact positive own inside

theorem size_byService_le (groups : Groups) : groups.byService.size ≤ groups.size := by
  have bound := total_byService_le (fun _ => 1) groups
  rwa [Keyed.total_one, Keyed.total_one] at bound

theorem size_byService_eq_iff : groups.byService.size = groups.size ↔ groups.NamedApart := by
  have equality : _ ↔ groups.NamedApart :=
    total_byService_eq_iff (fun _ => 1) fun _ _ => Nat.one_pos
  rwa [Keyed.total_one, Keyed.total_one] at equality

theorem operationCount_byService_le (groups : Groups) :
    operationCount groups.byService ≤ operationCount groups := by
  rw [operationCount_eq_total, operationCount_eq_total]
  exact total_byService_le List.length groups

theorem operationCount_byService_eq_iff (nonempty : ∀ entry ∈ groups.entries, entry.2 ≠ []) :
    operationCount groups.byService = operationCount groups ↔ groups.NamedApart := by
  rw [operationCount_eq_total, operationCount_eq_total]
  apply total_byService_eq_iff
  intro entry member
  exact List.length_pos_iff.mpr (nonempty entry member)

end Services

end Groups

/-! ## The files of a run -/

namespace Generation

/-- The file of a service. -/
def serviceFile (outputDir name : Text) : Place :=
  Path.place outputDir ++ [serviceFileName name]

/-- The different files that a run wrote, apart from the fixture file and the
starter test. -/
def serviceFilesWritten (testsDir : Text) (report : GenerationReport) : Finset Place :=
  (report.written.map Path.place).toFinset \ {fixturePlace testsDir, skeletonPlace testsDir}

/-- What a run leaves that keeps nothing of an earlier fixture file.  Its files
are given as operations under the names of services. -/
structure LeavesFiles (outputDir testsDir extension : Text) (files : Groups) (left : FileTree)
    (report : GenerationReport) : Prop where
  /-- The files written are those of the names. -/
  written : serviceFilesWritten testsDir report =
    (files.keys.map (serviceFile outputDir)).toFinset
  /-- Different names have different files. -/
  number : (serviceFilesWritten testsDir report).card = files.size
  /-- A file has a method for each of its operations. -/
  contents : ∀ entry ∈ files.entries,
    left.get? (serviceFile outputDir entry.1) =
        some (.file (.text (Service.fileText entry.1 entry.2))) ∧
      ((∀ operation ∈ entry.2, operation.OneLine) ->
        (methodHeads (Text.splitWhere (· == '\n')
          (Service.fileText entry.1 entry.2))).length = entry.2.length)
  /-- The fixture file has one entry for each name. -/
  fixture : Exists fun set : FixtureSet =>
    left.get? (fixturePlace testsDir) = some (.file (.text set.render)) ∧
      set.keys = files.keys ∧
        forall name path, set.get? name = some path ->
          path = Path.importPath testsDir outputDir name extension

section Files

variable {outputDir testsDir : Text} {options : GenerationOptions} {groups : Groups}
  {tree left : FileTree} {report : GenerationReport} {place : Place}

theorem serviceFile_injective (outputDir : Text) : Function.Injective (serviceFile outputDir) := by
  intro first second same
  exact serviceFileName_injective (List.singleton_inj.mp (List.append_cancel_left same))

/-- The files of the services are those that are neither the fixture file nor the
starter test. -/
theorem mem_serviceFilesWritten
    (generated : Generated outputDir testsDir options groups tree left report) :
    place ∈ serviceFilesWritten testsDir report ↔
      Exists fun tag => tag ∈ groups.keys ∧ place = serviceFile outputDir (serviceName tag) := by
  rcases generated.written with ⟨started, listed, ending⟩
  unfold serviceFilesWritten
  rw [Finset.mem_sdiff, List.mem_toFinset, Finset.mem_insert, Finset.mem_singleton, not_or, listed,
    List.map_append, List.map_map, List.map_cons, place_fixture, List.mem_append, List.mem_cons]
  constructor
  · rintro ⟨ofService | ofFixture | ofStarter, notFixture, notSkeleton⟩
    · rcases List.mem_map.mp ofService with ⟨tag, known, same⟩
      exact ⟨tag, known, same.symm.trans (generated.children tag known).1⟩
    · exact absurd ofFixture notFixture
    · rcases ending with ⟨none, _⟩ | ⟨one, _⟩
      · rw [none] at ofStarter
        cases ofStarter
      · rw [one, List.map_singleton, List.mem_singleton, place_skeleton] at ofStarter
        exact absurd ofStarter notSkeleton
  · rintro ⟨tag, known, same⟩
    rcases generated.children tag known with ⟨here, notFixture, notSkeleton⟩
    refine ⟨Or.inl (List.mem_map.mpr ⟨tag, known, here.trans same.symm⟩), ?_, ?_⟩
    · exact same ▸ notFixture
    · exact same ▸ notSkeleton

/-- The fixture file of a run that keeps nothing has the entries of the run and
no others. -/
theorem Generated.fixture_anew
    (generated : Generated outputDir testsDir options groups tree left report)
    (anew : options.merge = false) :
    left.get? (fixturePlace testsDir) =
      some (.file (.text (FixtureSet.render (Keyed.ofList (report.services.map fun name =>
        (name, Path.importPath testsDir outputDir name options.importExtension)))))) := by
  rcases generated.fixture with ⟨next, merged, here⟩
  rw [anew, priorText_false, outcome_mergeFixtureFile] at merged
  rw [here, ← Except.ok.inj merged]
  rfl

theorem serviceFilesWritten_eq
    (generated : Generated outputDir testsDir options groups tree left report) :
    serviceFilesWritten testsDir report =
      (groups.byService.keys.map (serviceFile outputDir)).toFinset := by
  ext place
  rw [mem_serviceFilesWritten generated, List.mem_toFinset, List.mem_map]
  constructor
  · rintro ⟨tag, known, same⟩
    exact ⟨serviceName tag, Groups.mem_keys_byService.mpr ⟨tag, known, rfl⟩, same.symm⟩
  · rintro ⟨name, named, same⟩
    rcases Groups.mem_keys_byService.mp named with ⟨tag, known, derived⟩
    exact ⟨tag, known, derived ▸ same.symm⟩

/-- A run that keeps nothing of an earlier fixture file leaves the files of the
groups under the names of their services. -/
theorem Generated.leavesFiles
    (generated : Generated outputDir testsDir options groups tree left report)
    (anew : options.merge = false) :
    LeavesFiles outputDir testsDir options.importExtension groups.byService left report where
  written := serviceFilesWritten_eq generated
  number := by
    have apart := groups.byService.nodup_keys.map (serviceFile_injective outputDir)
    rw [serviceFilesWritten_eq generated, List.toFinset_card_of_nodup apart, List.length_map,
      Keyed.keys, List.length_map]
    rfl
  contents := by
    rintro ⟨name, operations⟩ member
    rcases Groups.exists_lastTag member with ⟨before, tag, later, split, derived, last⟩
    subst derived
    refine ⟨generated.contents before tag operations later split last, ?_⟩
    intro oneLine
    rw [Service.methodHeads_fileText tag oneLine, List.length_map]
  fixture := by
    refine ⟨_, generated.fixture_anew anew, ?_, ?_⟩
    · rw [Groups.byService, Keyed.keys_ofList, Keyed.keys_ofList, Keyed.firstKeys, Keyed.firstKeys,
        Groups.map_fst_renamed, generated.services, List.map_map, Function.comp_def, List.map_id']
      rfl
    · intro name path found
      rw [Keyed.get?_ofList] at found
      rcases Keyed.exists_of_lastValue? found with ⟨before, later, split, _⟩
      have given : (name, path) ∈ report.services.map _ := split ▸ List.mem_append_cons_self
      rcases List.mem_map.mp given with ⟨_, _, same⟩
      cases same
      rfl

/-- So a run that succeeds leaves them. -/
theorem exists_leavesFiles {workingDirectory : Text} {spec : Spec}
    (succeeded : ((generate workingDirectory options spec).run tree).2.outcome = .ok report)
    (anew : options.merge = false) :
    Exists fun outputDir => Exists fun testsDir =>
      Path.absolute? workingDirectory options.outputDir = some outputDir ∧
        Path.absolute? workingDirectory options.testsDir = some testsDir ∧
        LeavesFiles outputDir testsDir options.importExtension spec.groups.byService
          ((generate workingDirectory options spec).run tree).1 report := by
  have execution := Execution.run tree (generate workingDirectory options spec)
  rw [succeeded] at execution
  rcases of_generate execution with ⟨_, _, _, impossible, _⟩ |
    ⟨outputDir, testsDir, output, tests, writing⟩
  · cases impossible
  · exact ⟨outputDir, testsDir, output, tests, (generated_of_writeAll writing).leavesFiles anew⟩

end Files

end Generation

/-! ## Validation -/

namespace Command

/-- What validation prints when it counts so many operations and services. -/
def validationText (spec : Spec) (operations services : Nat) : Text :=
  printedLines
    [ validLine spec,
      "  Paths: ".toList ++ Text.ofNat spec.paths.size,
      "  Operations: ".toList ++ Text.ofNat operations,
      "  Services: ".toList ++ Text.ofNat services,
      "Validation successful.".toList ]

section Validation

variable {described tree : FileTree} {home workingDirectory : Text} {location : Option Text}
  {options : GenerationOptions} {spec : Spec} {report : GenerationReport}

/-- Validation succeeds on every description that can be read, and counts its
groups and their operations. -/
theorem outcome_validate
    (parsed : ((chosenSpec home location).run described).2.outcome = .ok spec) :
    ((run home (.validate location)).run described).2.outcome =
      .ok ⟨[], validationText spec (Groups.operationCount spec.groups) spec.groups.size⟩ := by
  unfold run runValidate
  rw [Program.run_bind, Program.followedBy, parsed]
  dsimp only
  rw [Program.run_bind, Program.run_ofLogged]
  rfl

/-- What validation counts is at least what a run writes that keeps nothing of
earlier runs.  The services are the files, and the operations are the methods in
them, exactly on the descriptions whose tags have services of their own. -/
theorem validation_agrees_iff
    (parsed : ((chosenSpec home location).run described).2.outcome = .ok spec)
    (anew : options.merge = false)
    (succeeded :
      ((ApiServices.generate workingDirectory options spec).run tree).2.outcome = .ok report) :
    ((run home (.validate location)).run described).2.outcome =
        .ok ⟨[], validationText spec (Groups.operationCount spec.groups) spec.groups.size⟩ ∧
      (Exists fun outputDir => Exists fun testsDir =>
        Path.absolute? workingDirectory options.outputDir = some outputDir ∧
          Path.absolute? workingDirectory options.testsDir = some testsDir ∧
          Generation.LeavesFiles outputDir testsDir options.importExtension spec.groups.byService
            ((ApiServices.generate workingDirectory options spec).run tree).1 report) ∧
      (spec.groups.byService.size ≤ spec.groups.size ∧
        Groups.operationCount spec.groups.byService ≤ Groups.operationCount spec.groups) ∧
      (spec.groups.byService.size = spec.groups.size ↔ spec.groups.NamedApart) ∧
      (Groups.operationCount spec.groups.byService = Groups.operationCount spec.groups ↔
        spec.groups.NamedApart) := by
  have partition := Groups.partition_ofOperations spec.operations
  exact ⟨outcome_validate parsed, Generation.exists_leavesFiles succeeded anew,
    ⟨Groups.size_byService_le _, Groups.operationCount_byService_le _⟩,
    Groups.size_byService_eq_iff, Groups.operationCount_byService_eq_iff partition.nonempty⟩

end Validation

/-- A disk with a description whose two tags have the same service. -/
def collidingTree : FileTree :=
  ⟨Keyed.ofList
    [ (["w".toList], .directory),
      (["w".toList, "api.json".toList],
        .file (.text ("\x7b\"paths\":\x7b".toList
          ++ "\"/a\":\x7b\"get\":\x7b\"tags\":[\"pet store\"]\x7d\x7d,".toList
          ++ "\"/b\":\x7b\"post\":\x7b\"tags\":[\"../pet-store\"]\x7d\x7d\x7d\x7d".toList))) ]⟩

theorem outcome_chosenSpec_collidingTree :
    ((chosenSpec "/w".toList (some "api.json".toList)).run collidingTree).2.outcome =
      .ok Generation.collidingSpec := by
  decide +kernel

/-- Options of a run that keeps nothing of earlier runs. -/
def startingAnew : GenerationOptions :=
  { Generation.oneDirectory with merge := false }

/-- What a run for the description reports; it writes the same file twice. -/
def collidingReport : GenerationReport where
  services := ["petStoreService".toList, "petStoreService".toList]
  written :=
    [ "/w/t/petStoreService.ts".toList, "/w/t/petStoreService.ts".toList,
      "/w/t/../t/base.ts".toList, "/w/t/../t/skeleton-test.ts".toList ]

theorem outcome_generate_collidingTree :
    ((ApiServices.generate "/w".toList startingAnew Generation.collidingSpec).run
        collidingTree).2.outcome = .ok collidingReport := by
  decide +kernel

theorem validation_agrees_iff_of_collidingTree :
    ((run "/w".toList (.validate (some "api.json".toList))).run collidingTree).2.outcome =
        .ok ⟨[], validationText Generation.collidingSpec 2 2⟩ ∧
      (Exists fun outputDir => Exists fun testsDir =>
        Path.absolute? "/w".toList startingAnew.outputDir = some outputDir ∧
          Path.absolute? "/w".toList startingAnew.testsDir = some testsDir ∧
          Generation.LeavesFiles outputDir testsDir ".js".toList
            Generation.collidingSpec.groups.byService
            ((ApiServices.generate "/w".toList startingAnew Generation.collidingSpec).run
              collidingTree).1 collidingReport) ∧
      Generation.collidingSpec.groups.byService.size = 1 ∧
      ¬Generation.collidingSpec.groups.NamedApart := by
  rcases validation_agrees_iff outcome_chosenSpec_collidingTree rfl
    outcome_generate_collidingTree with ⟨printed, leaves, _, services, _⟩
  have one : Generation.collidingSpec.groups.byService.size = 1 := by
    decide +kernel
  have two : Keyed.size Generation.collidingSpec.groups = 2 := by
    decide +kernel
  refine ⟨printed, leaves, one, ?_⟩
  rw [← services, one, two]
  decide

/-- When tags share a service, validation does not count the files and the methods
in them. -/
theorem validation_not_always_in_agreement :
    ¬∀ (described tree : FileTree) (home workingDirectory : Text) (location : Option Text)
        (options : GenerationOptions) (spec : Spec) (report : GenerationReport)
        (outputDir testsDir : Text) (files : Groups),
        ((chosenSpec home location).run described).2.outcome = .ok spec ->
        options.strict = false -> options.merge = false ->
        ((ApiServices.generate workingDirectory options spec).run tree).2.outcome = .ok report ->
        Path.absolute? workingDirectory options.outputDir = some outputDir ->
        Path.absolute? workingDirectory options.testsDir = some testsDir ->
        Generation.LeavesFiles outputDir testsDir options.importExtension files
          ((ApiServices.generate workingDirectory options spec).run tree).1 report ->
        ((run home (.validate location)).run described).2.outcome =
          .ok ⟨[], validationText spec (Groups.operationCount files) files.size⟩ := by
  intro claim
  rcases Generation.exists_leavesFiles outcome_generate_collidingTree rfl with
    ⟨outputDir, testsDir, output, tests, leaves⟩
  have promised := claim _ _ _ _ _ _ _ _ _ _ _ outcome_chosenSpec_collidingTree rfl rfl
    outcome_generate_collidingTree output tests leaves
  rw [outcome_validate outcome_chosenSpec_collidingTree] at promised
  have different : validationText Generation.collidingSpec 2 2 ≠
      validationText Generation.collidingSpec 1 1 := by
    decide +kernel
  exact different (congrArg Printed.err (Except.ok.inj promised))

end Command
end ApiServices
