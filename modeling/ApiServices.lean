import ApiServices.Main
import ApiServices.Spec.Printer
import ApiServices.Proofs.Text.Lines
import ApiServices.Proofs.Text.CaseMapping
import ApiServices.Proofs.Text.Trimming
import ApiServices.Proofs.Text.LineEnds
import ApiServices.Proofs.Keyed.Insertion
import ApiServices.Proofs.Fixture.ImportLine
import ApiServices.Proofs.Fixture.FileLines
import ApiServices.Proofs.Fixture.Acceptance
import ApiServices.Proofs.Fixture.RoundTrip
import ApiServices.Proofs.Fixture.Runs
import ApiServices.Proofs.Disk.Changes
import ApiServices.Proofs.Disk.Execution
import ApiServices.Proofs.Generation.Services
import ApiServices.Proofs.Generation.Stages
import ApiServices.Proofs.Generation.FixtureUpdate
import ApiServices.Proofs.Generation.Inversion
import ApiServices.Proofs.Generation.Success
import ApiServices.Proofs.Generation.Failure
import ApiServices.Proofs.Groups.Partition
import ApiServices.Proofs.Groups.Identity
import ApiServices.Proofs.Fixture.Spelling
import ApiServices.Proofs.Fixture.Declarations
import ApiServices.Proofs.Fixture.Grammar
import ApiServices.Proofs.Disk.Standing
import ApiServices.Proofs.Disk.Agreement
import ApiServices.Proofs.Disk.Endings
import ApiServices.Proofs.Fixture.Repetition
import ApiServices.Proofs.Generation.Standing
import ApiServices.Proofs.Generation.Repetition
import ApiServices.Proofs.Generation.Overwriting
import ApiServices.Proofs.Service.Lines
import ApiServices.Proofs.Service.Summary
import ApiServices.Proofs.Keyed.Order
import ApiServices.Proofs.Fixture.Merging
import ApiServices.Proofs.Fixture.Fields
import ApiServices.Proofs.Disk.Sharing
import ApiServices.Proofs.Generation.Protocol
import ApiServices.Proofs.Generation.Coordination
import ApiServices.Proofs.Generation.Concurrency
import ApiServices.Proofs.Document.Comparing
import ApiServices.Proofs.Document.Reading
import ApiServices.Proofs.Spec.Details
import ApiServices.Proofs.Spec.Paths
import ApiServices.Proofs.Document.Soundness
import ApiServices.Proofs.Document.Records
import ApiServices.Proofs.Json.Soundness
import ApiServices.Proofs.Yaml.Soundness
import ApiServices.Proofs.Spec.Verdict
import ApiServices.Proofs.Spec.Acceptance
import ApiServices.Proofs.Route.Placeholders
import ApiServices.Proofs.Route.Template
import ApiServices.Proofs.Naming.Identifiers
import ApiServices.Proofs.Naming.ByWord
import ApiServices.Proofs.Path.Between
import ApiServices.Proofs.Keyed.Totals
import ApiServices.Proofs.Command.Validation
import ApiServices.Proofs.Service.Collisions
import ApiServices.Proofs.Service.Scope
import ApiServices.Proofs.Document.Fields
import ApiServices.Proofs.Spec.Objects
import ApiServices.Proofs.Json.RoundTrip
import ApiServices.Proofs.Spec.RoundTrip
import ApiServices.Proofs.Text.Runs
import ApiServices.Proofs.Text.Numerals
import ApiServices.Proofs.Naming.Composition
import ApiServices.Proofs.Naming.Stems
import ApiServices.Proofs.Naming.Accents
import ApiServices.Proofs.Binary64.WholeNumbers
import ApiServices.Proofs.Document.WholeNumbers
import ApiServices.Proofs.Json.Numerals
import ApiServices.Proofs.Yaml.Numerals
import ApiServices.Proofs.Spec.Numerals
