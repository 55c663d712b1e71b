import Rulebook.Main
import Rulebook.Ruleset.Equality
import Rulebook.Proofs.Challenge.Acceptance
import Rulebook.Proofs.Challenge.MainRules
import Rulebook.Proofs.Challenge.Modes
import Rulebook.Proofs.Challenge.Recording
import Rulebook.Proofs.Description.Canonical
import Rulebook.Proofs.Json.Reading
import Rulebook.Proofs.Challenge.FirstFailure
import Rulebook.Proofs.Challenge.Failures
import Rulebook.Proofs.Challenge.FullRecord
import Rulebook.Proofs.Ruleset.Building
import Rulebook.Proofs.Description.Adding
import Rulebook.Proofs.Description.Recognition
import Rulebook.Proofs.Json.Reordering
import Rulebook.Proofs.Challenge.InStep
import Rulebook.Proofs.Challenge.Tally
import Rulebook.Proofs.Challenge.MemberOrder
import Rulebook.Proofs.Challenge.Depth
import Rulebook.Proofs.Challenge.Mistyped
import Rulebook.Proofs.Description.Levels
import Rulebook.Proofs.Challenge.FormerNames
import Rulebook.Proofs.Ruleset.Export
import Rulebook.Proofs.Challenge.Answers
import Rulebook.Proofs.Challenge.NullSubjects
import Rulebook.Proofs.Ruleset.Revision
import Rulebook.Proofs.Ruleset.Fallbacks
import Rulebook.Proofs.Challenge.Improvement
import Rulebook.Proofs.Challenge.Relaxing
import Rulebook.Proofs.Challenge.Rewording
import Rulebook.Proofs.Challenge.Places
import Rulebook.Proofs.Challenge.Histories
import Rulebook.Proofs.Suite.Independence
import Rulebook.Proofs.Description.KnownNames
import Rulebook.Proofs.Challenge.PrintableLines
import Rulebook.Proofs.Description.Statements
import Rulebook.Proofs.Description.Partition
import Rulebook.Proofs.Description.EntryOrder
import Rulebook.Proofs.Command.FileReports
import Rulebook.Proofs.Json.Locality
import Rulebook.Proofs.Json.FirstValue
import Rulebook.Proofs.Command.FirstValues
import Rulebook.Proofs.Ruleset.Elements
import Rulebook.Proofs.Description.ErrorPlaces
import Rulebook.Proofs.Description.InjectedGuard
import Rulebook.Proofs.Challenge.Indices
import Rulebook.Proofs.Description.Renames
import Rulebook.Proofs.Standard.Bounds
import Rulebook.Proofs.Standard.NumberTexts
import Rulebook.Proofs.Standard.DateTexts
import Rulebook.Proofs.Standard.AsciiTexts
import Rulebook.Proofs.Command.LinesApart
import Rulebook.Proofs.Standard.Base64Texts
import Rulebook.Proofs.Standard.DecimalPlaces
