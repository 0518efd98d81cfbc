import Phrasebook.Book.Operation
import Phrasebook.Main
import Phrasebook.Proofs.Book.Failure
import Phrasebook.Proofs.Template.ReadBack
import Phrasebook.Proofs.Book.Effect
import Phrasebook.Proofs.Book.Origin
import Phrasebook.Proofs.Book.Active
import Phrasebook.Proofs.Book.Isolation
import Phrasebook.Proofs.Book.Catalog
import Phrasebook.Proofs.Book.Templates
import Phrasebook.Proofs.Template.FaultPlace
import Phrasebook.Proofs.Tree.Leaves
import Phrasebook.Proofs.Book.Definition
import Phrasebook.Proofs.Book.PhraseCount
import Phrasebook.Proofs.Tree.Subtree
import Phrasebook.Proofs.Book.Namespace
import Phrasebook.Proofs.Report.Mark
import Phrasebook.Proofs.Book.WellFormed
import Phrasebook.Proofs.Template.Writing
import Phrasebook.Proofs.Report.Check
import Phrasebook.Proofs.Book.Registration
import Phrasebook.Proofs.Template.Substitution
import Phrasebook.Proofs.Report.Coverage
import Phrasebook.Proofs.Value.Reading
import Phrasebook.Proofs.Template.Concatenation
import Phrasebook.Proofs.Tree.Visit
import Phrasebook.Proofs.Command.Arguments
import Phrasebook.Proofs.Command.Translation
import Phrasebook.Proofs.Double.Fixed
import Phrasebook.Proofs.Double.FixedText
import Phrasebook.Proofs.Template.UnclosedPlace
import Phrasebook.Proofs.Formatter.Grouping
import Phrasebook.Proofs.Formatter.Layers
import Phrasebook.Proofs.Double.WholeNumbers
import Phrasebook.Proofs.Formatter.WholeNumbers
import Phrasebook.Proofs.Formatter.ZeroWord
import Phrasebook.Proofs.Formatter.WholeFloats
import Phrasebook.Proofs.Formatter.Percent
import Phrasebook.Proofs.Value.HostNumbers
import Phrasebook.Proofs.Value.RoundTrip
import Phrasebook.Proofs.Formatter.Merging
import Phrasebook.Proofs.Formatter.NaturalList
import Phrasebook.Proofs.Text.ByteOrder
import Phrasebook.Proofs.Text.Distance
import Phrasebook.Proofs.Book.Suggestions
import Phrasebook.Proofs.Text.Offset
import Phrasebook.Proofs.Template.FaultOffset
