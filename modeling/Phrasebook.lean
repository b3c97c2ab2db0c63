import Phrasebook.Main
import Phrasebook.Proofs.Code.Agreement
import Phrasebook.Proofs.Code.Arms
import Phrasebook.Proofs.Code.DeadItems
import Phrasebook.Proofs.Code.Files
import Phrasebook.Proofs.Code.Modes
import Phrasebook.Proofs.Contract.Differences
import Phrasebook.Proofs.Contract.Registry
import Phrasebook.Proofs.Definition.Declaring
import Phrasebook.Proofs.Definition.Printing
import Phrasebook.Proofs.Definition.Receiving
import Phrasebook.Proofs.Format.Integer
import Phrasebook.Proofs.Format.Placeholder
import Phrasebook.Proofs.Message.Cycles
import Phrasebook.Proofs.Plan.Errors
import Phrasebook.Proofs.Plan.Needs
import Phrasebook.Proofs.Plan.Progress
import Phrasebook.Proofs.Plan.Reachability
import Phrasebook.Proofs.Preview
import Phrasebook.Proofs.Project.Generating
import Phrasebook.Proofs.Project.Loading
import Phrasebook.Proofs.Text.Compact
