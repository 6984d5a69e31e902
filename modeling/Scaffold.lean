import Scaffold.Main
import Scaffold.Proofs.Command.Refusal
import Scaffold.Proofs.Model.Damage
import Scaffold.Proofs.Project.Confinement
import Scaffold.Proofs.Project.Dependence
import Scaffold.Proofs.Project.Interruption
import Scaffold.Proofs.Project.Listing
import Scaffold.Proofs.Project.Rendering
import Scaffold.Proofs.Project.Repetition
import Scaffold.Proofs.Settings.Loading
import Scaffold.Proofs.Source.Addition
import Scaffold.Proofs.Source.Calls
import Scaffold.Proofs.Source.Registration
import Scaffold.Proofs.Source.Survey
import Scaffold.Proofs.Command.Storing
import Scaffold.Proofs.Command.Trees
import Scaffold.Proofs.Pattern.Stretches
import Scaffold.Proofs.Source.Entries
import Scaffold.Proofs.Source.Idioms
import Scaffold.Proofs.Source.Lists
import Scaffold.Proofs.Source.Scan
import Scaffold.Proofs.Project.Commented
import Scaffold.Proofs.Project.Tabulation
import Scaffold.Proofs.Source.Clause
import Scaffold.Proofs.Source.Declarations
import Scaffold.Proofs.Source.Documentation
import Scaffold.Proofs.Project.Baseline
import Scaffold.Proofs.Project.Sparing
import Scaffold.Proofs.Source.Manifests
import Scaffold.Proofs.Source.Tables
import Scaffold.Proofs.Path.Location
import Scaffold.Proofs.Command.Reporting
import Scaffold.Proofs.Command.Ordering
import Scaffold.Proofs.Model.Statistics
import Scaffold.Proofs.Text.Flattening
import Scaffold.Proofs.Project.Ownership
import Scaffold.Proofs.Project.Substitution
