import TwigRelations.Main
import TwigRelations.Session
import TwigRelations.Logging
import TwigRelations.Proofs.Document.Agreement
import TwigRelations.Proofs.Document.Promptness
import TwigRelations.Proofs.Document.Stability
import TwigRelations.Proofs.Corpus.Duality
import TwigRelations.Proofs.Corpus.Includers
import TwigRelations.Proofs.Batch.Cancellation
import TwigRelations.Proofs.Namespace.Arrangement
import TwigRelations.Proofs.Namespace.Collisions
import TwigRelations.Proofs.Namespace.Consistency
import TwigRelations.Proofs.Label
import TwigRelations.Proofs.Document.Groups
import TwigRelations.Proofs.Namespace.Reordered
import TwigRelations.Proofs.Name.Letters
import TwigRelations.Proofs.Document.Reordered
import TwigRelations.Proofs.Corpus.Reordered
import TwigRelations.Proofs.Name.Folded
import TwigRelations.Proofs.Namespace.Layers
import TwigRelations.Proofs.Document.Controllers
import TwigRelations.Proofs.Corpus.Blank
import TwigRelations.Proofs.Corpus.Conventional
import TwigRelations.Proofs.Name.Canonical
import TwigRelations.Proofs.Corpus.Siblings
import TwigRelations.Proofs.Document.Marks
import TwigRelations.Proofs.Corpus.Respelled
import TwigRelations.Proofs.Descent.Children
import TwigRelations.Proofs.Cli.Agreement
import TwigRelations.Proofs.Corpus.Ancestors
import TwigRelations.Proofs.Label.Directories
import TwigRelations.Proofs.Pass.Settles
import TwigRelations.Proofs.Document.ExistenceCheck
import TwigRelations.Proofs.Name.Runs
import TwigRelations.Proofs.Path.Join
import TwigRelations.Proofs.Convention
import TwigRelations.Proofs.Corpus.Actions
