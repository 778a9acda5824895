import ModuleParts.Assembly
import ModuleParts.Record.Json
import ModuleParts.Source.Decompose
import ModuleParts.Proofs.BoundNames
import ModuleParts.Proofs.Item
import ModuleParts.Proofs.Body
import ModuleParts.Proofs.NodeSpans
import ModuleParts.Proofs.Children
import ModuleParts.Proofs.Concatenation
import ModuleParts.Proofs.NormalForm
import ModuleParts.Proofs.Scope
import ModuleParts.Proofs.Relocation
import ModuleParts.Proofs.Independence
import ModuleParts.Proofs.Metadata
import ModuleParts.Proofs.CommentOrder
import ModuleParts.Proofs.LiftedComments
import ModuleParts.Proofs.TrailingComments
import ModuleParts.Proofs.Positions
import ModuleParts.Proofs.TrailingLines
import ModuleParts.Proofs.LineComposition
import ModuleParts.Proofs.Encoding
