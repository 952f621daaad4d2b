import RowSecurity.Ambient.Delivery
import RowSecurity.Expectation
import RowSecurity.Http.Response
import RowSecurity.Json.Writer
import RowSecurity.Policy.Document
import RowSecurity.Proofs.Confinement
import RowSecurity.Proofs.FailClosed
import RowSecurity.Proofs.Joining
import RowSecurity.Proofs.Placement
import RowSecurity.Read.Fetch
import RowSecurity.Proofs.Renderings
import RowSecurity.Proofs.Binding
import RowSecurity.Proofs.PageText
import RowSecurity.Proofs.PageRead
import RowSecurity.Proofs.Auditing
import RowSecurity.Proofs.Loading
import RowSecurity.Proofs.LastWrite
import RowSecurity.Proofs.Overriding
import RowSecurity.Proofs.Isolation
import RowSecurity.Proofs.Totality
import RowSecurity.Proofs.InForce
import RowSecurity.Proofs.Parameters
import RowSecurity.Proofs.PlainNames
import RowSecurity.Proofs.MappedColumns
import RowSecurity.Proofs.Identifiers
import RowSecurity.Proofs.MissingIdentifier
import RowSecurity.Proofs.Layouts
import RowSecurity.Proofs.PolicyShapes
import RowSecurity.Proofs.ContextTrail
import RowSecurity.Proofs.RowText
import RowSecurity.Proofs.RowRead
import RowSecurity.Proofs.Layering
import RowSecurity.Proofs.Recomposing
import RowSecurity.Proofs.Quotation
import RowSecurity.Proofs.Respelling
import RowSecurity.Proofs.Renumbering
