import Reckon.Drawing.Stream
import Reckon.Expr.Key
import Reckon.Main
import Reckon.Proofs.Prefix
import Reckon.Proofs.RoundTrip
import Reckon.Proofs.Scan
import Reckon.Reader.Script
import Reckon.Proofs.Blanks
import Reckon.Proofs.Bound
import Reckon.Proofs.Calls
import Reckon.Proofs.Identity
import Reckon.Proofs.Reconstruction
import Reckon.Proofs.Product
import Reckon.Proofs.Columns
import Reckon.Proofs.Grid
import Reckon.Proofs.Session
import Reckon.Proofs.Sideways
import Reckon.Proofs.Streams
import Reckon.Proofs.Transcript
import Reckon.Proofs.Document
import Reckon.Proofs.Environment
import Reckon.Proofs.Magnitude
import Reckon.Proofs.Evaluation
import Reckon.Proofs.Literal
import Reckon.Proofs.Readable
import Reckon.Proofs.Brackets
import Reckon.Proofs.Tokens
import Reckon.Proofs.Addition
import Reckon.Proofs.Maximal
import Reckon.Proofs.Settings
import Reckon.Proofs.Consumption
import Reckon.Proofs.Folding
