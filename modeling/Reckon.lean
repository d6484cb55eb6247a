import Reckon.Console
import Reckon.Main
import Reckon.Samples
import Reckon.Trace
import Reckon.Proofs.Precision
import Reckon.Proofs.Reading
import Reckon.Proofs.Grammar
import Reckon.Proofs.Numeral
import Reckon.Proofs.Token
import Reckon.Proofs.Refit
import Reckon.Proofs.Recognition
import Reckon.Proofs.Binary64
import Reckon.Proofs.Quiet
import Reckon.Proofs.Tree
import Reckon.Proofs.Evaluation
import Reckon.Proofs.Containment
import Reckon.Proofs.Survival
import Reckon.Proofs.Magnitude
import Reckon.Proofs.Exactness
import Reckon.Proofs.Modular
import Reckon.Proofs.Viability
import Reckon.Proofs.Spans
import Reckon.Proofs.Quotient
import Reckon.Proofs.Shortest
import Reckon.Proofs.Division
import Reckon.Proofs.Conversation
import Reckon.Proofs.Kinds
import Reckon.Proofs.ReadBack
import Reckon.Proofs.Faces
import Reckon.Proofs.Lexemes
import Reckon.Proofs.Rendering
import Reckon.Proofs.Printing
import Reckon.Proofs.WellFormed
import Reckon.Proofs.Words
import Reckon.Proofs.Derivation
import Reckon.Proofs.Resolution
import Reckon.Proofs.Compositional
import Reckon.Proofs.Report
import Reckon.Proofs.RoundTrip
import Reckon.Proofs.Tags
import Reckon.Proofs.Indifference
import Reckon.Proofs.Outline
import Reckon.Proofs.Rounding
import Reckon.Proofs.ShortLiteral
import Reckon.Proofs.Command
import Reckon.Proofs.Excerpt
import Reckon.Proofs.Gaps
import Reckon.Proofs.Deferral
import Reckon.Proofs.Neighbours
