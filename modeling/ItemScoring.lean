import ItemScoring.Execution
import ItemScoring.Json.Reader
import ItemScoring.Proofs.Absence.Evaluation
import ItemScoring.Proofs.Order.Run
import ItemScoring.Proofs.Running.Failure
import ItemScoring.Proofs.Running.Frame
import ItemScoring.Proofs.Running.NormalForm
import ItemScoring.Proofs.Typing.Session
import ItemScoring.Proofs.Engines.Evaluation
import ItemScoring.Proofs.Engines.Depth
import ItemScoring.Proofs.Engines.Restriction
import ItemScoring.Proofs.Engines.Running
import ItemScoring.Proofs.Engines.Strictness
import ItemScoring.Proofs.Typing.Declaration
import ItemScoring.Proofs.Typing.Coercion
import ItemScoring.Proofs.Typing.Lookup
import ItemScoring.Proofs.Mention.Assignment
import ItemScoring.Proofs.Json.Value
import ItemScoring.Proofs.Json.Rule
import ItemScoring.Proofs.Containment
import ItemScoring.Proofs.Agreement
import ItemScoring.Proofs.Logic
import ItemScoring.Proofs.Arithmetic.Operands
import ItemScoring.Proofs.Arithmetic.Totals
import ItemScoring.Proofs.Arithmetic.Rearrangement
import ItemScoring.Proofs.Arithmetic.Multiples
import ItemScoring.Proofs.Arithmetic.Divisors
import ItemScoring.Proofs.Arithmetic.Division
import ItemScoring.Proofs.Lookup
import ItemScoring.Proofs.Tolerance
import ItemScoring.Proofs.Scoring.Points
import ItemScoring.Proofs.Scoring.Responses
import ItemScoring.Proofs.Building
import ItemScoring.Proofs.Repetition
import ItemScoring.Proofs.Duration
import ItemScoring.Proofs.Pattern.Anchoring
import ItemScoring.Proofs.TextTest
import ItemScoring.Proofs.NumberList
import ItemScoring.Proofs.Polygon
import ItemScoring.Proofs.DecimalPlaces
import ItemScoring.Proofs.Json.Integer
import ItemScoring.Proofs.Slots
import ItemScoring.Proofs.LeadingInteger
import ItemScoring.Proofs.Normalization
import ItemScoring.Proofs.Binary64.Pattern
