import Eligibility.Catalog
import Eligibility.Main
import Eligibility.Proofs.Alternatives
import Eligibility.Proofs.CanonicalForm
import Eligibility.Proofs.CanonicalSchema
import Eligibility.Proofs.CatalogInvariant
import Eligibility.Proofs.CatalogMap
import Eligibility.Proofs.CatalogQuestions
import Eligibility.Proofs.Characters
import Eligibility.Proofs.Comparisons
import Eligibility.Proofs.ComposedText
import Eligibility.Proofs.Evaluation
import Eligibility.Proofs.Grammar
import Eligibility.Proofs.JoinedConditions
import Eligibility.Proofs.Lexing
import Eligibility.Proofs.MadeConditions
import Eligibility.Proofs.NamedFields
import Eligibility.Proofs.NumberText
import Eligibility.Proofs.Parsing
import Eligibility.Proofs.RepeatedReading
import Eligibility.Proofs.Requests
import Eligibility.Proofs.RequestsAndCatalogs
import Eligibility.Proofs.RuleEdits
import Eligibility.Proofs.RuleText
import Eligibility.Proofs.SpacedText
import Eligibility.Proofs.StoredText
import Eligibility.Proofs.Surroundings
import Eligibility.Proofs.Thresholds
import Eligibility.Proofs.Tiling
import Eligibility.Proofs.Lookahead
import Eligibility.Proofs.Faults
import Eligibility.Proofs.Parentheses
import Eligibility.Proofs.Quotes
