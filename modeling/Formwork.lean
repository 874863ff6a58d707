import Formwork.Main
import Formwork.Panel
import Formwork.Pattern.Language
import Formwork.Proofs.Component.Validation
import Formwork.Proofs.Description.Roundtrip
import Formwork.Proofs.Validation.Outcome
import Formwork.Proofs.Validation.Validity
import Formwork.Proofs.Markup.Tokens
import Formwork.Proofs.Markup.Tree
import Formwork.Proofs.HtmlForm.Fields
import Formwork.Proofs.Form.Collision
import Formwork.Proofs.Text.CaseMaps
import Formwork.Proofs.Panel.Runs
import Formwork.Proofs.Component.Declarations
import Formwork.Proofs.Panel.Rows
import Formwork.Proofs.CommandLine.Files
import Formwork.Proofs.CommandLine.Runs
import Formwork.Proofs.Json.Grammar
import Formwork.Proofs.Report.Acceptance
import Formwork.Proofs.Json.Reader
import Formwork.Proofs.Report.Reading
import Formwork.Proofs.Source.Margins
import Formwork.Proofs.Markup.Margins
import Formwork.Proofs.Component.Margins
import Formwork.Proofs.Generate.Layout
import Formwork.Proofs.Panel.Agreement
import Formwork.Proofs.Markup.Balance
import Formwork.Proofs.Component.Wiring
import Formwork.Proofs.Component.UsedNames
import Formwork.Proofs.Validation.Order
import Formwork.Proofs.Validation.Filling
import Formwork.Proofs.Validation.Parts
import Formwork.Proofs.Validation.Telephone
import Formwork.Proofs.Validation.EmailAddress
import Formwork.Proofs.Text.Cuts
import Formwork.Proofs.Validation.WebAddress
import Formwork.Proofs.Description.Joining
import Formwork.Proofs.Description.LineEnds
import Formwork.Proofs.Text.CaseClasses
import Formwork.Proofs.Text.Sigma
import Formwork.Proofs.Form.LetterCase
import Formwork.Proofs.Markup.Placement
import Formwork.Proofs.Gallery.Listing
import Formwork.Proofs.Script.Quoting
import Formwork.Proofs.Markup.Jsx
import Formwork.Proofs.Markup.References
import Formwork.Proofs.Form.Heading
