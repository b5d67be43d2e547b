import JsxTemplate.Main
import JsxTemplate.Source.Inspection
import JsxTemplate.Template.Bench
import JsxTemplate.Proofs.Regular
import JsxTemplate.Proofs.Output
import JsxTemplate.Proofs.Fragments
import JsxTemplate.Proofs.Ledger
import JsxTemplate.Proofs.Compilation
import JsxTemplate.Markup.Elements
import JsxTemplate.Proofs.Placement
import JsxTemplate.Proofs.WellFormed
import JsxTemplate.Proofs.FaultPlaces
import JsxTemplate.Markup.Respanned
import JsxTemplate.Proofs.Delivery
import JsxTemplate.Proofs.Relocation
import JsxTemplate.Proofs.CommentTails
import JsxTemplate.Proofs.Escaping
import JsxTemplate.Proofs.StringArguments
import JsxTemplate.Proofs.BufferLaws
import JsxTemplate.Proofs.BlankText
import JsxTemplate.Proofs.MemberAccess
import JsxTemplate.Proofs.StaticMarkup
import JsxTemplate.Proofs.OptionLayers
import JsxTemplate.Proofs.TagStarts
import JsxTemplate.Proofs.Calls
import JsxTemplate.Proofs.Recursion
import JsxTemplate.Proofs.Expectations
import JsxTemplate.Proofs.Inspections
