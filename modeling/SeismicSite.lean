import SeismicSite.Decimal.Numeral
import SeismicSite.Main
import SeismicSite.Proofs.Schema.Reading
import SeismicSite.Proofs.Document.Members
import SeismicSite.Proofs.Document.Build
import SeismicSite.Proofs.Document.Grammar
import SeismicSite.Proofs.Document.Encoding
import SeismicSite.Proofs.Field.Widening
import SeismicSite.Proofs.Document.NormalForm
import SeismicSite.Proofs.Document.Faithful
import SeismicSite.Proofs.Json.Induction
import SeismicSite.Proofs.Json.Parsing
import SeismicSite.Proofs.Document.RoundTrip
import SeismicSite.Proofs.Document.Walk
import SeismicSite.Proofs.Document.FirstFault
import SeismicSite.Proofs.Failure
import SeismicSite.Proofs.Schema.Conforming
import SeismicSite.Proofs.Schema.Stored
import SeismicSite.Proofs.Schema.Complaint
import SeismicSite.Proofs.Document.Rejection
import SeismicSite.Proofs.Document.Justified
import SeismicSite.Proofs.Document.Foreign
import SeismicSite.Proofs.Schema.Lookup
import SeismicSite.Proofs.Schema.Frame
import SeismicSite.Proofs.Schema.Given
import SeismicSite.Proofs.Entity.Calls
import SeismicSite.Proofs.Entity.WellFormed
import SeismicSite.Proofs.Construction
import SeismicSite.Proofs.Document.Placement
import SeismicSite.Proofs.Inspect.Run
import SeismicSite.Proofs.Inspect.Strict
import SeismicSite.Proofs.Schema.FiniteMap
import SeismicSite.Proofs.Summary
import SeismicSite.Proofs.Document.TypeError
import SeismicSite.Proofs.Document.SameContent
import SeismicSite.Proofs.Document.Tag
import SeismicSite.Proofs.Schema.Conversion
