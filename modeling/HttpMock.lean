import HttpMock.Binary64.Basic
import HttpMock.Binary64.Shortest
import HttpMock.Calendar
import HttpMock.Expect.Expectation
import HttpMock.Expect.Failure
import HttpMock.Expect.Inspect
import HttpMock.Expect.ValueMatcher
import HttpMock.Expect.ValuesMatcher
import HttpMock.Freshness
import HttpMock.Harness
import HttpMock.Headers.Basic
import HttpMock.Headers.Edit
import HttpMock.Headers.Lemmas
import HttpMock.HttpDate.Basic
import HttpMock.HttpDate.Stamp
import HttpMock.Logging
import HttpMock.Method
import HttpMock.Request.Basic
import HttpMock.Request.Check
import HttpMock.Request.Draft
import HttpMock.Response.Basic
import HttpMock.Response.Finish
import HttpMock.Response.Page
import HttpMock.Route.Pattern
import HttpMock.Route.Router
import HttpMock.Settings.Basic
import HttpMock.Settings.Document
import HttpMock.Settings.Misfit
import HttpMock.Settings.Table
import HttpMock.Status
import HttpMock.Text.Blank
import HttpMock.Text.Numeral
import HttpMock.Text.Printable
import HttpMock.Text.Quoted
import HttpMock.Text.Scan
import HttpMock.Text.Search
import HttpMock.Toml.Document
import HttpMock.Toml.Layout
import HttpMock.Toml.Number
import HttpMock.Toml.Scalar
import HttpMock.Toml.Strings
import HttpMock.Toml.Tree
import HttpMock.Toml.Value
import HttpMock.Proofs.Answer
import HttpMock.Proofs.HeadRequest
import HttpMock.Proofs.EntityTags
import HttpMock.Proofs.Revalidation
import HttpMock.Proofs.Conditions
import HttpMock.Proofs.DateForms
import HttpMock.Proofs.DateRoundTrip
import HttpMock.Proofs.HeaderInvariant
import HttpMock.Proofs.HeaderHistory
import HttpMock.Proofs.Numerals
import HttpMock.Proofs.Admission
import HttpMock.Proofs.DraftedRequest
import HttpMock.Proofs.FailureKinds
import HttpMock.Proofs.Observations
import HttpMock.Proofs.Rolls
import HttpMock.Proofs.Routing
import HttpMock.Proofs.AllowedMethods
import HttpMock.Proofs.PathPatterns
import HttpMock.Proofs.IntegerValues
import HttpMock.Proofs.DateValues
import HttpMock.Proofs.Absence
import HttpMock.Proofs.Mismatches
import HttpMock.Proofs.DateAcceptance
import HttpMock.Proofs.FinishFrame
import HttpMock.Proofs.RepeatedTags
import HttpMock.Proofs.HeadFallback
import HttpMock.Proofs.RenderedHeaders
import HttpMock.Proofs.DateSetting
import HttpMock.Proofs.MatcherMeaning
import HttpMock.Proofs.ItemConditions
import HttpMock.Proofs.TagLists
import HttpMock.Proofs.WrittenScalars
import HttpMock.Proofs.BuiltTables
import HttpMock.Proofs.WrittenDocuments
import HttpMock.Proofs.SettingsDocuments
