import SqlScript.Classifier
import SqlScript.CommandLine.Answer
import SqlScript.CommandLine.Console
import SqlScript.CommandLine.Options
import SqlScript.Dialect
import SqlScript.Failure
import SqlScript.Journal.Entry
import SqlScript.Journal.Journal
import SqlScript.Journal.Level
import SqlScript.Journal.Record
import SqlScript.Json.Display
import SqlScript.Json.Printer
import SqlScript.Json.Reader
import SqlScript.Json.Value
import SqlScript.Listing
import SqlScript.Main
import SqlScript.Pattern
import SqlScript.Proofs.Acceptance
import SqlScript.Proofs.Answers
import SqlScript.Proofs.Blocks
import SqlScript.Proofs.Clauses
import SqlScript.Proofs.Comments
import SqlScript.Proofs.CommonSyntax
import SqlScript.Proofs.Encoding
import SqlScript.Proofs.Excerpts
import SqlScript.Proofs.Exclusion
import SqlScript.Proofs.Governance
import SqlScript.Proofs.Intactness
import SqlScript.Proofs.LetterCase
import SqlScript.Proofs.LineEnds
import SqlScript.Proofs.Locality
import SqlScript.Proofs.Observation
import SqlScript.Proofs.Quotations
import SqlScript.Proofs.Records
import SqlScript.Proofs.Refusals
import SqlScript.Proofs.Shortening
import SqlScript.Proofs.Steadiness
import SqlScript.Proofs.TraceLines
import SqlScript.Proofs.Unclassified
import SqlScript.Proofs.WholeWords
import SqlScript.Report
import SqlScript.Scan
import SqlScript.Script
import SqlScript.Settings
import SqlScript.Statement
import SqlScript.Step
import SqlScript.Text.CodePoint
import SqlScript.Text.Lower
import SqlScript.Text.Spelling
import SqlScript.Text.Upper
import SqlScript.Text.WordChar
import SqlScript.Text.Words
import SqlScript.Token
import SqlScript.Trace
