import QueryTemplates.Call.Combinator
import QueryTemplates.Call.Expression
import QueryTemplates.Main
import QueryTemplates.Proofs.Config.Delivery
import QueryTemplates.Proofs.Query.Balance
import QueryTemplates.Proofs.Query.Unambiguous
import QueryTemplates.Proofs.Query.Written
import QueryTemplates.Reading.Call
import QueryTemplates.Proofs.Config.Acceptance
import QueryTemplates.Proofs.File.Growth
import QueryTemplates.Proofs.Log.Configure
import QueryTemplates.Proofs.Log.Delivery
import QueryTemplates.Proofs.Config.Refusal
import QueryTemplates.Proofs.CommandLine.Render
import QueryTemplates.Proofs.CommandLine.Output
import QueryTemplates.Proofs.Fragment.Proximity
import QueryTemplates.Proofs.Value.Regrouping
import QueryTemplates.Proofs.DataOptions.LastWrite
import QueryTemplates.Proofs.Fragment.Escaped
import QueryTemplates.Proofs.Placeholder.Piece
import QueryTemplates.Proofs.Query.Dependence
import QueryTemplates.Proofs.Query.Replacement
import QueryTemplates.Proofs.Fragment.Decision
import QueryTemplates.Proofs.Fragment.Suffix
import QueryTemplates.Proofs.Query.Flatten
import QueryTemplates.Proofs.Query.EntryOrder
import QueryTemplates.Proofs.Query.Location
import QueryTemplates.Proofs.Reading.Unnamed
import QueryTemplates.Proofs.Reading.Keys
import QueryTemplates.Proofs.Log.Level
import QueryTemplates.Proofs.Log.Failure
import QueryTemplates.Proofs.Output.ReadBack
