import RefactorGateway.Main
import RefactorGateway.Proofs.Bridge.Classification
import RefactorGateway.Proofs.Bridge.Returned
import RefactorGateway.Proofs.Http.BaseUrl
import RefactorGateway.Proofs.Bridge.Destination
import RefactorGateway.Proofs.Bridge.Session
import RefactorGateway.Proofs.Tool.Outcome
import RefactorGateway.Proofs.Tool.Passing
import RefactorGateway.Proofs.Tool.Published
import RefactorGateway.Proofs.Tool.Agreement
import RefactorGateway.Proofs.Tool.Inert
import RefactorGateway.Proofs.Wire.Records
import RefactorGateway.Proofs.Bridge.Transports
import RefactorGateway.Proofs.Service.Task
import RefactorGateway.Proofs.Service.Release
import RefactorGateway.Proofs.Bridge.Token
import RefactorGateway.Proofs.Tool.Discretion
import RefactorGateway.Proofs.Bridge.Envelope
import RefactorGateway.Proofs.Tool.Phrase
import RefactorGateway.Proofs.Tool.FailureText
import RefactorGateway.Proofs.Report.Usages
import RefactorGateway.Proofs.Wire.Grammar
import RefactorGateway.Proofs.Bridge.Conformance
import RefactorGateway.Proofs.Tool.Warnings
import RefactorGateway.Proofs.Json.Reordering
import RefactorGateway.Proofs.Bridge.Rejection
import RefactorGateway.Proofs.Wire.Listing
import RefactorGateway.Proofs.Bridge.Spelling
import RefactorGateway.Proofs.Text.Ending
import RefactorGateway.Proofs.Bridge.Settings
import RefactorGateway.Proofs.Report.Lines
import RefactorGateway.Proofs.Report.Changes
import RefactorGateway.Proofs.Report.Snippets
import RefactorGateway.Proofs.Bridge.Lifecycle
import RefactorGateway.Proofs.Report.ContextLine
