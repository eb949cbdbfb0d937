import SchemaAccess.Deploy.Plan
import SchemaAccess.GraphQL.Node
import SchemaAccess.Main
import SchemaAccess.Proofs.Acceptance
import SchemaAccess.Proofs.LeastPrivilege
import SchemaAccess.Proofs.ProviderMarkers
import SchemaAccess.Proofs.DirectiveCarriers
import SchemaAccess.Proofs.SecondRun
import SchemaAccess.Proofs.OutputAgreement
import SchemaAccess.Proofs.FailureKinds
import SchemaAccess.Proofs.ClosedTemplate
import SchemaAccess.Proofs.TypeParts
import SchemaAccess.Proofs.HandlerOrder
import SchemaAccess.Proofs.DefinitionOrder
import SchemaAccess.Proofs.ConfiguredTypes
import SchemaAccess.Proofs.RuleOrder
import SchemaAccess.Proofs.LedgerCalls
import SchemaAccess.Proofs.FullDeployment
import SchemaAccess.Proofs.RuleTypes
import SchemaAccess.Proofs.RuleSpelling
import SchemaAccess.Proofs.JsonRoundTrip
import SchemaAccess.Proofs.CompileCommand
import SchemaAccess.Proofs.CappedDocuments
import SchemaAccess.Proofs.ConfigGrammar
import SchemaAccess.Proofs.MarkerCalls
import SchemaAccess.Proofs.ReportedFaults
import SchemaAccess.Proofs.FilledPolicies
import SchemaAccess.Proofs.CallOrder
import SchemaAccess.Proofs.SessionCalls
import SchemaAccess.Proofs.DeclaredNames
import SchemaAccess.Proofs.ResourceReads
