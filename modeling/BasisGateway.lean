import BasisGateway.Lib.OrderedDict
import BasisGateway.Lib.Effects
import BasisGateway.Errors
import BasisGateway.Readiness
import BasisGateway.Audit.Writer
import BasisGateway.Audit.WriterFacts
import BasisGateway.Config
import BasisGateway.Main
import BasisGateway.StartupPlan
import BasisGateway.StartupPlanFacts
import BasisGateway.MainFacts
import BasisGateway.Api.Responses
import BasisGateway.FreshStartup
import BasisGateway.Reentry
import BasisGateway.Auth.Subject
import BasisGateway.Core.Actions
import BasisGateway.Api.Schemas
import BasisGateway.Auth.OperationProducer
import BasisGateway.Core.OperationAwareComposition
import BasisGateway.Audit.Events
import BasisGateway.Lib.Scripts
import BasisGateway.World
import BasisGateway.Core.Evaluator
import BasisGateway.Api.EvaluateResponses
import BasisGateway.Api.Routes
import BasisGateway.Api.RoutesFacts
import BasisGateway.FailClosed
import BasisGateway.Recovery
import BasisGateway.Interleaving
import BasisGateway.StrictMode
import BasisGateway.Auth.ProducerTrustFacts
import BasisGateway.ProducerCertificates
import BasisGateway.KernelCalls
import BasisGateway.ProducerGate
import BasisGateway.CompositionAgreement
import BasisGateway.CompositionEvidence
import BasisGateway.AuditTrail
import BasisGateway.DurableRecord
import BasisGateway.Unauthenticated
import BasisGateway.Lib.TwoRuns
import BasisGateway.TokenConfidentiality
import BasisGateway.Lib.Checks
import BasisGateway.Lib.JsonTrees
import BasisGateway.Auth.Jwt
import BasisGateway.Auth.BasisLocalToken
import BasisGateway.Auth.BasisLocalTokenFacts
import BasisGateway.AuthenticationContract
import BasisGateway.Api.BodySchemas
import BasisGateway.SubjectIdentity
import BasisGateway.ActionGrammar
import BasisGateway.Lib.PercentEncoding
import BasisGateway.Auth.AssertionDecoding
import BasisGateway.Auth.PemBlock
import BasisGateway.Lib.Occurrences
import BasisGateway.Lib.Separators
import BasisGateway.Allowlists
import BasisGateway.Roles
import BasisGateway.Policy.Loader
import BasisGateway.PolicyGrammar
import BasisGateway.Policy.OperationAwareLoader
import BasisGateway.PolicyLoading
import BasisGateway.CompositionGuards
import BasisGateway.Provenance
import BasisGateway.UsableIdentities
import BasisGateway.Lib.Reads
import BasisGateway.Api.ReadyHandler
import BasisGateway.ReadySnapshot
import BasisGateway.Lib.TaskLogs
import BasisGateway.Correlation
import BasisGateway.Serving
import BasisGateway.Availability
import BasisGateway.Auth.TrustSettings
import BasisGateway.Auth.Discovery
import BasisGateway.Core.OperationAwareStartup
import BasisGateway.Deployment
import BasisGateway.StartupReports
import BasisGateway.ServiceUnavailable
import BasisGateway.Granted
import BasisGateway.Lib.Serial
import BasisGateway.Serialization
import BasisGateway.Restarts
