import Kubvernor.Lib.Transition
import Kubvernor.Lib.Tasks
import Kubvernor.Lib.BoundedChannel
import Kubvernor.Lib.TreeMap
import Kubvernor.Lib.RefCount
import Kubvernor.Common.ResourceKey
import Kubvernor.Common.Backend
import Kubvernor.Common.Route
import Kubvernor.Common.Listener
import Kubvernor.Common.Gateway
import Kubvernor.References.MultiReferences
import Kubvernor.References.Counting
import Kubvernor.References.Grants
import Kubvernor.References.GrantResolution
import Kubvernor.References.Locks
import Kubvernor.State.InMemory
import Kubvernor.Controllers.RouteResolver
import Kubvernor.Controllers.ResourceState
import Kubvernor.Control.GatewayDeployer
import Kubvernor.Control.Pipeline
import Kubvernor.Control.Moves
import Kubvernor.Control.InFlight
import Kubvernor.Control.Converts
import Kubvernor.Control.Deletion
import Kubvernor.Control.Deploy
import Kubvernor.Controllers.HostnameMatchFilter
import Kubvernor.Envoy.EffectiveRules
import Kubvernor.Envoy.Routes
import Kubvernor.Envoy.ResourceGenerator
import Kubvernor.Envoy.NoTraffic
import Kubvernor.Lib.Dedup
import Kubvernor.Controllers.TlsConfigValidator
import Kubvernor.Envoy.PortMerge
import Kubvernor.Envoy.ServiceClusters
import Kubvernor.Envoy.Deployer
import Kubvernor.Envoy.Domains
import Kubvernor.Lib.HostPattern
import Kubvernor.Envoy.HostScope
import Kubvernor.Envoy.HostCoverage
import Kubvernor.Controllers.ListenerHealth
import Kubvernor.Envoy.ServedCertificates
import Kubvernor.Xds.AggregateServer
import Kubvernor.Xds.Subscription
import Kubvernor.Xds.Moves
import Kubvernor.Xds.Registry
import Kubvernor.Xds.Versions
import Kubvernor.Xds.Delivery
import Kubvernor.Lib.NamedSet
import Kubvernor.Lib.Sessions
import Kubvernor.Agentgateway.AggregateServer
import Kubvernor.Agentgateway.Subscription
import Kubvernor.Agentgateway.Moves
import Kubvernor.Agentgateway.Registry
import Kubvernor.Agentgateway.Stored
import Kubvernor.Agentgateway.View
import Kubvernor.Agentgateway.Simulation
import Kubvernor.Agentgateway.Delivery
import Kubvernor.Agentgateway.ClientStore
import Kubvernor.Orion.AggregateServer
import Kubvernor.State.InferencePools
import Kubvernor.References.Polling
import Kubvernor.References.WakeUp
import Kubvernor.References.Secrets
import Kubvernor.Common.KubeRoutes
import Kubvernor.State.Routes
import Kubvernor.References.GrantTracking
import Kubvernor.References.GrantQueries
import Kubvernor.Controllers.RouteNames
import Kubvernor.Lib.JoinedNames
import Kubvernor.Agentgateway.Resources
import Kubvernor.Agentgateway.ResourceGenerator
import Kubvernor.Agentgateway.ResourceNames
import Kubvernor.Controllers.RoutePartition
import Kubvernor.Control.GatewayProcessedHandler
import Kubvernor.Control.OrphanedRoutes
import Kubvernor.Control.RouteHandlers
import Kubvernor.Control.RouteMoves
import Kubvernor.Control.Reconcile
import Kubvernor.Control.AttachmentIndex
import Kubvernor.Control.LifeCycles
import Kubvernor.Control.ForeignStatus
import Kubvernor.Control.RouteDeletion
import Kubvernor.Control.PoolParents
import Kubvernor.Agentgateway.BackendFidelity
import Kubvernor.Lib.Matching
import Kubvernor.Envoy.MatchTranslation
import Kubvernor.Lib.StableSort
import Kubvernor.Envoy.RulePrecedence
import Kubvernor.Envoy.GrpcMatchTranslation
import Kubvernor.Lib.LabelPattern
import Kubvernor.Controllers.HostnameIntersection
import Kubvernor.Controllers.ListenerAdmission
import Kubvernor.Control.ParentInterference
import Kubvernor.Controllers.ResolutionStatus
import Kubvernor.References.BackendReferences
import Kubvernor.Controllers.SettledCluster
import Kubvernor.Controllers.SpelledKinds
import Kubvernor.Controllers.OmittedKinds
import Kubvernor.Controllers.SettledSecrets
import Kubvernor.Controllers.CertificateRefs
import Kubvernor.Controllers.CertificateDefaults
import Kubvernor.Control.Mirrors
import Kubvernor.Lib.Since
import Kubvernor.Control.RouteIndex
import Kubvernor.References.Replacement
import Kubvernor.Control.ServicePorts
import Kubvernor.Lib.KeyRenaming
import Kubvernor.Controllers.ListenerConditions
import Kubvernor.Controllers.PoolRoutes
import Kubvernor.Control.RouteKinds
import Kubvernor.Lib.Shares
import Kubvernor.Envoy.InferenceRouting
import Kubvernor.Envoy.DroppedHostnames
import Kubvernor.Agentgateway.MatchTranslation
import Kubvernor.Lib.Accounts
import Kubvernor.Lib.Channels
import Kubvernor.Control.ServiceChannels
import Kubvernor.Control.ServiceDeadlock
import Kubvernor.Control.StalledClient
import Kubvernor.Control.FinalDeletion
import Kubvernor.Agentgateway.Isolation
import Kubvernor.Xds.Isolation
import Kubvernor.Lib.FirstMatch
import Kubvernor.Envoy.RequestRouting
import Kubvernor.Control.Feedback
import Kubvernor.Lib.Notices
import Kubvernor.Control.RouteNotices
import Kubvernor.Control.GatewayNotices
import Kubvernor.Control.TrackedRoutes
import Kubvernor.Control.RouteDeployments
import Kubvernor.Control.DeploymentMoves
import Kubvernor.Control.Settling
