import MacVz.GoNet
import MacVz.GoPackages
import MacVz.Interleaving
import MacVz.MaximalRuns
import MacVz.PodnetRouter
import MacVz.PodnetRules
import MacVz.Sha256
import MacVz.StatefulFrame
import MacVz.WorkloadNaming
import MacVz.PodnetHistory
import MacVz.PodnetFailure
import MacVz.PodIPAM
import MacVz.PodModel
import MacVz.StatusReconcile
import MacVz.ProviderState
import MacVz.ProviderStep
import MacVz.ProviderFrame
import MacVz.EndpointOwnership
import MacVz.KeyFrame
import MacVz.Binding
import MacVz.WorkloadReaping
import MacVz.AddressLatch
import MacVz.PodReachability
import MacVz.Streak
import MacVz.ProbeLog
import MacVz.ProbeReadiness
import MacVz.Incarnation
import MacVz.StatusReading
import MacVz.StatusRecord
import MacVz.PhaseReports
import MacVz.SuccessReports
import MacVz.TerminalPhase
import MacVz.RestartScheduling
import MacVz.CreateRollback
import MacVz.FailedCreate
import MacVz.CallFrame
import MacVz.AddressReturn
import MacVz.FileTree
import MacVz.VolumeResolution
import MacVz.VolumeDisk
import MacVz.VolumeCleanup
import MacVz.VolumeExactness
import MacVz.PodConsistency
import MacVz.AddressText
import MacVz.PodIPAMHistory
import MacVz.RestartRecovery
import MacVz.Checks
import MacVz.HelperPolicy
import MacVz.HelperServer
import MacVz.PolicyGrammar
import MacVz.TextFields
import MacVz.WireguardReader
import MacVz.Base64
import MacVz.WireguardConfig
import MacVz.NodeConfig
import MacVz.PolicyDerivation
import MacVz.ServiceRoutes
import MacVz.AnchorText
import MacVz.RouterCommands
import MacVz.WireguardMesh
import MacVz.MeshCommands
import MacVz.MeshReload
import MacVz.MeshValidation
import MacVz.ServiceReload
import MacVz.MeshRouteTable
import MacVz.MeshRouteHistory
import MacVz.MeshSyncFailure
import MacVz.ServiceBackends
import MacVz.LivePods
import MacVz.Footprint
import MacVz.MetricsCollector
import MacVz.MetricsRates
import MacVz.PodIPAMHosts
import MacVz.PathText
import MacVz.VolumePaths
import MacVz.ProjectedConfigMaps
import MacVz.ExecErrors
import MacVz.NodeRemoval
import MacVz.RegistryPulls
import MacVz.Redaction
import MacVz.DiagBundle
import MacVz.EnvExpansion
import MacVz.DriverCreate
import MacVz.PullSecrets
import MacVz.RestartCounting
import MacVz.ReadinessLatch
import MacVz.ProbeGenerations
import MacVz.AnchorReading
import MacVz.ConfigEnv
import MacVz.RetryableConfig
import MacVz.RunComparison
import MacVz.PodEvents
import MacVz.UnsupportedProbes
