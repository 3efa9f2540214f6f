import Wellcake.Controller.MembershipFlight
import Wellcake.Controller.MembershipRemoval
import Wellcake.Controller.ScalingShape
import Wellcake.Controller.QuorumDebounce
import Wellcake.Controller.RotationLinks
import Wellcake.Controller.FailoverDebounce
import Wellcake.Controller.FailoverConverges
import Wellcake.Controller.RequestTokens
import Wellcake.Controller.ClusterBackup
import Wellcake.Controller.HandoverSafety
import Wellcake.Controller.AutoReshard
import Wellcake.Controller.ScriptRetry
import Wellcake.Controller.RestorePlacement
import Wellcake.Controller.SentinelGuard
import Wellcake.Controller.AclOwnership
import Wellcake.Controller.FailedJobs
import Wellcake.Controller.RolloutConverges
import Wellcake.Controller.SentinelPlanes
import Wellcake.Controller.ClusterIsolation
import Wellcake.Controller.LayoutAgreement
import Wellcake.Controller.PodsToldApart
import Wellcake.Controller.ShardScaleDown
import Wellcake.Controller.ShardRecovery
import Wellcake.Controller.SentinelStart
import Wellcake.Controller.SentinelRepair
import Wellcake.Controller.ClusterSurvey
import Wellcake.Controller.ImageVersion
import Wellcake.Controller.ConfigQuoting
import Wellcake.Controller.DisruptionBudgets
