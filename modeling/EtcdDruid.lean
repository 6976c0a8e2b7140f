import EtcdDruid.Go.Runtime
import EtcdDruid.Api.Types
import EtcdDruid.Utils
import EtcdDruid.Health.EtcdMember
import EtcdDruid.Health.Condition
import EtcdDruid.Health.Status
import EtcdDruid.Api.Core
import EtcdDruid.Component.Service
import EtcdDruid.Component.Configmap
import EtcdDruid.Component.Statefulset.Pod
import EtcdDruid.Api.Validation
import EtcdDruid.Component.Statefulset.Values
import EtcdDruid.Controllers.Compaction
import EtcdDruid.Go.Sprintf
import EtcdDruid.Component.Lease
import EtcdDruid.Component.Names
import EtcdDruid.Controllers.Etcd
import EtcdDruid.Controllers.CopyBackupsTask
import EtcdDruid.Controllers.StoreAccess
import EtcdDruid.Controllers.Secret
import EtcdDruid.Go.Parallel
import EtcdDruid.Go.FanIn
import EtcdDruid.Go.Retry
import EtcdDruid.Component.PodDisruptionBudget
import EtcdDruid.Component.Statefulset.Deploy
import EtcdDruid.Mapper.StatefulSetToEtcd
import EtcdDruid.Controllers.CompactionReconciler
import EtcdDruid.Kube.Finalizers
import EtcdDruid.Controllers.CopyBackupsTaskReconciler
import EtcdDruid.Controllers.SecretReconciler
import EtcdDruid.Controllers.EtcdReconciler
import EtcdDruid.Controllers.Custodian
import EtcdDruid.Controllers.CompactionWatch
