import EtcdDruid.Api.Core

/-!
# Services: `pkg/component/etcd/service`

`GenerateValues` fixes the three ports of an Etcd, each the spec's value or its
default; the client service exposes all three, the peer service the peer port.
`reconcileEtcd` passes these values on to the StatefulSet, so the ports of the
services are the ports the pods are built with.  Both services select the pods
by the Etcd's default labels.
-/

namespace EtcdDruid
namespace Service

def defaultBackupPort : Int32 := 8080
def defaultClientPort : Int32 := 2379
def defaultServerPort : Int32 := 2380

/-- `service.Values`, less labels, annotations and the owner reference. -/
structure Values where
  backupPort : Int32
  clientPort : Int32
  clientServiceName : String
  peerServiceName : String
  peerPort : Int32
  selectorLabels : StringMap
  deriving DecidableEq

def generateValues (etcd : Etcd) : Values where
  backupPort := etcd.spec.backup.port.getD defaultBackupPort
  clientPort := etcd.spec.etcd.clientPort.getD defaultClientPort
  clientServiceName := etcd.getClientServiceName
  peerServiceName := etcd.getPeerServiceName
  peerPort := etcd.spec.etcd.serverPort.getD defaultServerPort
  selectorLabels := etcd.getDefaultLabels

/-- The selector `syncClientService` writes. -/
def clientServiceSelector (v : Values) : StringMap := v.selectorLabels

/-- The selector `syncPeerService` writes. -/
def peerServiceSelector (v : Values) : StringMap := v.selectorLabels

/-- The ports `syncClientService` writes. -/
def clientServicePorts (v : Values) : List ServicePort :=
  [⟨"client", v.clientPort, v.clientPort.toInt⟩,
   ⟨"server", v.peerPort, v.peerPort.toInt⟩,
   ⟨"backuprestore", v.backupPort, v.backupPort.toInt⟩]

/-- The ports `syncPeerService` writes. -/
def peerServicePorts (v : Values) : List ServicePort :=
  [⟨"peer", v.peerPort, v.peerPort.toInt⟩]

end Service
end EtcdDruid
