import PgOperator.Kube.Pod
import PgOperator.Schema.Reader

/-!
Lists of objects, and the pods that such lists hold. Of a pod only the phase is of interest, but
all that its status may say is read.
-/

namespace PgOperator.Kube

def Table.containerStateRunning : Shape :=
  .loose "ContainerStateRunning" <| opt "startedAt" .instant .nil

def Table.containerStateTerminated : Shape :=
  .loose "ContainerStateTerminated" <|
  opt "containerID" .text <| req "exitCode" .int32 <| opt "finishedAt" .instant <|
  opt "message" .text <| opt "reason" .text <| opt "signal" .int32 <|
  opt "startedAt" .instant .nil

def Table.containerStateWaiting : Shape :=
  .loose "ContainerStateWaiting" <| opt "message" .text <| opt "reason" .text .nil

def Table.containerState : Shape :=
  .loose "ContainerState" <|
  opt "running" Table.containerStateRunning <|
  opt "terminated" Table.containerStateTerminated <|
  opt "waiting" Table.containerStateWaiting .nil

def Table.volumeMountStatus : Shape :=
  .loose "VolumeMountStatus" <|
  req "mountPath" .text <| req "name" .text <| opt "readOnly" .flag <|
  opt "recursiveReadOnly" .text .nil

def Table.containerStatus : Shape :=
  .loose "ContainerStatus" <|
  opt "allocatedResources" (.dict .text) <| opt "containerID" .text <| req "image" .text <|
  req "imageID" .text <| opt "lastState" Table.containerState <| req "name" .text <|
  req "ready" .flag <| opt "resources" (Record.shape ResourceRequirements) <|
  req "restartCount" .int32 <| opt "started" .flag <| opt "state" Table.containerState <|
  opt "volumeMounts" (.list Table.volumeMountStatus) .nil

def Table.podCondition : Shape :=
  .loose "PodCondition" <|
  opt "lastProbeTime" .instant <| opt "lastTransitionTime" .instant <| opt "message" .text <|
  opt "reason" .text <| req "status" .text <| req "type" .text .nil

def Table.hostIP : Shape := .loose "HostIP" <| req "ip" .text .nil

def Table.podIP : Shape := .loose "PodIP" <| req "ip" .text .nil

def Table.podResourceClaimStatus : Shape :=
  .loose "PodResourceClaimStatus" <| req "name" .text <| opt "resourceClaimName" .text .nil

def PodStatus.otherFields : Fields :=
  opt "conditions" (.list Table.podCondition) <|
  opt "containerStatuses" (.list Table.containerStatus) <|
  opt "ephemeralContainerStatuses" (.list Table.containerStatus) <| opt "hostIP" .text <|
  opt "hostIPs" (.list Table.hostIP) <|
  opt "initContainerStatuses" (.list Table.containerStatus) <| opt "message" .text <|
  opt "nominatedNodeName" .text <| opt "podIP" .text <| opt "podIPs" (.list Table.podIP) <|
  opt "qosClass" .text <| opt "reason" .text <| opt "resize" .text <|
  opt "resourceClaimStatuses" (.list Table.podResourceClaimStatus) <|
  opt "startTime" .instant .nil

structure PodStatus where
  phase : Option String := none
  other : PodStatus.otherFields.Val := PodStatus.otherFields.zero
  deriving DecidableEq

abbrev PodStatus.fields : Fields := opt "phase" .text <| PodStatus.otherFields

instance : Record PodStatus where
  heading := .loose "PodStatus"
  fields := PodStatus.fields
  toVal x := (x.phase, x.other)
  ofVal := fun (phase, other) =>
    {phase, other}
  ofVal_toVal _ := rfl
  toVal_ofVal _ := rfl

structure Pod where
  metadata : ObjectMeta := {}
  spec : Option PodSpec := none
  status : Option PodStatus := none
  deriving DecidableEq

abbrev Pod.fields : Fields :=
  .const "apiVersion" "v1" true <| .const "kind" "Pod" true <|
  req "metadata" (Record.shape ObjectMeta) <| opt "spec" (Record.shape PodSpec) <|
  opt "status" (Record.shape PodStatus) .nil

instance : Record Pod where
  heading := .loose "Pod"
  fields := Pod.fields
  toVal x := (Record.toVal x.metadata, x.spec.map Record.toVal, x.status.map Record.toVal, ())
  ofVal := fun (metadata, spec, status, ()) =>
    {metadata := Record.ofVal metadata, spec := spec.map Record.ofVal,
      status := status.map Record.ofVal}
  ofVal_toVal x := by simp [Function.comp_def]
  toVal_ofVal v := by simp [Function.comp_def]

/-- Whether a pod runs. -/
def Pod.isRunning (pod : Pod) : Bool :=
  match pod.status with
  | some status => status.phase = some "Running"
  | none => false

def Table.listMeta : Shape :=
  .loose "ListMeta" <|
  opt "continue" .text <| opt "remainingItemCount" .int64 <| opt "resourceVersion" .text <|
  opt "selfLink" .text .nil

/-- The shape of a list of objects. The items have to be there, though `null` stands for none. -/
def listed (item : Shape) : Shape :=
  .record (.gathered "struct ObjectList" ["metadata", "items"]) <|
  dflt "metadata" (.obj []) Table.listMeta <| .field "items" .nullable (.list item) .nil

/-- Reads the objects of a list. -/
def readListed (α : Type) [Record α] : Json.Reader (List α) := do
  let (_, items, ()) ← (listed (Record.shape α)).read Json.maxDepth
  return items.map Record.ofVal

end PgOperator.Kube
