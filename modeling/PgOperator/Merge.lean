import PgOperator.Json.Merge
import PgOperator.Kube.Container
import PgOperator.Kube.Service
import PgOperator.Kube.Volume

/-!
Merging what is desired into what is live.

Lists are merged by a key: an item whose key is there already is updated in its place, a new key
goes to the end. With several items of one key the first one is meant. What an item in place keeps
depends on its type: of a container the fields that the operator does not own stay, and those of
the others only where they are set, while of a port stays what the API server allocated.

Volumes and claims keep nested defaults that the API server filled in. A desired value takes the
place of a live one, but where a top-level field is an object on both sides the desired object is
merged over the live one. Fields that the desired value leaves out stay out.
-/

namespace PgOperator

/-! ### Keyed lists -/

section Keyed

variable {α κ : Type} [DecidableEq κ]

/-- Updates the first item of the given key by `update`, or puts `fresh` at the end. -/
def upsertWith (key : α → κ) (target : κ) (update : α → α) (fresh : α) : List α → List α
  | [] => [fresh]
  | item :: rest =>
    if key item = target then update item :: rest
    else item :: upsertWith key target update fresh rest

/-- Replaces the first item of the same key, or puts the item at the end. -/
def upsert (key : α → κ) (items : List α) (item : α) : List α :=
  upsertWith key (key item) (fun _ => item) item items

/-- Upserts items one after the other. -/
def upsertAll (key : α → κ) (items new : List α) : List α := new.foldl (upsert key) items

end Keyed

/-! ### Nested defaults -/

/-- The desired value with the live one's nested defaults. -/
def keepNestedDefaults {α : Type} [Record α] (live desired : α) : α :=
  (Record.decode ((Record.encode live).keepNestedDefaults (Record.encode desired))).getD desired

namespace Kube

/-! ### Metadata -/

namespace ObjectMeta

/-- Adds an owner, in place of one with the same uid. -/
def ensureOwner (metadata : ObjectMeta) (owner : OwnerReference) : ObjectMeta :=
  { metadata with
    ownerReferences := some (upsert (·.uid) (metadata.ownerReferences.getD []) owner) }

/-- Lays labels and annotations over those that are there. -/
def layer (metadata : ObjectMeta) (labels : Dict String) (annotations : Option (Dict String)) :
    ObjectMeta :=
  { metadata with
    labels := some ((metadata.labels.getD .empty).extend labels)
    annotations := match annotations with
      | some upper =>
        if upper.isEmpty then metadata.annotations
        else some ((metadata.annotations.getD .empty).extend upper)
      | none => metadata.annotations }

end ObjectMeta

/-! ### Volumes and claims -/

/-- Puts a volume in place of the one of its name, or at the end. -/
def upsertVolume (volumes : List Volume) (volume : Volume) : List Volume :=
  upsertWith (·.name) volume.name (keepNestedDefaults · volume) volume volumes

/-- Puts a claim in place of the one of its name, or at the end. A claim without a status keeps
the live one. -/
def upsertClaim (claims : List PersistentVolumeClaim) (claim : PersistentVolumeClaim) :
    List PersistentVolumeClaim :=
  upsertWith (·.metadata.name) claim.metadata.name
    (fun live => keepNestedDefaults live { claim with status := claim.status <|> live.status })
    claim claims

/-! ### Containers -/

def upsertEnv (env vars : List EnvVar) : List EnvVar := upsertAll (·.name) env vars

def upsertMount (mounts : List VolumeMount) (mount : VolumeMount) : List VolumeMount :=
  upsert (·.name) mounts mount

/-- Lays a desired probe over the live one: timing and the scheme of a request that are left out
keep their live values. -/
def mergeProbe (live desired : Option Probe) : Option Probe :=
  match desired, live with
  | some desired, some live =>
    some { desired with
      timeoutSeconds := desired.timeoutSeconds <|> live.timeoutSeconds
      periodSeconds := desired.periodSeconds <|> live.periodSeconds
      successThreshold := desired.successThreshold <|> live.successThreshold
      failureThreshold := desired.failureThreshold <|> live.failureThreshold
      httpGet := match desired.httpGet, live.httpGet with
        | some get, some liveGet => some { get with scheme := get.scheme <|> liveGet.scheme }
        | get, _ => get }
  | desired, _ => desired

/-- The desired ports; one without a protocol takes that of the live port of its number. -/
def mergeContainerPorts (live desired : List ContainerPort) : List ContainerPort :=
  desired.map fun port =>
    { port with
      protocol := port.protocol <|>
        (live.find? fun p => p.containerPort = port.containerPort).bind (·.protocol) }

/-- Merges a desired container into the live one of its name. -/
def mergeContainer (live desired : Container) : Container :=
  { live with
    image := desired.image
    ports := desired.ports.map (mergeContainerPorts (live.ports.getD []))
    livenessProbe := mergeProbe live.livenessProbe desired.livenessProbe
    readinessProbe := mergeProbe live.readinessProbe desired.readinessProbe
    lifecycle := desired.lifecycle
    imagePullPolicy := desired.imagePullPolicy <|> live.imagePullPolicy
    command := desired.command <|> live.command
    args := desired.args <|> live.args
    resources := desired.resources <|> live.resources
    securityContext := desired.securityContext <|> live.securityContext
    env := match desired.env with
      | some env => some (upsertEnv (live.env.getD []) env)
      | none => live.env
    volumeMounts := match desired.volumeMounts with
      | some mounts => some (mounts.foldl upsertMount (live.volumeMounts.getD []))
      | none => live.volumeMounts }

/-- Merges a container into the one of its name, or puts it at the end. -/
def upsertContainer (containers : List Container) (desired : Container) : List Container :=
  upsertWith (·.name) desired.name (mergeContainer · desired) desired containers

/-- Merges containers one after the other. -/
def upsertContainers (containers desired : List Container) : List Container :=
  desired.foldl upsertContainer containers

/-! ### Ports of a service -/

/-- The desired ports; one that is live already keeps the node port that was allocated, and its
protocol, where it names none. -/
def mergeServicePorts (live desired : List ServicePort) : List ServicePort :=
  desired.map fun port =>
    match live.find? fun p => p.name = port.name with
    | some old =>
      { port with
        nodePort := port.nodePort <|> old.nodePort
        protocol := port.protocol <|> old.protocol }
    | none => port

/-- Whether a target is the zero port or the empty name, which stand for no target. -/
def isZeroTarget : IntOrText → Bool
  | .int n => n = 0
  | .text s => s = ""

/-- Lays the fields that a user's port sets over a port. -/
def overlayPort (port upper : ServicePort) : ServicePort :=
  { port with
    port := if upper.port = 0 then port.port else upper.port
    nodePort := match upper.nodePort with
      | some n => if 0 < n then some n else port.nodePort
      | none => port.nodePort
    protocol := upper.protocol <|> port.protocol
    targetPort := match upper.targetPort with
      | some target => if isZeroTarget target then port.targetPort else some target
      | none => port.targetPort
    appProtocol := upper.appProtocol <|> port.appProtocol }

/-- Lays a user's ports over the given ones; new names go to the end. -/
def overlayServicePorts (ports overrides : List ServicePort) : List ServicePort :=
  overrides.foldl
    (fun ports upper => upsertWith (·.name) upper.name (overlayPort · upper) upper ports) ports

end Kube

end PgOperator
