import Mathlib.Data.List.Forall2
import Mathlib.Tactic.Lemma
import PgOperator.Kube.StatefulSet
import PgOperator.Proofs.Filling

/-!
Stateful sets as the API server gives them back.

The server fills fields in that are unset in what it is sent: how images are pulled, the timing of
probes, protocols of ports, modes inside the sources of volumes, the mode and the phase of claims,
and how the pod restarts, resolves names, is scheduled and ends. `StatefulSet.Filled` says that
nothing else has changed, and `StatefulSet.defaulted` is what a server makes of a stateful set that
fills in all of this.
-/

namespace PgOperator

open Kube Record

namespace Kube

/-! ### What the server fills in -/

structure HTTPGetAction.Filled (old new : HTTPGetAction) : Prop where
  scheme : Fills old.scheme new.scheme
  others : new = { old with scheme := new.scheme }

structure Probe.Filled (old new : Probe) : Prop where
  httpGet : Option.Rel HTTPGetAction.Filled old.httpGet new.httpGet
  timeoutSeconds : Fills old.timeoutSeconds new.timeoutSeconds
  periodSeconds : Fills old.periodSeconds new.periodSeconds
  successThreshold : Fills old.successThreshold new.successThreshold
  failureThreshold : Fills old.failureThreshold new.failureThreshold
  others : new =
    { old with
      httpGet := new.httpGet
      timeoutSeconds := new.timeoutSeconds
      periodSeconds := new.periodSeconds
      successThreshold := new.successThreshold
      failureThreshold := new.failureThreshold }

structure ContainerPort.Filled (old new : ContainerPort) : Prop where
  protocol : Fills old.protocol new.protocol
  others : new = { old with protocol := new.protocol }

lemma ContainerPort.Filled.containerPort {old new : ContainerPort} (h : old.Filled new) :
    new.containerPort = old.containerPort := by
  rw [h.others]

/-- A container of which the server may fill in how its image is pulled, where it leaves its last
words, its resources, and fields of its probes and ports. -/
structure Container.Filled (old new : Container) : Prop where
  imagePullPolicy : Fills old.imagePullPolicy new.imagePullPolicy
  terminationMessagePath : Fills old.terminationMessagePath new.terminationMessagePath
  terminationMessagePolicy : Fills old.terminationMessagePolicy new.terminationMessagePolicy
  resources : Fills old.resources new.resources
  livenessProbe : Option.Rel Probe.Filled old.livenessProbe new.livenessProbe
  readinessProbe : Option.Rel Probe.Filled old.readinessProbe new.readinessProbe
  ports : Option.Rel (List.Forall₂ ContainerPort.Filled) old.ports new.ports
  others : new =
    { old with
      imagePullPolicy := new.imagePullPolicy
      terminationMessagePath := new.terminationMessagePath
      terminationMessagePolicy := new.terminationMessagePolicy
      resources := new.resources
      livenessProbe := new.livenessProbe
      readinessProbe := new.readinessProbe
      ports := new.ports }

/-- A volume with the source it has, inside of which fields may be filled in. -/
def Volume.Filled (old new : Volume) : Prop := FilledWithin old new

/-- A claim template whose mode and phase may be filled in, with the status around the phase. -/
structure PersistentVolumeClaim.Filled (old new : PersistentVolumeClaim) : Prop where
  metadata : new.metadata = old.metadata
  spec : new.spec = old.spec ∨ old.spec.bind (·.volumeMode) = none ∧
    ∃ mode, new.spec = some { old.spec.getD {} with volumeMode := some mode }
  status : new.status = old.status ∨ old.status.bind (·.phase) = none ∧
    ∃ phase, new.status = some { old.status.getD {} with phase := some phase }

/-- A pod of which the server may fill in how it restarts, resolves names, is scheduled and ends,
and fields of its containers and inside the sources of its volumes. -/
structure PodSpec.Filled (old new : PodSpec) : Prop where
  restartPolicy : Fills old.restartPolicy new.restartPolicy
  dnsPolicy : Fills old.dnsPolicy new.dnsPolicy
  schedulerName : Fills old.schedulerName new.schedulerName
  terminationGracePeriodSeconds :
    Fills old.terminationGracePeriodSeconds new.terminationGracePeriodSeconds
  initContainers : Option.Rel (List.Forall₂ Container.Filled) old.initContainers new.initContainers
  containers : List.Forall₂ Container.Filled old.containers new.containers
  volumes : Option.Rel (List.Forall₂ Volume.Filled) old.volumes new.volumes
  others : new =
    { old with
      restartPolicy := new.restartPolicy
      dnsPolicy := new.dnsPolicy
      schedulerName := new.schedulerName
      terminationGracePeriodSeconds := new.terminationGracePeriodSeconds
      initContainers := new.initContainers
      containers := new.containers
      volumes := new.volumes }

structure StatefulSetSpec.Filled (old new : StatefulSetSpec) : Prop where
  pod : Option.Rel PodSpec.Filled old.template.spec new.template.spec
  claims : Option.Rel (List.Forall₂ PersistentVolumeClaim.Filled) old.volumeClaimTemplates
    new.volumeClaimTemplates
  others : new =
    { old with
      template := { old.template with spec := new.template.spec }
      volumeClaimTemplates := new.volumeClaimTemplates }

structure StatefulSet.Filled (old new : StatefulSet) : Prop where
  spec : Option.Rel StatefulSetSpec.Filled old.spec new.spec
  others : new = { old with spec := new.spec }

end Kube

/-! ### A server that fills in whatever it may -/

namespace Kube

/-- The request over plain HTTP if it does not say otherwise. -/
def HTTPGetAction.defaulted (get : HTTPGetAction) : HTTPGetAction :=
  { get with scheme := get.scheme.or (some "HTTP") }

lemma HTTPGetAction.filled_defaulted (get : HTTPGetAction) : get.Filled get.defaulted :=
  ⟨fills_or _ _, rfl⟩

def Probe.defaulted (probe : Probe) : Probe :=
  { probe with
    httpGet := probe.httpGet.map (·.defaulted)
    timeoutSeconds := probe.timeoutSeconds.or (some 1)
    periodSeconds := probe.periodSeconds.or (some 10)
    successThreshold := probe.successThreshold.or (some 1)
    failureThreshold := probe.failureThreshold.or (some 3) }

lemma Probe.filled_defaulted (probe : Probe) : probe.Filled probe.defaulted :=
  ⟨rel_map HTTPGetAction.filled_defaulted _, fills_or _ _, fills_or _ _, fills_or _ _,
    fills_or _ _, rfl⟩

def ContainerPort.defaulted (port : ContainerPort) : ContainerPort :=
  { port with protocol := port.protocol.or (some "TCP") }

lemma ContainerPort.filled_defaulted (port : ContainerPort) : port.Filled port.defaulted :=
  ⟨fills_or _ _, rfl⟩

def Container.defaulted (c : Container) : Container :=
  { c with
    imagePullPolicy := c.imagePullPolicy.or (some "IfNotPresent")
    terminationMessagePath := c.terminationMessagePath.or (some "/dev/termination-log")
    terminationMessagePolicy := c.terminationMessagePolicy.or (some "File")
    resources := c.resources.or (some {})
    livenessProbe := c.livenessProbe.map (·.defaulted)
    readinessProbe := c.readinessProbe.map (·.defaulted)
    ports := c.ports.map (List.map (·.defaulted)) }

lemma Container.filled_defaulted (c : Container) : c.Filled c.defaulted :=
  ⟨fills_or _ _, fills_or _ _, fills_or _ _, fills_or _ _, rel_map Probe.filled_defaulted _,
    rel_map Probe.filled_defaulted _,
    rel_map (forall₂_map ContainerPort.filled_defaulted) _, rfl⟩

/-- The volume with the mode of the files of its secret. -/
def Volume.defaulted (volume : Volume) : Volume :=
  { volume with
    secret := volume.secret.map fun source =>
      { source with other := (source.other.1.or (some 420), source.other.2) } }

lemma Volume.filled_defaulted (volume : Volume) : volume.Filled volume.defaulted := by
  have hself := filledWithin_refl volume
  refine ⟨hself.1, hself.2.1, hself.2.2.1, hself.2.2.2.1, hself.2.2.2.2.1, ?_,
    hself.2.2.2.2.2.2⟩
  show Option.Rel _ (volume.secret.map toVal) ((volume.secret.map _).map toVal)
  rw [Option.map_map]
  cases volume.secret with
  | none => exact .none
  | some source =>
    have hsource := SecretVolumeSource.fields.filled_refl (toVal source)
    refine .some ⟨hsource.1, fun mode hmode => ⟨mode, ?_, rfl⟩, hsource.2.2⟩
    exact fills_or _ _ mode hmode

/-- The claim of a file system that nobody has bound yet. -/
def PersistentVolumeClaim.defaulted (claim : PersistentVolumeClaim) : PersistentVolumeClaim :=
  { claim with
    spec := claim.spec.map fun spec =>
      { spec with volumeMode := spec.volumeMode.or (some "Filesystem") }
    status := some { claim.status.getD {} with
      phase := (claim.status.bind (·.phase)).or (some "Pending") } }

lemma PersistentVolumeClaim.filled_defaulted (claim : PersistentVolumeClaim) :
    claim.Filled claim.defaulted := by
  obtain ⟨metadata, spec, status⟩ := claim
  refine ⟨rfl, ?_, ?_⟩
  · cases spec with
    | none => exact .inl rfl
    | some spec =>
      obtain ⟨modes, storageClass, resources, mode, other⟩ := spec
      cases mode with
      | none => exact .inr ⟨rfl, _, rfl⟩
      | some mode => exact .inl rfl
  · cases status with
    | none => exact .inr ⟨rfl, _, rfl⟩
    | some status =>
      obtain ⟨phase, other⟩ := status
      cases phase with
      | none => exact .inr ⟨rfl, _, rfl⟩
      | some phase => exact .inl rfl

def PodSpec.defaulted (pod : PodSpec) : PodSpec :=
  { pod with
    restartPolicy := pod.restartPolicy.or (some "Always")
    dnsPolicy := pod.dnsPolicy.or (some "ClusterFirst")
    schedulerName := pod.schedulerName.or (some "default-scheduler")
    terminationGracePeriodSeconds := pod.terminationGracePeriodSeconds.or (some 30)
    initContainers := pod.initContainers.map (List.map (·.defaulted))
    containers := pod.containers.map (·.defaulted)
    volumes := pod.volumes.map (List.map (·.defaulted)) }

lemma PodSpec.filled_defaulted (pod : PodSpec) : pod.Filled pod.defaulted :=
  ⟨fills_or _ _, fills_or _ _, fills_or _ _, fills_or _ _,
    rel_map (forall₂_map Container.filled_defaulted) _, forall₂_map Container.filled_defaulted _,
    rel_map (forall₂_map Volume.filled_defaulted) _, rfl⟩

/-- The stateful set as the server gives it back. -/
def StatefulSet.defaulted (set : StatefulSet) : StatefulSet :=
  { set with
    spec := set.spec.map fun spec =>
      { spec with
        template := { spec.template with spec := spec.template.spec.map (·.defaulted) }
        volumeClaimTemplates := spec.volumeClaimTemplates.map (List.map (·.defaulted)) } }

lemma StatefulSet.filled_defaulted (set : StatefulSet) : set.Filled set.defaulted := by
  refine ⟨rel_map (fun spec => ⟨?_, ?_, rfl⟩) _, rfl⟩
  · exact rel_map PodSpec.filled_defaulted _
  · exact rel_map (forall₂_map PersistentVolumeClaim.filled_defaulted) _

end Kube

end PgOperator
