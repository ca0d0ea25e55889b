import Mathlib.Tactic.Lemma
import PgOperator.Proofs.Members

/-!
The parts of a stateful set, and what becomes of each of them.

A part that is missing counts as a blank one, and a missing list as the empty one. Seen in this way
every list of a stateful set is merged by itself, whatever the live one was like.
-/

namespace PgOperator

open Kube

namespace Kube

namespace Container

def envList (c : Container) : List EnvVar := c.env.getD []

def mountList (c : Container) : List VolumeMount := c.volumeMounts.getD []

@[simp] lemma envList_mergeContainer (live desired : Container) :
    (mergeContainer live desired).envList = upsertEnv live.envList desired.envList := by
  simp only [envList, mergeContainer_eq]
  cases desired.env <;> rfl

@[simp] lemma mountList_mergeContainer (live desired : Container) :
    (mergeContainer live desired).mountList =
      desired.mountList.foldl upsertMount live.mountList := by
  simp only [mountList, mergeContainer_eq]
  cases desired.volumeMounts <;> rfl

end Container

namespace PodSpec

def inits (pod : PodSpec) : List Container := pod.initContainers.getD []

def volumeList (pod : PodSpec) : List Volume := pod.volumes.getD []

end PodSpec

namespace StatefulSet

def specification (set : StatefulSet) : StatefulSetSpec := set.spec.getD {}

def templateMetadata (set : StatefulSet) : ObjectMeta :=
  set.specification.template.metadata.getD {}

def pod (set : StatefulSet) : PodSpec := set.specification.template.spec.getD {}

def claims (set : StatefulSet) : List PersistentVolumeClaim :=
  set.specification.volumeClaimTemplates.getD []

/-- The container that the database runs in. -/
def databaseContainer? (set : StatefulSet) : Option Container :=
  set.pod.containers.find? fun c => c.name = Postgres.containerName

def databaseEnv (set : StatefulSet) : List EnvVar :=
  (set.databaseContainer?.map (·.envList)).getD []

def databaseMounts (set : StatefulSet) : List VolumeMount :=
  (set.databaseContainer?.map (·.mountList)).getD []

end StatefulSet

end Kube

namespace Postgres

variable (db : Postgres) (version : PostgresVersion) (options : Options)

/-- The claim templates laid over the live ones; a data volume takes the place of a claim. -/
def mergedClaims (live : List PersistentVolumeClaim) : List PersistentVolumeClaim :=
  match db.dataVolume with
  | .claim claim => upsertClaim live claim
  | .ephemeral _ => live.filter fun c => c.metadata.name ≠ some VolumeSet.dataName

@[simp] lemma metadata_statefulSet (live : StatefulSet) :
    (db.statefulSet version options live).metadata =
      (live.metadata.layer db.labels db.spec.podTemplate.controller.annotations).ensureOwner
        db.ownerReference := rfl

@[simp] lemma templateMetadata_statefulSet (live : StatefulSet) :
    (db.statefulSet version options live).templateMetadata =
      live.templateMetadata.layer db.selectors db.spec.podTemplate.annotations := rfl

@[simp] lemma pod_statefulSet (live : StatefulSet) :
    (db.statefulSet version options live).pod = db.podSpec version options live.pod := rfl

@[simp] lemma claims_statefulSet (live : StatefulSet) :
    (db.statefulSet version options live).claims = db.mergedClaims live.claims := by
  show (db.claimTemplates live.specification.volumeClaimTemplates).getD [] =
    db.mergedClaims (live.specification.volumeClaimTemplates.getD [])
  unfold claimTemplates mergedClaims
  cases db.dataVolume with
  | claim claim => rfl
  | ephemeral volume => cases live.specification.volumeClaimTemplates <;> rfl

@[simp] lemma containers_podSpec (live : PodSpec) :
    (db.podSpec version options live).containers =
      upsertContainers live.containers (db.containers version options db.volumes) := rfl

@[simp] lemma inits_podSpec (live : PodSpec) :
    (db.podSpec version options live).inits =
      upsertContainers live.inits db.spec.podTemplate.spec.initContainers := by
  simp only [PodSpec.inits, podSpec_eq]
  cases db.spec.podTemplate.spec.initContainers <;> rfl

@[simp] lemma volumeList_podSpec (live : PodSpec) :
    (db.podSpec version options live).volumeList = db.mergedVolumes live.volumeList := rfl

/-! ### The database container -/

/-- The exporter has another name, so what is found is the desired container, merged into the one
that was found before. -/
lemma databaseContainer?_statefulSet (live : StatefulSet) :
    (db.statefulSet version options live).databaseContainer? =
      some ((live.databaseContainer?.map
        (mergeContainer · (db.databaseContainer version options db.volumes))).getD
          (db.databaseContainer version options db.volumes)) := by
  have hfirst := find?_lay_self
    (keepsKey_container (db.databaseContainer version options db.volumes)) live.pod.containers
  rw [StatefulSet.databaseContainer?, pod_statefulSet, containers_podSpec, containers,
    upsertContainers, List.foldl_cons]
  cases hexp : db.exporterContainer? version with
  | none => exact hfirst
  | some exporter =>
    obtain ⟨-, -, hname, -⟩ := exporterContainer?_eq_some hexp
    have hne : containerName ≠ exporter.name := by
      rw [hname]
      decide
    exact (find?_lay_of_ne (keepsKey_container exporter) hne _).trans hfirst

@[simp] lemma databaseEnv_statefulSet (live : StatefulSet) :
    (db.statefulSet version options live).databaseEnv =
      upsertEnv live.databaseEnv (db.containerEnv options) := by
  rw [StatefulSet.databaseEnv, StatefulSet.databaseEnv, databaseContainer?_statefulSet]
  cases live.databaseContainer? with
  | some old =>
    exact Container.envList_mergeContainer old (db.databaseContainer version options db.volumes)
  | none =>
    have hnames := db.nodup_names_containerEnv options
    exact (foldl_lay_nil (fun var _ => keepsKey_replace var) hnames).symm

@[simp] lemma databaseMounts_statefulSet (live : StatefulSet) :
    (db.statefulSet version options live).databaseMounts =
      db.volumes.mounts.foldl upsertMount live.databaseMounts := by
  rw [StatefulSet.databaseMounts, StatefulSet.databaseMounts, databaseContainer?_statefulSet]
  cases live.databaseContainer? with
  | some old =>
    exact Container.mountList_mergeContainer old (db.databaseContainer version options db.volumes)
  | none => exact (foldl_lay_nil (fun mount _ => keepsKey_replace mount) db.nodup_names_mounts).symm

/-! ### Volumes and claims -/

lemma mergedVolumes_of_claim {claim : PersistentVolumeClaim} (h : db.dataVolume = .claim claim)
    (live : List Volume) : db.mergedVolumes live =
      (db.volumes.volumes.foldl upsertVolume live).filter fun v => v.name ≠ VolumeSet.dataName := by
  rw [mergedVolumes, show db.volumes.data = _ from h]

lemma mergedVolumes_of_ephemeral {volume : Volume} (h : db.dataVolume = .ephemeral volume)
    (live : List Volume) :
    db.mergedVolumes live = db.volumes.volumes.foldl upsertVolume live := by
  rw [mergedVolumes, show db.volumes.data = _ from h]

lemma mergedClaims_of_claim {claim : PersistentVolumeClaim} (h : db.dataVolume = .claim claim)
    (live : List PersistentVolumeClaim) : db.mergedClaims live = upsertClaim live claim := by
  rw [mergedClaims, h]

lemma mergedClaims_of_ephemeral {volume : Volume} (h : db.dataVolume = .ephemeral volume)
    (live : List PersistentVolumeClaim) : db.mergedClaims live =
      live.filter fun c => c.metadata.name ≠ some VolumeSet.dataName := by
  rw [mergedClaims, h]

end Postgres

end PgOperator
