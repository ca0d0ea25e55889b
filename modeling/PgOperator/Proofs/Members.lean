import Mathlib.Tactic.Lemma
import PgOperator.Desired
import PgOperator.Proofs.Containers
import PgOperator.Proofs.Services
import PgOperator.Proofs.Volumes

/-!
The stateful set is steady.

This asks of the instance that its init containers have different names and that no part of them
or variable of the exporter stands twice (`Unambiguous`): of two items of one name the second one
would be laid over the first one in every pass.
-/

namespace PgOperator

open Kube Record

namespace Postgres

/-- The user's containers have different names, and none of their parts is given twice. -/
structure Unambiguous (db : Postgres) : Prop where
  initNames : (db.spec.podTemplate.spec.initContainers.map (·.name)).Nodup
  initParts : ∀ c ∈ db.spec.podTemplate.spec.initContainers, c.Distinct
  exporterEnv : ∀ monitor, db.spec.monitor = some monitor →
    (monitor.exporter.env.map (·.name)).Nodup

variable {db : Postgres} {version : PostgresVersion} {options : Options}

/-! ### Names of variables -/

@[simp] lemma name_plainVar (name value : String) : (plainVar name value).name = name := rfl

@[simp] lemma name_secretVar (name secret key : String) :
    (secretVar name secret key).name = name := rfl

lemma exists_name_of_mem_remoteEnv {stem dir : String} {backend : Backend} :
    ∀ var ∈ remoteEnv stem backend dir, ∃ rest, var.name = stem ++ rest := by
  intro var hvar
  rcases List.mem_cons.1 hvar with rfl | hvar
  · exact ⟨"_" ++ (backend.infixText ++ "_PREFIX"), by
      simp only [remoteVar, name_plainVar, String.append_assoc]⟩
  · cases backend with
    | s3 store =>
      simp only [s3Env, List.mem_append, List.mem_ite_nil_right, List.mem_singleton] at hvar
      rcases hvar with ⟨-, rfl⟩ | ⟨-, rfl⟩ <;> exact ⟨_, rfl⟩
    | _ => exact absurd hvar List.not_mem_nil

lemma exists_name_of_mem_archiveEnv {storage : StorageBackend} :
    ∀ var ∈ archiveEnv db storage, ∃ rest, var.name = "ARCHIVE" ++ rest := by
  refine List.forall_mem_cons.2 ⟨⟨"", rfl⟩, ?_⟩
  split
  · exact List.forall_mem_nil _
  · exact List.forall_mem_singleton.2 ⟨"_FILE_PREFIX", rfl⟩
  · exact exists_name_of_mem_remoteEnv

/-- The names of the variables that say where recovery stops. -/
def recoveryNames : List String :=
  ["PITR", "TARGET_INCLUSIVE", "TARGET_TIME", "TARGET_TIMELINE", "TARGET_XID"]

lemma name_of_mem_recoveryTargetEnv {target : RecoveryTarget} :
    ∀ var ∈ recoveryTargetEnv target, var.name ∈ recoveryNames := by
  refine List.forall_mem_append.2 ⟨List.forall_mem_append.2 ⟨List.forall_mem_append.2
    ⟨?always, ?time⟩, ?timeline⟩, ?xid⟩
  case always => simp [recoveryNames]
  case time | timeline | xid =>
    beta_reduce
    split
    · rename_i value _
      by_cases hvalue : value = "" <;> simp [hvalue, recoveryNames]
    · exact List.forall_mem_nil _

lemma name_of_mem_restoreEnv {wal : WalSource} : ∀ var ∈ restoreEnv wal,
    (∃ rest, var.name = "RESTORE" ++ rest) ∨ var.name ∈ recoveryNames := by
  refine List.forall_mem_cons.2 ⟨.inl ⟨"", rfl⟩, List.forall_mem_append.2 ⟨?_, ?_⟩⟩
  · split
    · exact List.forall_mem_nil _
    · exact List.forall_mem_singleton.2 (.inl ⟨"_FILE_PREFIX", rfl⟩)
    · exact fun var hvar => .inl (exists_name_of_mem_remoteEnv var hvar)
  · split
    · exact fun var hvar => .inr (name_of_mem_recoveryTargetEnv var hvar)
    · exact List.forall_mem_nil _

/-! ### Containers -/

lemma nodup_names_containerEnv (db : Postgres) (options : Options) :
    ((db.containerEnv options).map (·.name)).Nodup := by
  have hfirst : ([plainVar "ANALYTICS_CLIENT_ID" options.analyticsClientId].map (·.name)).Nodup :=
    List.pairwise_singleton _ _
  exact nodup_names_upsertEnv hfirst _

lemma distinct_databaseContainer : (db.databaseContainer version options db.volumes).Distinct where
  env env heq := by
    obtain rfl := Option.some.inj heq
    exact db.nodup_names_containerEnv options
  mounts mounts heq := by
    obtain rfl := Option.some.inj heq
    exact db.nodup_names_mounts
  ports ports heq := by
    obtain rfl := Option.some.inj heq
    exact List.pairwise_singleton _ _

lemma exporterContainer?_eq_some {c : Container} (h : db.exporterContainer? version = some c) :
    ∃ monitor, db.spec.monitor = some monitor ∧ c.name = "exporter" ∧
      c.env = some (db.exporterEnv monitor.exporter) ∧ c.volumeMounts = none ∧
      ∃ port, c.ports = some [port] := by
  unfold exporterContainer? at h
  obtain ⟨monitor, hmonitor, h⟩ := Option.bind_eq_some_iff.1 h
  obtain ⟨-, -, h⟩ := Option.bind_eq_some_iff.1 h
  obtain rfl := Option.some.inj h
  exact ⟨monitor, hmonitor, rfl, rfl, rfl, _, rfl⟩

lemma Unambiguous.distinct_exporterContainer (h : db.Unambiguous) {c : Container}
    (hc : db.exporterContainer? version = some c) : c.Distinct := by
  obtain ⟨monitor, hmonitor, -, henv, hmounts, port, hports⟩ := exporterContainer?_eq_some hc
  refine ⟨fun env heq => ?_, fun mounts heq => ?_, fun ports heq => ?_⟩
  · obtain rfl := Option.some.inj (henv.symm.trans heq)
    exact nodup_names_upsertEnv (h.exporterEnv monitor hmonitor) _
  · exact absurd (hmounts.symm.trans heq).symm (Option.some_ne_none mounts)
  · obtain rfl := Option.some.inj (hports.symm.trans heq)
    exact List.pairwise_singleton _ _

lemma Unambiguous.distinct_containers (h : db.Unambiguous) :
    ∀ c ∈ db.containers version options db.volumes, c.Distinct := by
  intro c hc
  rcases List.mem_cons.1 hc with rfl | hc
  · exact distinct_databaseContainer
  · exact h.distinct_exporterContainer (Option.mem_toList.1 hc)

lemma nodup_names_containers : ((db.containers version options db.volumes).map (·.name)).Nodup := by
  rw [containers, List.map_cons]
  cases hc : db.exporterContainer? version with
  | none => exact List.pairwise_singleton _ _
  | some c =>
    obtain ⟨-, -, hname, -⟩ := exporterContainer?_eq_some hc
    have hne : (db.databaseContainer version options db.volumes).name ≠ c.name := by
      rw [hname]
      exact (by decide : containerName ≠ "exporter")
    simpa using hne

lemma upsertContainers_upsertContainers {desired : List Container} (h : ∀ c ∈ desired, c.Distinct)
    (hnames : (desired.map (·.name)).Nodup) (live : List Container) :
    upsertContainers (upsertContainers live desired) desired = upsertContainers live desired :=
  foldl_lay_foldl_lay (fun c hc => (h c hc).lays) hnames live

/-! ### Volumes -/

/-- The volumes of the pod laid over the live ones; a claim takes the place of a data volume. -/
def mergedVolumes (db : Postgres) (live : List Volume) : List Volume :=
  match db.volumes.data with
  | .claim _ =>
    (db.volumes.volumes.foldl upsertVolume live).filter fun v => v.name ≠ VolumeSet.dataName
  | .ephemeral _ => db.volumes.volumes.foldl upsertVolume live

lemma lays_of_mem_volumes : ∀ volume ∈ db.volumes.volumes,
    Lays (·.name) (fun live volume : Volume => keepNestedDefaults live volume) volume :=
  fun volume h => lays_volume (db.whole_of_mem_volumes volume h)

lemma laid_mergedVolumes (live : List Volume) : ∀ volume ∈ db.volumes.volumes,
    Laid (·.name) (fun live volume : Volume => keepNestedDefaults live volume)
      (db.mergedVolumes live) volume := by
  have hlaid := laid_foldl_lay lays_of_mem_volumes db.nodup_names_volumes live
  intro volume hvolume
  unfold mergedVolumes
  cases hdata : db.volumes.data with
  | ephemeral data => exact hlaid volume hvolume
  | claim claim =>
    -- Only volumes of the data volume's name are taken out, and no other volume has that name.
    refine (hlaid volume hvolume).filter fun x hx => decide_eq_true ?_
    rw [show x.name = volume.name from hx]
    exact name_ne_dataName hdata volume hvolume

lemma name_ne_of_mem_mergedVolumes {live : List Volume} {claim : PersistentVolumeClaim}
    (h : db.volumes.data = .claim claim) :
    ∀ volume ∈ db.mergedVolumes live, volume.name ≠ VolumeSet.dataName := by
  intro volume hvolume
  rw [mergedVolumes, h] at hvolume
  simpa using (List.mem_filter.1 hvolume).2

lemma mergedVolumes_eq_self {live : List Volume}
    (hlaid : ∀ volume ∈ db.volumes.volumes,
      Laid (·.name) (fun live volume : Volume => keepNestedDefaults live volume) live volume)
    (hnames : ∀ claim, db.volumes.data = .claim claim →
      ∀ volume ∈ live, volume.name ≠ VolumeSet.dataName) :
    db.mergedVolumes live = live := by
  have hmerged : db.volumes.volumes.foldl upsertVolume live = live := foldl_lay_of_laid hlaid
  unfold mergedVolumes
  cases hdata : db.volumes.data with
  | ephemeral data => exact hmerged
  | claim claim =>
    refine (congrArg (List.filter _) hmerged).trans (List.filter_eq_self.2 fun volume hvolume => ?_)
    simpa using hnames claim hdata volume hvolume

lemma mergedVolumes_mergedVolumes (live : List Volume) :
    db.mergedVolumes (db.mergedVolumes live) = db.mergedVolumes live :=
  mergedVolumes_eq_self (laid_mergedVolumes live) fun _ => name_ne_of_mem_mergedVolumes

lemma whole_of_mem_mergedVolumes {live : List Volume} (h : ∀ volume ∈ live, Whole volume) :
    ∀ volume ∈ db.mergedVolumes live, Whole volume := by
  have hmerged : ∀ volume ∈ db.volumes.volumes.foldl upsertVolume live, Whole volume :=
    forall_mem_foldl_lay h db.whole_of_mem_volumes fun live _ volume _ =>
      mergeable_volume.whole_keepNestedDefaults live volume
  unfold mergedVolumes
  split
  · exact fun volume hvolume => hmerged volume (List.mem_filter.1 hvolume).1
  · exact hmerged

/-! ### The pod -/

lemma podSpec_eq (live : PodSpec) : db.podSpec version options live =
    { live with
      initContainers :=
        if db.spec.podTemplate.spec.initContainers.isEmpty then live.initContainers
        else some (upsertContainers (live.initContainers.getD [])
          db.spec.podTemplate.spec.initContainers)
      containers := upsertContainers live.containers (db.containers version options db.volumes)
      nodeSelector := db.spec.podTemplate.spec.nodeSelector
      affinity := db.spec.podTemplate.spec.affinity
      schedulerName := givenOr db.spec.podTemplate.spec.schedulerName live.schedulerName
      tolerations := db.spec.podTemplate.spec.tolerations
      imagePullSecrets := db.spec.podTemplate.spec.imagePullSecrets
      priorityClassName := db.spec.podTemplate.spec.priorityClassName
      priority := db.spec.podTemplate.spec.priority
      securityContext :=
        some (db.spec.podTemplate.spec.securityContext.getD Table.podSecurityContext.zero)
      serviceAccountName := db.spec.podTemplate.spec.serviceAccountName
      volumes := some (db.mergedVolumes (live.volumes.getD [])) } := rfl

lemma Unambiguous.podSpec_podSpec (h : db.Unambiguous) (live : PodSpec) :
    db.podSpec version options (db.podSpec version options live) =
      db.podSpec version options live := by
  have hdistinct : ∀ c ∈ db.containers version options db.volumes, c.Distinct :=
    h.distinct_containers
  have hcontainers :=
    upsertContainers_upsertContainers hdistinct nodup_names_containers live.containers
  have hinits := upsertContainers_upsertContainers h.initParts h.initNames
    (live.initContainers.getD [])
  simp only [podSpec_eq, hcontainers, (setsOrLeaves_givenOr _).again, Option.getD_some,
    mergedVolumes_mergedVolumes]
  split
  · rfl
  · rw [Option.getD_some, hinits]

lemma whole_podSpec {live : PodSpec} (h : Whole live) :
    Whole (db.podSpec version options live) := by
  refine whole_podSpec_iff.2 fun volumes heq => ?_
  obtain rfl := Option.some.inj heq
  refine whole_of_mem_mergedVolumes fun volume hvolume => ?_
  cases hlive : live.volumes with
  | none => simp [hlive] at hvolume
  | some volumes =>
    rw [hlive] at hvolume
    exact whole_podSpec_iff.1 h volumes hlive volume hvolume

/-! ### Claims -/

lemma claimTemplates_claimTemplates (live : Option (List PersistentVolumeClaim)) :
    db.claimTemplates (db.claimTemplates live) = db.claimTemplates live := by
  unfold claimTemplates
  rcases db.dataVolume_cases with ⟨volume, hdata, -⟩ | ⟨claim, hdata, hname, hstatus, hwhole⟩
  · simp only [hdata, Option.map_map]
    cases live <;> simp [List.filter_filter]
  · simp only [hdata, Option.getD_some]
    exact congrArg some ((lays_claim hwhole hname hstatus).laid_lay (live.getD [])).lay_eq

lemma whole_of_mem_claimTemplates {live : Option (List PersistentVolumeClaim)}
    (h : ∀ claims, live = some claims → ∀ claim ∈ claims, Whole claim) :
    ∀ claims, db.claimTemplates live = some claims → ∀ claim ∈ claims, Whole claim := by
  intro claims heq
  unfold claimTemplates at heq
  rcases db.dataVolume_cases with ⟨volume, hdata, -⟩ | ⟨claim, hdata, hname, hstatus, hwhole⟩
  · rw [hdata] at heq
    obtain ⟨items, hlive, rfl⟩ := Option.map_eq_some_iff.1 heq
    exact fun claim hclaim => h items hlive claim (List.mem_filter.1 hclaim).1
  · rw [hdata] at heq
    obtain rfl := Option.some.inj heq
    have hlive : ∀ other ∈ live.getD [], Whole other := by
      cases live with
      | none => exact fun _ hother => absurd hother List.not_mem_nil
      | some items => exact h items rfl
    intro other hother
    have hother : other ∈ lay (·.metadata.name) layClaim (live.getD []) claim := hother
    rcases mem_lay hother with hother | rfl | ⟨other, -, -, rfl⟩
    · exact hlive other hother
    · exact hwhole
    · exact mergeable_claim.whole_keepNestedDefaults _ _

/-! ### The stateful set -/

lemma whole_statefulSet {live : StatefulSet} (h : Whole live) :
    Whole (db.statefulSet version options live) := by
  obtain ⟨hmetadata, hlive, hstatus⟩ := whole_statefulSet_iff.1 h
  refine whole_statefulSet_iff.2
    ⟨(ObjectMeta.steady_layer_ensureOwner _ _ _).whole hmetadata, fun spec heq => ?_, hstatus⟩
  obtain rfl := Option.some.inj heq
  obtain ⟨htemplate, hclaims⟩ :=
    whole_statefulSetSpec_iff.1 (whole_getD hlive whole_blankSpec)
  obtain ⟨hmeta, hpod⟩ := whole_podTemplate_iff.1 htemplate
  have hlayer := (ObjectMeta.steady_layer db.selectors db.spec.podTemplate.annotations).whole
    (whole_getD hmeta whole_blankMeta)
  refine whole_statefulSetSpec_iff.2 ⟨whole_podTemplate_iff.2 ⟨?_, ?_⟩,
    whole_of_mem_claimTemplates hclaims⟩
  · exact fun metadata heq => Option.some.inj heq ▸ hlayer
  · exact fun pod heq => Option.some.inj heq ▸ whole_podSpec (whole_getD hpod whole_blankPod)

/-- **The stateful set is steady**, where the user's containers are told apart by name. -/
theorem Unambiguous.steady_statefulSet (h : db.Unambiguous) :
    Kind.Steady .statefulSet (db.statefulSet version options) := by
  let template := db.spec.podTemplate
  let specify (spec : StatefulSetSpec) : StatefulSetSpec := { spec with
    replicas := some db.replicas
    serviceName := db.governingServiceName
    selector := { matchLabels := some db.selectors }
    updateStrategy := some { type := some "OnDelete" }
    template := {
      metadata := some ((spec.template.metadata.getD {}).layer db.selectors template.annotations)
      spec := some (db.podSpec version options (spec.template.spec.getD {})) }
    volumeClaimTemplates := db.claimTemplates spec.volumeClaimTemplates }
  have hspec (spec : StatefulSetSpec) : specify (specify spec) = specify spec := by
    simp only [specify, Option.getD_some, ObjectMeta.layer_layer, h.podSpec_podSpec,
      claimTemplates_claimTemplates]
  have hmeta := ObjectMeta.steady_layer_ensureOwner db.ownerReference db.labels
    template.controller.annotations
  exact Kind.steady_revise .statefulSet hmeta whole_statefulSet hspec

end Postgres

end PgOperator
