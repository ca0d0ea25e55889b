import Mathlib.Tactic.Lemma
import PgOperator.Proofs.Workload

/-!
The stateful set stays well formed, whatever becomes of the instance.

In a well-formed stateful set items that are told apart by name have different names, and every
mount names a volume or a claim. Merging adds names and takes away none but that of the data volume,
which is on a claim whenever it is not in the pod (`backs_statefulSet`); so mounts that an earlier
specification brought still name something, and a stateful set that is well formed is well formed
after any history of specifications (`wellFormed_history`).
-/

namespace PgOperator

open Kube

namespace Kube

structure Container.DistinctParts (c : Container) : Prop where
  env : (c.envList.map (·.name)).Nodup
  mounts : (c.mountList.map (·.name)).Nodup

lemma Container.DistinctParts.mergeContainer {live : Container} (h : live.DistinctParts)
    (c : Container) : (mergeContainer live c).DistinctParts where
  env := by
    rw [envList_mergeContainer]
    exact nodup_names_upsertEnv h.env _
  mounts := by
    rw [mountList_mergeContainer]
    exact nodup_keys_foldl_lay (fun mount _ => keepsKey_replace mount) h.mounts

namespace StatefulSet

def volumeNames (set : StatefulSet) : List String := set.pod.volumeList.map (·.name)

def claimNames (set : StatefulSet) : List (Option String) := set.claims.map (·.metadata.name)

/-- There is a volume or a claim template of the name. -/
def Backs (set : StatefulSet) (name : String) : Prop :=
  name ∈ set.volumeNames ∨ some name ∈ set.claimNames

/-- Names tell apart what they are to tell apart, and no mount of a container dangles. -/
structure WellFormed (set : StatefulSet) : Prop where
  containers : (set.pod.containers.map (·.name)).Nodup
  inits : (set.pod.inits.map (·.name)).Nodup
  parts : ∀ c ∈ set.pod.containers ++ set.pod.inits, c.DistinctParts
  volumes : set.volumeNames.Nodup
  claims : set.claimNames.Nodup
  owners : ((set.metadata.ownerReferences.getD []).map (·.uid)).Nodup
  mounts : ∀ c ∈ set.pod.containers, ∀ mount ∈ c.mountList, set.Backs mount.name

abbrev dataMount : VolumeMount := { name := VolumeSet.dataName, mountPath := "/var/pv" }

/-- The data is on a claim or in the pod, as the storage type says, but not in both places, and
the database container mounts it. -/
structure DataAt (set : StatefulSet) (storage : StorageType) : Prop where
  durable : storage = .durable →
    some VolumeSet.dataName ∈ set.claimNames ∧ VolumeSet.dataName ∉ set.volumeNames
  ephemeral : storage = .ephemeral →
    VolumeSet.dataName ∈ set.volumeNames ∧ some VolumeSet.dataName ∉ set.claimNames
  mounted : ∃ c ∈ set.pod.containers, c.name = Postgres.containerName ∧ dataMount ∈ c.mountList

lemma wellFormed_blank : WellFormed {} where
  containers := .nil
  inits := .nil
  parts _ hc := absurd hc List.not_mem_nil
  volumes := .nil
  claims := .nil
  owners := .nil
  mounts _ hc := absurd hc List.not_mem_nil

lemma DataAt.backs {set : StatefulSet} {storage : StorageType} (h : set.DataAt storage) :
    set.Backs VolumeSet.dataName := by
  cases storage with
  | durable => exact .inr (h.durable rfl).1
  | ephemeral => exact .inl (h.ephemeral rfl).1

end StatefulSet

lemma nodup_map_filter {α κ : Type} {key : α → κ} {items : List α} (h : (items.map key).Nodup)
    (p : α → Bool) : ((items.filter p).map key).Nodup :=
  h.sublist (List.filter_sublist.map key)

lemma mem_map_filter_iff {α κ : Type} {key : α → κ} {items : List α} {p : α → Bool} {k : κ}
    (h : ∀ x, key x = k → p x = true) : k ∈ (items.filter p).map key ↔ k ∈ items.map key := by
  simp only [List.mem_map, List.mem_filter]
  constructor
  · rintro ⟨x, ⟨hx, -⟩, rfl⟩
    exact ⟨x, hx, rfl⟩
  · rintro ⟨x, hx, rfl⟩
    exact ⟨x, ⟨hx, h x rfl⟩, rfl⟩

end Kube

namespace Postgres

variable {db : Postgres} {version : PostgresVersion} {options : Options} {live : StatefulSet}

/-- No init container of the user's has two variables or mounts of one name, and no two variables
of the exporter have one name. -/
structure DistinctParts (db : Postgres) : Prop where
  inits : ∀ c ∈ db.spec.podTemplate.spec.initContainers, c.DistinctParts
  exporterEnv : ∀ monitor, db.spec.monitor = some monitor →
    (monitor.exporter.env.map (·.name)).Nodup

/-! ### Where the data is -/

lemma dataVolume_of_durable (h : db.spec.storageType = .durable) :
    ∃ claim, db.dataVolume = .claim claim ∧ claim.metadata.name = some VolumeSet.dataName := by
  rw [dataVolume, h]
  exact ⟨_, rfl, rfl⟩

lemma dataVolume_of_ephemeral (h : db.spec.storageType = .ephemeral) :
    ∃ volume, db.dataVolume = .ephemeral volume ∧ volume.name = VolumeSet.dataName := by
  rw [dataVolume, h]
  exact ⟨_, rfl, rfl⟩

lemma mem_volumes_of_ephemeral {volume : Volume} (h : db.dataVolume = .ephemeral volume) :
    volume ∈ db.volumes.volumes := by
  rw [VolumeSet.volumes, show db.volumes.data = _ from h]
  exact List.mem_append_right _ List.mem_cons_self

lemma keepsKey_of_mem_volumes : ∀ volume ∈ db.volumes.volumes,
    KeepsKey (·.name) (fun live volume : Volume => keepNestedDefaults live volume) volume :=
  fun volume _ => keepsKey_volume volume

lemma exists_dataMount (live : StatefulSet) :
    ∃ c ∈ (db.statefulSet version options live).pod.containers,
      c.name = containerName ∧ StatefulSet.dataMount ∈ c.mountList := by
  have hfound := db.databaseContainer?_statefulSet version options live
  refine ⟨_, List.mem_of_find?_eq_some hfound, by simpa using List.find?_some hfound, ?_⟩
  have hmounts := db.databaseMounts_statefulSet version options live
  rw [StatefulSet.databaseMounts, hfound, Option.map_some, Option.getD_some] at hmounts
  rw [hmounts]
  exact mem_upsertAll_of_mem db.nodup_names_mounts (List.mem_append_right _ List.mem_cons_self)

lemma dataAt_statefulSet (live : StatefulSet) :
    (db.statefulSet version options live).DataAt db.spec.storageType where
  durable h := by
    obtain ⟨claim, hdata, hname⟩ := dataVolume_of_durable h
    constructor
    · rw [StatefulSet.claimNames, claims_statefulSet, db.mergedClaims_of_claim hdata, ← hname]
      exact (mem_keys_lay (keepsKey_claim hname)).2 (.inr rfl)
    · rw [StatefulSet.volumeNames, pod_statefulSet, volumeList_podSpec,
        db.mergedVolumes_of_claim hdata]
      intro hmem
      obtain ⟨volume, hvolume, hvolumeName⟩ := List.mem_map.1 hmem
      exact absurd hvolumeName (by simpa using (List.mem_filter.1 hvolume).2)
  ephemeral h := by
    obtain ⟨volume, hdata, hname⟩ := dataVolume_of_ephemeral h
    constructor
    · rw [StatefulSet.volumeNames, pod_statefulSet, volumeList_podSpec,
        db.mergedVolumes_of_ephemeral hdata, ← hname]
      exact (mem_keys_foldl_lay keepsKey_of_mem_volumes).2
        (.inr (List.mem_map_of_mem (mem_volumes_of_ephemeral hdata)))
    · rw [StatefulSet.claimNames, claims_statefulSet, db.mergedClaims_of_ephemeral hdata]
      intro hmem
      obtain ⟨claim, hclaim, hclaimName⟩ := List.mem_map.1 hmem
      exact absurd hclaimName (by simpa using (List.mem_filter.1 hclaim).2)
  mounted := exists_dataMount live

/-! ### What mounts may name -/

lemma mem_volumeNames_statefulSet {name : String} (h : name ≠ VolumeSet.dataName) :
    name ∈ (db.statefulSet version options live).volumeNames ↔
      name ∈ live.volumeNames ∨ name ∈ db.volumes.volumes.map (·.name) := by
  rw [StatefulSet.volumeNames, pod_statefulSet, volumeList_podSpec]
  rcases db.dataVolume_cases with ⟨volume, hdata, -⟩ | ⟨claim, hdata, -⟩
  · rw [db.mergedVolumes_of_ephemeral hdata]
    exact mem_keys_foldl_lay keepsKey_of_mem_volumes
  · rw [db.mergedVolumes_of_claim hdata,
      mem_map_filter_iff fun volume hname => by simpa [hname] using h]
    exact mem_keys_foldl_lay keepsKey_of_mem_volumes

lemma mem_claimNames_statefulSet {name : Option String} (h : name ≠ some VolumeSet.dataName) :
    name ∈ (db.statefulSet version options live).claimNames ↔ name ∈ live.claimNames := by
  rw [StatefulSet.claimNames, claims_statefulSet]
  rcases db.dataVolume_cases with ⟨volume, hdata, -⟩ | ⟨claim, hdata, hname, -⟩
  · rw [db.mergedClaims_of_ephemeral hdata]
    exact mem_map_filter_iff fun claim hname => by simpa [hname] using h
  · rw [db.mergedClaims_of_claim hdata]
    refine (mem_keys_lay (keepsKey_claim hname)).trans (or_iff_left ?_)
    exact fun heq => h (heq.trans hname)

lemma backs_statefulSet {name : String} : (db.statefulSet version options live).Backs name ↔
    name = VolumeSet.dataName ∨ name ∈ db.volumes.volumes.map (·.name) ∨ live.Backs name := by
  by_cases h : name = VolumeSet.dataName
  · simpa [h] using (dataAt_statefulSet live).backs
  · rw [StatefulSet.Backs, mem_volumeNames_statefulSet h,
      mem_claimNames_statefulSet fun heq => h (Option.some.inj heq), StatefulSet.Backs]
    rw [or_assoc, or_left_comm, or_iff_right h]

lemma backs_of_mem_mounts {mount : VolumeMount} (h : mount ∈ db.volumes.mounts) :
    (db.statefulSet version options live).Backs mount.name := by
  rw [backs_statefulSet]
  rcases List.mem_append.1 h with h | h
  · obtain ⟨m, hm, rfl⟩ := List.mem_map.1 h
    rw [db.mountedUnder_volumes.mount m hm]
    exact .inr (.inl (List.mem_map_of_mem
      (List.mem_append_left _ (List.mem_map_of_mem hm))))
  · rw [List.mem_singleton.1 h]
    exact .inl rfl

/-! ### Well-formed stateful sets -/

lemma DistinctParts.containers (h : db.DistinctParts) :
    ∀ c ∈ db.containers version options db.volumes, c.DistinctParts := by
  intro c hc
  rcases List.mem_cons.1 hc with rfl | hc
  · have hdistinct : (db.databaseContainer version options db.volumes).Distinct :=
      distinct_databaseContainer
    exact ⟨hdistinct.env _ rfl, hdistinct.mounts _ rfl⟩
  · obtain ⟨monitor, hmonitor, -, henv, hmounts, -⟩ :=
      exporterContainer?_eq_some (Option.mem_toList.1 hc)
    refine ⟨?_, ?_⟩
    · rw [Container.envList, henv]
      exact nodup_names_upsertEnv (h.exporterEnv monitor hmonitor) _
    · rw [Container.mountList, hmounts]
      exact .nil

lemma backs_of_mem_containers {c : Container}
    (hc : c ∈ db.containers version options db.volumes) :
    ∀ mount ∈ c.mountList, (db.statefulSet version options live).Backs mount.name := by
  rcases List.mem_cons.1 hc with rfl | hc
  · exact fun mount hmount => backs_of_mem_mounts hmount
  · obtain ⟨-, -, -, -, hmounts, -⟩ := exporterContainer?_eq_some (Option.mem_toList.1 hc)
    rw [Container.mountList, hmounts]
    exact fun mount hmount => absurd hmount List.not_mem_nil

lemma distinctParts_upsertContainers {live desired : List Container}
    (hlive : ∀ c ∈ live, c.DistinctParts) (hdesired : ∀ c ∈ desired, c.DistinctParts) :
    ∀ c ∈ upsertContainers live desired, c.DistinctParts :=
  forall_mem_foldl_lay hlive hdesired fun _ hold c _ => hold.mergeContainer c

/-- The stateful set stays well formed in one step. -/
lemma DistinctParts.wellFormed (h : db.DistinctParts) (hlive : live.WellFormed) :
    (db.statefulSet version options live).WellFormed where
  containers := nodup_keys_foldl_lay (fun c _ => keepsKey_container c) hlive.containers
  inits := by
    rw [pod_statefulSet, inits_podSpec]
    exact nodup_keys_foldl_lay (fun c _ => keepsKey_container c) hlive.inits
  parts := by
    rw [pod_statefulSet, inits_podSpec, containers_podSpec]
    intro c hc
    rcases List.mem_append.1 hc with hc | hc
    · exact distinctParts_upsertContainers
        (fun c hc => hlive.parts c (List.mem_append_left _ hc)) h.containers c hc
    · exact distinctParts_upsertContainers
        (fun c hc => hlive.parts c (List.mem_append_right _ hc)) h.inits c hc
  volumes := by
    have hmerged : ((db.volumes.volumes.foldl upsertVolume live.pod.volumeList).map
        (·.name)).Nodup := nodup_keys_foldl_lay keepsKey_of_mem_volumes hlive.volumes
    rw [StatefulSet.volumeNames, pod_statefulSet, volumeList_podSpec, mergedVolumes]
    split
    · exact nodup_map_filter hmerged _
    · exact hmerged
  claims := by
    rw [StatefulSet.claimNames, claims_statefulSet]
    rcases db.dataVolume_cases with ⟨volume, hdata, -⟩ | ⟨claim, hdata, hname, -⟩
    · rw [db.mergedClaims_of_ephemeral hdata]
      exact nodup_map_filter hlive.claims _
    · rw [db.mergedClaims_of_claim hdata]
      exact nodup_keys_lay (keepsKey_claim hname) hlive.claims
  owners := nodup_keys_lay (keepsKey_replace db.ownerReference) hlive.owners
  mounts := by
    -- Merging brings a container no mount but its own and the desired ones.
    refine forall_mem_foldl_lay (fun c hc mount hmount => ?_)
      (fun c hc => backs_of_mem_containers hc) fun old hold c hc mount hmount => ?_
    · exact backs_statefulSet.2 (.inr (.inr (hlive.mounts c hc mount hmount)))
    · rw [Container.mountList_mergeContainer] at hmount
      exact forall_mem_foldl_lay hold (backs_of_mem_containers hc)
        (fun _ _ => backs_of_mem_containers hc) mount hmount

end Postgres

/-- The stateful set after passes over an instance as it was specified from time to time. -/
def Kube.StatefulSet.after (live : StatefulSet)
    (history : List (Postgres × PostgresVersion × Options)) : StatefulSet :=
  history.foldl (fun set e => e.1.statefulSet e.2.1 e.2.2 set) live

lemma Kube.StatefulSet.WellFormed.after {live : StatefulSet} (hlive : live.WellFormed)
    {history : List (Postgres × PostgresVersion × Options)}
    (h : ∀ e ∈ history, e.1.DistinctParts) : (live.after history).WellFormed := by
  induction history generalizing live with
  | nil => exact hlive
  | cons e rest ih =>
    obtain ⟨hfirst, hrest⟩ := List.forall_mem_cons.1 h
    exact ih (hfirst.wellFormed hlive) hrest

/-- **The workload stays well formed** over every history of specifications: the blank stateful set
is well formed, every step leads from one that is to one that is, and so does every history.
Whatever the live one was like, after a step the data is where the storage type puts it, and is
mounted. -/
theorem Kube.StatefulSet.wellFormed_history :
    ({} : StatefulSet).WellFormed ∧
    (∀ (db : Postgres) (version : PostgresVersion) (options : Options) (live : StatefulSet),
      db.DistinctParts → live.WellFormed → (db.statefulSet version options live).WellFormed) ∧
    (∀ history : List (Postgres × PostgresVersion × Options),
      (∀ e ∈ history, e.1.DistinctParts) → (({} : StatefulSet).after history).WellFormed) ∧
    ∀ (db : Postgres) (version : PostgresVersion) (options : Options) (live : StatefulSet),
      (db.statefulSet version options live).DataAt db.spec.storageType :=
  ⟨wellFormed_blank, fun _ _ _ _ h hlive => h.wellFormed hlive,
    fun _ h => wellFormed_blank.after h, fun _ _ _ live => Postgres.dataAt_statefulSet live⟩

/-- An instance that is filled by a script and has a container that prepares it. -/
def Postgres.seeded (storage : StorageType) : Postgres where
  metadata := { name := some "db", ns := some "demo" }
  spec := {
    storageType := storage
    init := some { script := some {
      volumeSource := { secret := some { secretName := some "seed" } } } }
    podTemplate := { spec := { initContainers := [{
      name := "prepare"
      env := some [{ name := "MODE", value := some "fast" }]
      volumeMounts := some [StatefulSet.dataMount] }] } } }

lemma Postgres.distinctParts_seeded (storage : StorageType) :
    (Postgres.seeded storage).DistinctParts where
  inits c hc := by
    obtain rfl := List.mem_singleton.1 hc
    exact ⟨List.pairwise_singleton _ _, List.pairwise_singleton _ _⟩
  exporterEnv _ h := absurd h nofun

/-- The data moves from a claim into the pod and back, and the script is no longer asked for. -/
theorem Kube.StatefulSet.wellFormed_history_moved :
    (({} : StatefulSet).after [(.seeded .durable, {}, {}), (.seeded .ephemeral, {}, {}),
      ({}, {}, {})]).WellFormed ∧
    ((Postgres.seeded .ephemeral).statefulSet {} {}
      ((Postgres.seeded .durable).statefulSet {} {} {})).WellFormed ∧
    ((Postgres.seeded .ephemeral).statefulSet {} {}
      ((Postgres.seeded .durable).statefulSet {} {} {})).DataAt .ephemeral := by
  obtain ⟨hblank, hstep, hrun, hdata⟩ := wellFormed_history
  refine ⟨hrun _ ?_, hstep _ _ _ _ (Postgres.distinctParts_seeded _)
    (hstep _ _ _ _ (Postgres.distinctParts_seeded _) hblank), hdata _ _ _ _⟩
  intro e he
  simp only [List.mem_cons, List.not_mem_nil, or_false] at he
  rcases he with rfl | rfl | rfl
  · exact Postgres.distinctParts_seeded _
  · exact Postgres.distinctParts_seeded _
  · exact ⟨fun _ hc => absurd hc List.not_mem_nil, fun _ h => absurd h nofun⟩

end PgOperator
