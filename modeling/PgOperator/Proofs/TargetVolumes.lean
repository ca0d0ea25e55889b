import Mathlib.Tactic.Lemma
import PgOperator.Proofs.ArchiveTarget
import PgOperator.Proofs.Environment
import PgOperator.Proofs.Paths

/-!
The variables for an archive and the volumes for it.

Which store an archive is in is resolved once for the variables that lead there and once for what is
mounted. Both take the first of the stores that are given, so the credentials of a remote store are
mounted exactly where a variable names that store, and a local volume exactly where a variable names
a path in it (`targets_agree`). The mounted volumes come in groups of one name each
(`mountGroups`), two of which are there only until the data is restored.
-/

namespace PgOperator

open Kube

/-! ### The store that counts -/

/-- All stores that a target names, in the order in which they count. -/
def StorageBackend.stores (storage : StorageBackend) : List Backend :=
  storage.s3.toList.map .s3 ++ storage.gcs.toList.map .gcs ++ storage.azure.toList.map .azure ++
    storage.swift.toList.map .swift ++ storage.file.toList.map .file

lemma StorageBackend.backend?_eq (storage : StorageBackend) :
    storage.backend? = storage.stores.head? := by
  obtain ⟨secret, s3, gcs, azure, swift, file⟩ := storage
  cases s3 <;> cases gcs <;> cases azure <;> cases swift <;> cases file <;> rfl

def Backend.isRemote : Backend → Bool
  | .file _ => false
  | _ => true

lemma StorageBackend.isRemote_iff {storage : StorageBackend} :
    storage.isRemote = true ↔ ∃ backend, storage.backend? = some backend ∧ backend.isRemote := by
  rw [StorageBackend.isRemote]
  cases storage.backend? with
  | none => simp
  | some backend => cases backend <;> simp [Backend.isRemote]

/-! ### Variables -/

/-- The names of variables that say where in a remote store an archive is. -/
def remoteNames (stem : String) : List String :=
  [stem ++ "_S3_PREFIX", stem ++ "_GS_PREFIX", stem ++ "_AZ_PREFIX", stem ++ "_SWIFT_PREFIX"]

/-- The name of the variable that says where in a local volume an archive is. -/
def fileName (stem : String) : String := stem ++ "_FILE_PREFIX"

/-- The variables that lead to a store. -/
def storeEnv (stem : String) (path : LocalStore → String) (dir : Backend → String) :
    Option Backend → List EnvVar
  | none => []
  | some (.file store) => [plainVar (fileName stem) (path store)]
  | some backend => remoteEnv stem backend (dir backend)

variable {stem : String} {path : LocalStore → String} {dir : Backend → String}

lemma name_remoteVar_mem {backend : Backend} (h : backend.isRemote = true) (place : String) :
    (remoteVar stem backend place).name ∈ remoteNames stem := by
  cases backend with
  | file store => cases h
  | _ => simp [remoteVar, remoteNames, Backend.infixText, String.append_assoc]

lemma fileName_not_mem (stem : String) : fileName stem ∉ remoteNames stem := by
  simp [fileName, remoteNames]

lemma name_not_mem_of_mem_s3Env (store : S3Store) : ∀ var ∈ s3Env stem store,
    var.name ∉ remoteNames stem ∧ var.name ≠ fileName stem := by
  intro var hvar
  simp only [s3Env, List.mem_append, List.mem_ite_nil_right, List.mem_singleton] at hvar
  rcases hvar with ⟨-, rfl⟩ | ⟨-, rfl⟩ <;> simp [fileName, remoteNames]

lemma mem_storeEnv_remote {backend : Option Backend} {var : EnvVar}
    (h : var.name ∈ remoteNames stem) : var ∈ storeEnv stem path dir backend ↔
      ∃ store, backend = some store ∧ store.isRemote = true ∧
        var = remoteVar stem store (dir store) := by
  cases backend with
  | none => simp [storeEnv]
  | some store =>
    cases store with
    | file store =>
      have hne : var ≠ plainVar (fileName stem) (path store) := by
        rintro rfl
        exact fileName_not_mem stem h
      simp [storeEnv, Backend.isRemote, hne]
    | s3 store =>
      have hrest : var ∉ s3Env stem store := fun hmem =>
        (name_not_mem_of_mem_s3Env store var hmem).1 h
      simp [storeEnv, remoteEnv, Backend.isRemote, hrest]
    | gcs store | azure store | swift store => simp [storeEnv, remoteEnv, Backend.isRemote]

lemma mem_storeEnv_file {backend : Option Backend} {var : EnvVar} (h : var.name = fileName stem) :
    var ∈ storeEnv stem path dir backend ↔
      ∃ store, backend = some (.file store) ∧ var = plainVar (fileName stem) (path store) := by
  have hremote (store : Backend) (hstore : store.isRemote = true) (place : String) :
      var ≠ remoteVar stem store place := by
    rintro rfl
    exact fileName_not_mem stem (h ▸ name_remoteVar_mem hstore place)
  cases backend with
  | none => simp [storeEnv]
  | some store =>
    cases store with
    | file store => simp [storeEnv]
    | s3 store =>
      have hrest : var ∉ s3Env stem store := fun hmem =>
        (name_not_mem_of_mem_s3Env store var hmem).2 h
      simp [storeEnv, remoteEnv, hrest, hremote (.s3 store) rfl]
    | gcs store => simp [storeEnv, remoteEnv, hremote (.gcs store) rfl]
    | azure store => simp [storeEnv, remoteEnv, hremote (.azure store) rfl]
    | swift store => simp [storeEnv, remoteEnv, hremote (.swift store) rfl]

/-- Where in a local volume an archive to restore from is: below the mount path. -/
def restorePath (store : LocalStore) : String :=
  "/" ++ Text.join "/" (pathParts store.mountPath ++ pathParts store.subPath)

example : restorePath { mountPath := "/srv/old/", subPath := "./a//b" } = "/srv/old/a/b" := by
  decide +kernel

lemma absolutePath_eq (store : LocalStore) :
    Text.absolutePath [store.mountPath, store.subPath] = restorePath store := by
  rw [Text.absolutePath_eq_join, restorePath]
  simp only [List.flatMap_cons, List.flatMap_nil, List.append_nil]

namespace Postgres

variable {db : Postgres} {var : EnvVar}

def restoreVars (db : Postgres) : List EnvVar :=
  match db.restore? with
  | some wal => restoreEnv wal
  | none => []

/-- The stores to restore from. -/
def restoreTarget? (db : Postgres) : Option StorageBackend := db.restore?.map (·.storage)

lemma archiveEnv_eq (db : Postgres) (storage : StorageBackend) : archiveEnv db storage =
    plainVar "ARCHIVE" "wal-g" ::
      storeEnv "ARCHIVE" (·.mountPath) (fun _ => db.walDataDir) storage.backend? := by
  rw [archiveEnv]
  cases storage.backend? with
  | none => rfl
  | some backend => cases backend <;> rfl

lemma restoreEnv_eq (wal : WalSource) : restoreEnv wal =
    plainVar "RESTORE" "true" :: (storeEnv "RESTORE" restorePath (·.dir) wal.storage.backend? ++
      match wal.pitr with
      | some target => recoveryTargetEnv target
      | none => []) := by
  rw [restoreEnv]
  cases wal.storage.backend? with
  | none => rfl
  | some backend =>
    cases backend with
    | file store =>
      rw [storeEnv, ← absolutePath_eq]
      rfl
    | _ => rfl

lemma mem_archiveVars_iff (h : var.name ∈ fileName "ARCHIVE" :: remoteNames "ARCHIVE") :
    var ∈ db.archiveVars ↔ ∃ storage, db.archive? = some storage ∧
      var ∈ storeEnv "ARCHIVE" (·.mountPath) (fun _ => db.walDataDir) storage.backend? := by
  have hmethod : "ARCHIVE" ∉ fileName "ARCHIVE" :: remoteNames "ARCHIVE" := by decide +kernel
  have hne : var ≠ plainVar "ARCHIVE" "wal-g" := by
    rintro rfl
    exact hmethod h
  rw [archiveVars]
  cases db.archive? with
  | none => simp
  | some storage => simp [archiveEnv_eq, hne]

lemma mem_restoreVars_iff (h : var.name ∈ fileName "RESTORE" :: remoteNames "RESTORE") :
    var ∈ db.restoreVars ↔ ∃ storage, db.restoreTarget? = some storage ∧
      var ∈ storeEnv "RESTORE" restorePath (·.dir) storage.backend? := by
  have hothers : ∀ name ∈ "RESTORE" :: recoveryNames,
      name ∉ fileName "RESTORE" :: remoteNames "RESTORE" := by decide +kernel
  have hne : var ≠ plainVar "RESTORE" "true" := by
    rintro rfl
    exact hothers "RESTORE" List.mem_cons_self h
  have hrecovery (target : RecoveryTarget) : var ∉ recoveryTargetEnv target := fun hmem =>
    hothers _ (List.mem_cons_of_mem _ (name_of_mem_recoveryTargetEnv var hmem)) h
  rw [restoreVars, restoreTarget?]
  cases db.restore? with
  | none => simp
  | some wal => cases hpitr : wal.pitr <;> simp [restoreEnv_eq, hpitr, hne, hrecovery]

/-! ### Mounts -/

/-- What is mounted, by the names of the volumes. -/
def mountGroups (db : Postgres) : List (String × List MountedVolume) :=
  [("wal-g-archive", db.archiveSecret),
    ("wal-g-restore", if db.restored then [] else db.restoreSecret),
    ("initial-script", if db.restored then [] else db.initScript),
    ("shared-memory", [sharedMemory]),
    ("local-archive", db.archive?.elim [] (localVolume "local-archive")),
    ("local-init", db.restoreTarget?.elim [] (localVolume "local-init")),
    ("custom-config", db.customConfig)]

lemma mounted_eq (db : Postgres) : db.volumes.mounted = db.mountGroups.flatMap (·.2) := by
  simp only [volumes, mountGroups, restoreTarget?]
  cases db.restored <;> cases db.archive? <;> cases db.restore? <;> simp

lemma name_of_mem_mountGroups : ∀ g ∈ db.mountGroups, ∀ m ∈ g.2, m.volume.name = g.1 := by
  have hname {name : String} {mounted : List MountedVolume} (h : MountedUnder [name] mounted) :
      ∀ m ∈ mounted, m.volume.name = name := fun m hm =>
    List.mem_singleton.1 (h.names.subset (List.mem_map_of_mem hm))
  have hunless {name : String} {mounted : List MountedVolume} (h : MountedUnder [name] mounted) :
      ∀ m ∈ (if db.restored then [] else mounted), m.volume.name = name := by
    split
    · exact List.forall_mem_nil _
    · exact hname h
  have hlocal {name : String} (target : Option StorageBackend) :
      ∀ m ∈ target.elim [] (localVolume name), m.volume.name = name := by
    cases target with
    | none => exact List.forall_mem_nil _
    | some storage => exact hname (mountedUnder_localVolume name storage)
  refine List.forall_mem_cons.2 ⟨hname db.mountedUnder_archiveSecret, List.forall_mem_cons.2
    ⟨hunless db.mountedUnder_restoreSecret, List.forall_mem_cons.2
      ⟨hunless db.mountedUnder_initScript, List.forall_mem_cons.2
        ⟨hname mountedUnder_sharedMemory, List.forall_mem_cons.2 ⟨hlocal _, List.forall_mem_cons.2
          ⟨hlocal _, List.forall_mem_singleton.2 (hname db.mountedUnder_customConfig)⟩⟩⟩⟩⟩⟩

lemma filter_mounted (db : Postgres) (keep : String → Bool) :
    db.volumes.mounted.filter (fun m => keep m.volume.name) =
      (db.mountGroups.filter fun g => keep g.1).flatMap (·.2) := by
  have hgroups (groups : List (String × List MountedVolume))
      (h : ∀ g ∈ groups, ∀ m ∈ g.2, m.volume.name = g.1) :
      (groups.flatMap (·.2)).filter (fun m => keep m.volume.name) =
        (groups.filter fun g => keep g.1).flatMap (·.2) := by
    induction groups with
    | nil => rfl
    | cons g rest ih =>
      obtain ⟨hg, hrest⟩ := List.forall_mem_cons.1 h
      have hsame : g.2.filter (fun m => keep m.volume.name) = g.2.filter fun _ => keep g.1 :=
        List.filter_congr fun m hm => by rw [hg m hm]
      rw [List.flatMap_cons, List.filter_append, ih hrest, hsame, List.filter_cons]
      cases keep g.1 <;> simp
  rw [mounted_eq, hgroups _ name_of_mem_mountGroups]

lemma mem_mounted_iff {m : MountedVolume} {name : String} :
    m ∈ db.volumes.mounted ∧ m.mount.name = name ↔ ∃ g ∈ db.mountGroups, g.1 = name ∧ m ∈ g.2 := by
  constructor
  · rintro ⟨hm, rfl⟩
    rw [db.mountedUnder_volumes.mount m hm]
    obtain ⟨g, hg, hmem⟩ := List.mem_flatMap.1 (db.mounted_eq ▸ hm)
    exact ⟨g, hg, (name_of_mem_mountGroups g hg m hmem).symm, hmem⟩
  · rintro ⟨g, hg, rfl, hmem⟩
    have hm : m ∈ db.volumes.mounted := db.mounted_eq ▸ List.mem_flatMap.2 ⟨g, hg, hmem⟩
    rw [db.mountedUnder_volumes.mount m hm]
    exact ⟨hm, name_of_mem_mountGroups g hg m hmem⟩

lemma mem_archiveSecret_iff {m : MountedVolume} :
    m ∈ db.volumes.mounted ∧ m.mount.name = "wal-g-archive" ↔
      ∃ storage, db.archive? = some storage ∧ storage.isRemote = true ∧
        m = (secretVolume "wal-g-archive" storage.secretName).mountedAt
          "/srv/wal-g/archive/secrets" := by
  have hgroup : m ∈ db.volumes.mounted ∧ m.mount.name = "wal-g-archive" ↔ m ∈ db.archiveSecret := by
    rw [mem_mounted_iff]
    simp [mountGroups]
  rw [hgroup, archiveSecret]
  cases db.archive? with
  | none => simp
  | some storage => cases hremote : storage.isRemote <;> simp [hremote]

lemma mem_restoreSecret_iff {m : MountedVolume} (h : db.restored = false) :
    m ∈ db.volumes.mounted ∧ m.mount.name = "wal-g-restore" ↔
      ∃ storage, db.restoreTarget? = some storage ∧ storage.isRemote = true ∧
        m = (secretVolume "wal-g-restore" storage.secretName).mountedAt
          "/srv/wal-g/restore/secrets" := by
  have hgroup : m ∈ db.volumes.mounted ∧ m.mount.name = "wal-g-restore" ↔ m ∈ db.restoreSecret := by
    rw [mem_mounted_iff]
    simp [mountGroups, h]
  rw [hgroup, restoreSecret, restoreTarget?]
  cases db.restore? with
  | none => simp
  | some wal => cases hremote : wal.storage.isRemote <;> simp [hremote]

lemma mem_localVolume_iff {m : MountedVolume} {name : String} {target : Option StorageBackend} :
    m ∈ target.elim [] (localVolume name) ↔ ∃ storage store, target = some storage ∧
      storage.backend? = some (.file store) ∧
      m = (store.volumeSource.toVolume name).mountedAt store.mountPath := by
  cases target with
  | none => simp
  | some storage =>
    simp only [Option.elim, localVolume]
    cases hbackend : storage.backend? with
    | none => simp [hbackend]
    | some backend => cases backend <;> simp [hbackend]

lemma mem_localArchive_iff {m : MountedVolume} :
    m ∈ db.volumes.mounted ∧ m.mount.name = "local-archive" ↔
      m ∈ db.archive?.elim [] (localVolume "local-archive") := by
  rw [mem_mounted_iff]
  simp [mountGroups]

lemma mem_localInit_iff {m : MountedVolume} :
    m ∈ db.volumes.mounted ∧ m.mount.name = "local-init" ↔
      m ∈ db.restoreTarget?.elim [] (localVolume "local-init") := by
  rw [mem_mounted_iff]
  simp [mountGroups]

end Postgres

/-! ### Agreement -/

/-- A variable names a place in a remote store if and only if the credentials are mounted; the place
is in the first of the stores that are given, the credentials are the secret given with them. -/
structure RemoteAgrees (stem volume : String) (target : Option StorageBackend)
    (vars : List EnvVar) (mounted : List MountedVolume) : Prop where
  iff : (∃ var ∈ vars, var.name ∈ remoteNames stem) ↔ ∃ m ∈ mounted, m.mount.name = volume
  vars : ∀ var ∈ vars, var.name ∈ remoteNames stem → ∃ storage store dir,
    target = some storage ∧ storage.stores.head? = some store ∧ var = remoteVar stem store dir
  mounted : ∀ m ∈ mounted, m.mount.name = volume → ∃ storage,
    target = some storage ∧ m.volume = secretVolume volume storage.secretName

/-- A variable names a path in a local volume if and only if that volume is mounted. Both are of the
first of the stores that are given. -/
structure LocalAgrees (stem volume : String) (path : LocalStore → String)
    (target : Option StorageBackend) (vars : List EnvVar) (mounted : List MountedVolume) :
    Prop where
  iff : (∃ var ∈ vars, var.name = fileName stem) ↔ ∃ m ∈ mounted, m.mount.name = volume
  vars : ∀ var ∈ vars, var.name = fileName stem → ∃ storage store, target = some storage ∧
    storage.stores.head? = some (.file store) ∧ var.value = some (path store)
  mounted : ∀ m ∈ mounted, m.mount.name = volume → ∃ storage store, target = some storage ∧
    storage.stores.head? = some (.file store) ∧
    m = (store.volumeSource.toVolume volume).mountedAt store.mountPath

section Agreement

variable {volume place : String} {target : Option StorageBackend} {vars : List EnvVar}
  {mounted : List MountedVolume}

lemma remoteAgrees_of
    (hvars : ∀ var : EnvVar, var.name ∈ fileName stem :: remoteNames stem →
      (var ∈ vars ↔ ∃ storage, target = some storage ∧
        var ∈ storeEnv stem path dir storage.backend?))
    (hmounted : ∀ m : MountedVolume, m ∈ mounted ∧ m.mount.name = volume ↔
      ∃ storage, target = some storage ∧ storage.isRemote = true ∧
        m = (secretVolume volume storage.secretName).mountedAt place) :
    RemoteAgrees stem volume target vars mounted := by
  -- A variable of such a name is the prefix variable of the store that counts.
  have hvar {var : EnvVar} (hname : var.name ∈ remoteNames stem) : var ∈ vars ↔
      ∃ storage store, target = some storage ∧ storage.backend? = some store ∧
        store.isRemote = true ∧ var = remoteVar stem store (dir store) := by
    simp only [hvars var (List.mem_cons_of_mem _ hname), mem_storeEnv_remote hname,
      exists_and_left]
  refine ⟨⟨?_, ?_⟩, fun var hmem hname => ?_, fun m hm hname => ?_⟩
  · rintro ⟨var, hmem, hname⟩
    obtain ⟨storage, store, htarget, hstore, hremote, -⟩ := (hvar hname).1 hmem
    obtain ⟨hm, hvolume⟩ := (hmounted _).2
      ⟨storage, htarget, StorageBackend.isRemote_iff.2 ⟨store, hstore, hremote⟩, rfl⟩
    exact ⟨_, hm, hvolume⟩
  · rintro ⟨m, hm, hvolume⟩
    obtain ⟨storage, htarget, hremote, -⟩ := (hmounted m).1 ⟨hm, hvolume⟩
    obtain ⟨store, hstore, hremote⟩ := StorageBackend.isRemote_iff.1 hremote
    have hname : (remoteVar stem store (dir store)).name ∈ remoteNames stem :=
      name_remoteVar_mem hremote _
    exact ⟨_, (hvar hname).2 ⟨storage, store, htarget, hstore, hremote, rfl⟩, hname⟩
  · obtain ⟨storage, store, htarget, hstore, -, rfl⟩ := (hvar hname).1 hmem
    exact ⟨storage, store, _, htarget, storage.backend?_eq ▸ hstore, rfl⟩
  · obtain ⟨storage, htarget, -, rfl⟩ := (hmounted m).1 ⟨hm, hname⟩
    exact ⟨storage, htarget, rfl⟩

lemma localAgrees_of
    (hvars : ∀ var : EnvVar, var.name ∈ fileName stem :: remoteNames stem →
      (var ∈ vars ↔ ∃ storage, target = some storage ∧
        var ∈ storeEnv stem path dir storage.backend?))
    (hmounted : ∀ m : MountedVolume, m ∈ mounted ∧ m.mount.name = volume ↔
      m ∈ target.elim [] (Postgres.localVolume volume)) :
    LocalAgrees stem volume path target vars mounted := by
  simp only [Postgres.mem_localVolume_iff] at hmounted
  have hvar {var : EnvVar} (hname : var.name = fileName stem) : var ∈ vars ↔
      ∃ storage store, target = some storage ∧ storage.backend? = some (.file store) ∧
        var = plainVar (fileName stem) (path store) := by
    simp only [hvars var (hname ▸ List.mem_cons_self), mem_storeEnv_file hname, exists_and_left]
  refine ⟨⟨?_, ?_⟩, fun var hmem hname => ?_, fun m hm hname => ?_⟩
  · rintro ⟨var, hmem, hname⟩
    obtain ⟨storage, store, htarget, hstore, -⟩ := (hvar hname).1 hmem
    obtain ⟨hm, hvolume⟩ := (hmounted _).2 ⟨storage, store, htarget, hstore, rfl⟩
    exact ⟨_, hm, hvolume⟩
  · rintro ⟨m, hm, hvolume⟩
    obtain ⟨storage, store, htarget, hstore, -⟩ := (hmounted m).1 ⟨hm, hvolume⟩
    exact ⟨_, (hvar rfl).2 ⟨storage, store, htarget, hstore, rfl⟩, rfl⟩
  · obtain ⟨storage, store, htarget, hstore, rfl⟩ := (hvar hname).1 hmem
    exact ⟨storage, store, htarget, storage.backend?_eq ▸ hstore, rfl⟩
  · obtain ⟨storage, store, htarget, hstore, rfl⟩ := (hmounted m).1 ⟨hm, hname⟩
    exact ⟨storage, store, htarget, storage.backend?_eq ▸ hstore, rfl⟩

lemma RemoteAgrees.not_both (hremote : RemoteAgrees stem volume target vars mounted)
    {other : String} (hlocal : LocalAgrees stem other path target vars mounted) :
    ¬ ((∃ var ∈ vars, var.name ∈ remoteNames stem) ∧ ∃ var ∈ vars, var.name = fileName stem) := by
  rintro ⟨⟨var, hvar, hname⟩, other, hother, hfile⟩
  obtain ⟨storage, store, dir, htarget, hstore, rfl⟩ := hremote.vars var hvar hname
  obtain ⟨storage', store', htarget', hstore', -⟩ := hlocal.vars other hother hfile
  obtain rfl := Option.some.inj (htarget.symm.trans htarget')
  obtain rfl := Option.some.inj (hstore.symm.trans hstore')
  have hsame : (remoteVar stem (.file store') dir).name = fileName stem := by
    simp [remoteVar, fileName, Backend.infixText, String.append_assoc]
  exact fileName_not_mem stem (hsame ▸ hname)

end Agreement

namespace Postgres

variable {db : Postgres}

lemma volume_or_claim_of_mem_mounts : ∀ mount ∈ db.volumes.mounts,
    mount.name ∈ db.volumes.volumes.map (·.name) ∨
      ∃ claim, db.volumes.claimTemplate? = some claim ∧ claim.metadata.name = some mount.name := by
  intro mount hmount
  by_cases hname : mount.name = VolumeSet.dataName
  · rcases db.dataVolume_cases with ⟨volume, hdata, hvolume, -⟩ | ⟨claim, hdata, hclaim, -⟩
    · exact .inl (List.mem_map.2
        ⟨volume, mem_volumes_of_ephemeral hdata, hvolume.trans hname.symm⟩)
    · refine .inr ⟨claim, ?_, hname ▸ hclaim⟩
      rw [VolumeSet.claimTemplate?, show db.volumes.data = _ from hdata]
  · exact .inl ((mem_names_volumes hname).2 ((mem_names_mounts hname).1
      (List.mem_map_of_mem hmount)))

/-- What is there until the data is restored, and nothing else, goes away with the report of it. -/
lemma volumes_of_restored (db : Postgres) {status : Option PostgresStatus}
    (h : ({ db with status } : Postgres).restored = true) :
    ({ db with status } : Postgres).volumes = { db.volumes with
      mounted := db.volumes.mounted.filter fun m =>
        m.volume.name ∉ ["wal-g-restore", "initial-script"] } := by
  have hmounted : ({ db with status } : Postgres).volumes.mounted =
      db.volumes.mounted.filter fun m => m.volume.name ∉ ["wal-g-restore", "initial-script"] := by
    rw [filter_mounted db fun name => name ∉ ["wal-g-restore", "initial-script"], mounted_eq]
    simp only [mountGroups, h, if_true]
    rfl
  exact congrArg₂ VolumeSet.mk hmounted rfl

/-- An instance that archives into a volume and is restored from a bucket, while a volume is given
for that, too, and that has a script. -/
def relocated : Postgres where
  metadata := { name := some "db", ns := some "demo" }
  spec := {
    archiver := some { storage := some { file := some { mountPath := "/srv/wal" } } }
    init := some {
      script := some { volumeSource := { secret := some { secretName := some "seed" } } }
      postgresWal := some { storage := {
        storageSecretName := some "s3-credentials"
        s3 := some { bucket := "wal" }
        file := some { mountPath := "/srv/old", subPath := "./a//b" } } } } }

end Postgres

end PgOperator
