import PgOperator.Database.Identity

/-!
The volumes of the database pods and where the database container mounts them. Restore credentials
and init scripts are mounted only until the instance reports that its data is restored.
-/

namespace PgOperator

open Kube

structure MountedVolume where
  volume : Volume
  mount : VolumeMount

/-- A volume mounted under its own name. -/
def Kube.Volume.mountedAt (volume : Volume) (path : String) : MountedVolume where
  volume := volume
  mount := { name := volume.name, mountPath := path }

/-- What backs the data directory. -/
inductive DataVolume where
  | ephemeral (volume : Volume)
  | claim (claim : PersistentVolumeClaim)

/-- The volumes of the database pods. -/
structure VolumeSet where
  mounted : List MountedVolume
  data : DataVolume

namespace VolumeSet

def dataName : String := "data"

/-- The pod's volumes; the data volume is one of them if it lives in the pod. -/
def volumes (set : VolumeSet) : List Volume :=
  set.mounted.map (·.volume) ++
    match set.data with
    | .ephemeral volume => [volume]
    | .claim _ => []

/-- The mounts of the database container, the data directory last. -/
def mounts (set : VolumeSet) : List VolumeMount :=
  set.mounted.map (·.mount) ++ [{ name := dataName, mountPath := "/var/pv" }]

/-- The claim template, if the data directory is on a claim. -/
def claimTemplate? (set : VolumeSet) : Option PersistentVolumeClaim :=
  match set.data with
  | .claim claim => some claim
  | .ephemeral _ => none

end VolumeSet

/-- A volume that holds a secret. -/
def secretVolume (name secret : String) : Volume where
  name := name
  secret := some { secretName := some secret }

namespace Postgres

/-- Whether restored data has been reported. -/
def restored (db : Postgres) : Bool := db.isConditionTrue dataRestored

/-- What backs the data directory: an empty directory as large as the storage asked for, or a
claim, which is writable by one node unless the user says otherwise. -/
def dataVolume (db : Postgres) : DataVolume :=
  match db.spec.storageType with
  | .ephemeral =>
    let size := db.spec.storage.bind fun s => s.resources.bind fun r => r.requests.bind fun q =>
      q.get? "storage"
    .ephemeral { name := VolumeSet.dataName, emptyDir := some { sizeLimit := size } }
  | .durable =>
    let spec := db.spec.storage.getD {}
    let modes := match spec.accessModes with
      | none | some [] => ["ReadWriteOnce"]
      | some modes => modes
    .claim {
      metadata := {
        name := some VolumeSet.dataName
        annotations := spec.storageClassName.map fun storageClass =>
          .ofList [("volume.beta.kubernetes.io/storage-class", storageClass)] }
      spec := some { spec with accessModes := some modes } }

/-- The credentials of a remote archive. -/
def archiveSecret (db : Postgres) : List MountedVolume :=
  match db.archive? with
  | some storage =>
    if storage.isRemote then
      [(secretVolume "wal-g-archive" storage.secretName).mountedAt "/srv/wal-g/archive/secrets"]
    else []
  | none => []

/-- The credentials of a remote archive to restore from. -/
def restoreSecret (db : Postgres) : List MountedVolume :=
  match db.restore? with
  | some wal =>
    if wal.storage.isRemote then
      [(secretVolume "wal-g-restore" wal.storage.secretName).mountedAt "/srv/wal-g/restore/secrets"]
    else []
  | none => []

/-- The scripts for a fresh data directory. -/
def initScript (db : Postgres) : List MountedVolume :=
  match db.spec.init.bind (·.script) with
  | some script => [(script.volumeSource.toVolume "initial-script").mountedAt "/var/initdb"]
  | none => []

/-- Shared memory, which the database uses between its processes. -/
def sharedMemory : MountedVolume :=
  Volume.mountedAt { name := "shared-memory", emptyDir := some { medium := some "Memory" } }
    "/dev/shm"

/-- The volume of a store that is local. -/
def localVolume (name : String) (storage : StorageBackend) : List MountedVolume :=
  match storage.backend? with
  | some (.file store) => [(store.volumeSource.toVolume name).mountedAt store.mountPath]
  | _ => []

def customConfig (db : Postgres) : List MountedVolume :=
  match db.spec.configSecret with
  | some secret => [(secretVolume "custom-config" secret.name).mountedAt "/etc/config"]
  | none => []

/-- All volumes of the database pods. -/
def volumes (db : Postgres) : VolumeSet where
  mounted :=
    db.archiveSecret ++ (if db.restored then [] else db.restoreSecret ++ db.initScript) ++
      [sharedMemory] ++
      (match db.archive? with
        | some storage => localVolume "local-archive" storage
        | none => []) ++
      (match db.restore? with
        | some wal => localVolume "local-init" wal.storage
        | none => []) ++
      db.customConfig
  data := db.dataVolume

end Postgres

end PgOperator
