import PgOperator.Kube.Volume

/-!
Where write-ahead logs are archived and restored from: one of five kinds of store, resolved from
a record that may name several. Of these the first in the order S3, Google Cloud Storage, Azure,
Swift, local volume counts.
-/

namespace PgOperator

open Kube

/-! ### What a user names -/

/-- The source of a volume that a user brings along. One source is expected. -/
structure VolumeSource where
  persistentVolumeClaim : Option Table.persistentVolumeClaimVolume.Val := none
  hostPath : Option Table.hostPathVolume.Val := none
  nfs : Option Table.nfsVolume.Val := none
  configMap : Option Table.configMapVolume.Val := none
  secret : Option SecretVolumeSource := none
  emptyDir : Option EmptyDirVolumeSource := none
  downwardAPI : Option Table.downwardAPIVolume.Val := none
  projected : Option Table.projectedVolume.Val := none
  csi : Option Table.csiVolume.Val := none
  deriving DecidableEq

abbrev VolumeSource.fields : Fields :=
  opt "persistentVolumeClaim" (.hidden Table.persistentVolumeClaimVolume) <|
  opt "hostPath" (.hidden Table.hostPathVolume) <|
  opt "nfs" (.hidden Table.nfsVolume) <|
  opt "configMap" (.hidden Table.configMapVolume) <|
  opt "secret" (.hidden (Record.shape SecretVolumeSource)) <|
  opt "emptyDir" (.hidden (Record.shape EmptyDirVolumeSource)) <|
  opt "downwardApi" (.hidden Table.downwardAPIVolume) <|
  opt "projected" (.hidden Table.projectedVolume) <|
  opt "csi" (.hidden Table.csiVolume) .nil

instance : Record VolumeSource where
  heading := .exact "struct VolumeSource"
  fields := VolumeSource.fields
  toVal x := (x.persistentVolumeClaim, x.hostPath, x.nfs, x.configMap, x.secret.map Record.toVal,
    x.emptyDir.map Record.toVal, x.downwardAPI, x.projected, x.csi, ())
  ofVal := fun (persistentVolumeClaim, hostPath, nfs, configMap, secret, emptyDir, downwardAPI,
    projected, csi, ()) =>
    {persistentVolumeClaim, hostPath, nfs, configMap, secret := secret.map Record.ofVal,
      emptyDir := emptyDir.map Record.ofVal, downwardAPI, projected, csi}
  ofVal_toVal x := by simp [Function.comp_def]
  toVal_ofVal v := by simp [Function.comp_def]

/-- A bucket of an S3 service; `endpoint` names a service that is not Amazon's. -/
structure S3Store where
  bucket : String := ""
  dir : String := ""
  endpoint : String := ""
  region : String := ""
  deriving DecidableEq

abbrev S3Store.fields : Fields :=
  must "bucket" .text <| dflt "prefix" (.str "") .text <| dflt "endpoint" (.str "") .text <|
  dflt "region" (.str "") .text .nil

instance : Record S3Store where
  heading := .exact "struct S3Store"
  fields := S3Store.fields
  toVal x := (x.bucket, x.dir, x.endpoint, x.region, ())
  ofVal := fun (bucket, dir, endpoint, region, ()) =>
    {bucket, dir, endpoint, region}
  ofVal_toVal _ := rfl
  toVal_ofVal _ := rfl

structure GcsStore where
  bucket : String := ""
  dir : String := ""
  deriving DecidableEq

abbrev GcsStore.fields : Fields :=
  must "bucket" .text <| dflt "prefix" (.str "") .text .nil

instance : Record GcsStore where
  heading := .exact "struct GcsStore"
  fields := GcsStore.fields
  toVal x := (x.bucket, x.dir, ())
  ofVal := fun (bucket, dir, ()) =>
    {bucket, dir}
  ofVal_toVal _ := rfl
  toVal_ofVal _ := rfl

structure AzureStore where
  container : String := ""
  dir : String := ""
  deriving DecidableEq

abbrev AzureStore.fields : Fields :=
  must "container" .text <| dflt "prefix" (.str "") .text .nil

instance : Record AzureStore where
  heading := .exact "struct AzureStore"
  fields := AzureStore.fields
  toVal x := (x.container, x.dir, ())
  ofVal := fun (container, dir, ()) =>
    {container, dir}
  ofVal_toVal _ := rfl
  toVal_ofVal _ := rfl

structure SwiftStore where
  container : String := ""
  dir : String := ""
  deriving DecidableEq

abbrev SwiftStore.fields : Fields :=
  must "container" .text <| dflt "prefix" (.str "") .text .nil

instance : Record SwiftStore where
  heading := .exact "struct SwiftStore"
  fields := SwiftStore.fields
  toVal x := (x.container, x.dir, ())
  ofVal := fun (container, dir, ()) =>
    {container, dir}
  ofVal_toVal _ := rfl
  toVal_ofVal _ := rfl

/-- A volume mounted into the database container; `subPath` finds an archive in it. -/
structure LocalStore where
  mountPath : String := ""
  subPath : String := ""
  volumeSource : VolumeSource := {}
  deriving DecidableEq

abbrev LocalStore.fields : Fields :=
  must "mountPath" .text <| skip "subPath" (.str "") .text <|
  must "volumeSource" (Record.shape VolumeSource) .nil

instance : Record LocalStore where
  heading := .exact "struct LocalStore"
  fields := LocalStore.fields
  toVal x := (x.mountPath, x.subPath, Record.toVal x.volumeSource, ())
  ofVal := fun (mountPath, subPath, volumeSource, ()) =>
    {mountPath, subPath, volumeSource := Record.ofVal volumeSource}
  ofVal_toVal x := by simp
  toVal_ofVal v := by simp

/-- The stores that a target names, and the secret with their credentials. -/
structure StorageBackend where
  storageSecretName : Option String := none
  s3 : Option S3Store := none
  gcs : Option GcsStore := none
  azure : Option AzureStore := none
  swift : Option SwiftStore := none
  file : Option LocalStore := none
  deriving DecidableEq

abbrev StorageBackend.fields : Fields :=
  opt "storageSecretName" .text <| opt "s3" (Record.shape S3Store) <|
  opt "gcs" (Record.shape GcsStore) <| opt "azure" (Record.shape AzureStore) <|
  opt "swift" (Record.shape SwiftStore) <| opt "local" (Record.shape LocalStore) .nil

instance : Record StorageBackend where
  heading := .exact "struct StorageBackend"
  fields := StorageBackend.fields
  toVal x := (x.storageSecretName, x.s3.map Record.toVal, x.gcs.map Record.toVal,
    x.azure.map Record.toVal, x.swift.map Record.toVal, x.file.map Record.toVal, ())
  ofVal := fun (storageSecretName, s3, gcs, azure, swift, file, ()) =>
    {storageSecretName, s3 := s3.map Record.ofVal, gcs := gcs.map Record.ofVal,
      azure := azure.map Record.ofVal, swift := swift.map Record.ofVal,
      file := file.map Record.ofVal}
  ofVal_toVal x := by simp [Function.comp_def]
  toVal_ofVal v := by simp [Function.comp_def]

/-! ### What counts -/

inductive Backend where
  | s3 (store : S3Store)
  | gcs (store : GcsStore)
  | azure (store : AzureStore)
  | swift (store : SwiftStore)
  | file (store : LocalStore)

namespace StorageBackend

/-- The store that counts. -/
def backend? (storage : StorageBackend) : Option Backend :=
  (storage.s3.map .s3) <|> (storage.gcs.map .gcs) <|> (storage.azure.map .azure) <|>
    (storage.swift.map .swift) <|> (storage.file.map .file)

/-- Whether archives live in a volume of the pod. -/
def isLocal (storage : StorageBackend) : Bool :=
  match storage.backend? with
  | some (.file _) => true
  | _ => false

/-- Whether archives live in a store outside of the cluster. -/
def isRemote (storage : StorageBackend) : Bool :=
  match storage.backend? with
  | none | some (.file _) => false
  | _ => true

/-- The secret with the credentials; empty if none is named. -/
def secretName (storage : StorageBackend) : String := storage.storageSecretName.getD ""

end StorageBackend

namespace Backend

def kind : Backend → String
  | .s3 _ => "S3"
  | .gcs _ => "Gcs"
  | .azure _ => "Azure"
  | .swift _ => "Swift"
  | .file _ => "Local"

/-- The part of a variable's name that tells the kind of store. -/
def infixText : Backend → String
  | .s3 _ => "S3"
  | .gcs _ => "GS"
  | .azure _ => "AZ"
  | .swift _ => "SWIFT"
  | .file _ => "FILE"

/-- The scheme of the store's addresses; a local volume has none. -/
def scheme? : Backend → Option String
  | .s3 _ => some "s3"
  | .gcs _ => some "gs"
  | .azure _ => some "azure"
  | .swift _ => some "swift"
  | .file _ => none

/-- The bucket or container; a local volume has none. -/
def location? : Backend → Option String
  | .s3 store => some store.bucket
  | .gcs store => some store.bucket
  | .azure store => some store.container
  | .swift store => some store.container
  | .file _ => none

/-- The directory in the store that a user gives. -/
def dir : Backend → String
  | .s3 store => store.dir
  | .gcs store => store.dir
  | .azure store => store.dir
  | .swift store => store.dir
  | .file store => store.subPath

end Backend

namespace VolumeSource

/-- A volume of the given name with this source. -/
def toVolume (source : VolumeSource) (name : String) : Volume where
  name := name
  persistentVolumeClaim := source.persistentVolumeClaim
  hostPath := source.hostPath
  nfs := source.nfs
  configMap := source.configMap
  secret := source.secret
  emptyDir := source.emptyDir
  downwardAPI := source.downwardAPI
  projected := source.projected
  csi := source.csi

end VolumeSource

end PgOperator
