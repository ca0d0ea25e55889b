import PgOperator.Kube.Claim
import PgOperator.Kube.Env

/-!
Volumes of a pod and the sources they can have.
-/

namespace PgOperator

namespace Kube

/-! ### Sources that are only passed on -/

def Table.keyToPath : Shape :=
  .loose "KeyToPath" <|
  req "key" .text <| opt "mode" .int32 <| req "path" .text .nil

def Table.downwardAPIVolumeFile : Shape :=
  .loose "DownwardAPIVolumeFile" <|
  opt "fieldRef" (Record.shape ObjectFieldSelector) <| opt "mode" .int32 <| req "path" .text <|
  opt "resourceFieldRef" Table.resourceFieldSelector .nil

def Table.clusterTrustBundleProjection : Shape :=
  .loose "ClusterTrustBundleProjection" <|
  opt "labelSelector" (Record.shape LabelSelector) <| opt "name" .text <|
  opt "optional" .flag <| req "path" .text <| opt "signerName" .text .nil

def Table.configMapProjection : Shape :=
  .loose "ConfigMapProjection" <|
  opt "items" (.list Table.keyToPath) <| opt "name" .text <| opt "optional" .flag .nil

def Table.downwardAPIProjection : Shape :=
  .loose "DownwardAPIProjection" <|
  opt "items" (.list Table.downwardAPIVolumeFile) .nil

def Table.secretProjection : Shape :=
  .loose "SecretProjection" <|
  opt "items" (.list Table.keyToPath) <| opt "name" .text <| opt "optional" .flag .nil

def Table.serviceAccountTokenProjection : Shape :=
  .loose "ServiceAccountTokenProjection" <|
  opt "audience" .text <| opt "expirationSeconds" .int64 <| req "path" .text .nil

def Table.volumeProjection : Shape :=
  .loose "VolumeProjection" <|
  opt "clusterTrustBundle" Table.clusterTrustBundleProjection <|
  opt "configMap" Table.configMapProjection <|
  opt "downwardAPI" Table.downwardAPIProjection <|
  opt "secret" Table.secretProjection <|
  opt "serviceAccountToken" Table.serviceAccountTokenProjection .nil

def Table.awsElasticBlockStoreVolume : Shape :=
  .loose "AWSElasticBlockStoreVolumeSource" <|
  opt "fsType" .text <| opt "partition" .int32 <| opt "readOnly" .flag <|
  req "volumeID" .text .nil

def Table.azureDiskVolume : Shape :=
  .loose "AzureDiskVolumeSource" <|
  opt "cachingMode" .text <| req "diskName" .text <| req "diskURI" .text <| opt "fsType" .text <|
  opt "kind" .text <| opt "readOnly" .flag .nil

def Table.azureFileVolume : Shape :=
  .loose "AzureFileVolumeSource" <|
  opt "readOnly" .flag <| req "secretName" .text <| req "shareName" .text .nil

def Table.csiVolume : Shape :=
  .loose "CSIVolumeSource" <|
  req "driver" .text <| opt "fsType" .text <|
  opt "nodePublishSecretRef" Table.localObjectReference <| opt "readOnly" .flag <|
  opt "volumeAttributes" (.dict .text) .nil

def Table.cephFSVolume : Shape :=
  .loose "CephFSVolumeSource" <|
  req "monitors" (.list .text) <| opt "path" .text <| opt "readOnly" .flag <|
  opt "secretFile" .text <| opt "secretRef" Table.localObjectReference <|
  opt "user" .text .nil

def Table.cinderVolume : Shape :=
  .loose "CinderVolumeSource" <|
  opt "fsType" .text <| opt "readOnly" .flag <|
  opt "secretRef" Table.localObjectReference <| req "volumeID" .text .nil

def Table.configMapVolume : Shape :=
  .loose "ConfigMapVolumeSource" <|
  opt "defaultMode" .int32 <| opt "items" (.list Table.keyToPath) <| opt "name" .text <|
  opt "optional" .flag .nil

def Table.downwardAPIVolume : Shape :=
  .loose "DownwardAPIVolumeSource" <|
  opt "defaultMode" .int32 <| opt "items" (.list Table.downwardAPIVolumeFile) .nil

def Table.ephemeralVolume : Shape :=
  .loose "EphemeralVolumeSource" <|
  opt "volumeClaimTemplate" Table.persistentVolumeClaimTemplate .nil

def Table.fcVolume : Shape :=
  .loose "FCVolumeSource" <|
  opt "fsType" .text <| opt "lun" .int32 <| opt "readOnly" .flag <|
  opt "targetWWNs" (.list .text) <| opt "wwids" (.list .text) .nil

def Table.flexVolume : Shape :=
  .loose "FlexVolumeSource" <|
  req "driver" .text <| opt "fsType" .text <| opt "options" (.dict .text) <|
  opt "readOnly" .flag <| opt "secretRef" Table.localObjectReference .nil

def Table.flockerVolume : Shape :=
  .loose "FlockerVolumeSource" <|
  opt "datasetName" .text <| opt "datasetUUID" .text .nil

def Table.gcePersistentDiskVolume : Shape :=
  .loose "GCEPersistentDiskVolumeSource" <|
  opt "fsType" .text <| opt "partition" .int32 <| req "pdName" .text <| opt "readOnly" .flag .nil

def Table.gitRepoVolume : Shape :=
  .loose "GitRepoVolumeSource" <|
  opt "directory" .text <| req "repository" .text <| opt "revision" .text .nil

def Table.glusterfsVolume : Shape :=
  .loose "GlusterfsVolumeSource" <|
  req "endpoints" .text <| req "path" .text <| opt "readOnly" .flag .nil

def Table.hostPathVolume : Shape :=
  .loose "HostPathVolumeSource" <|
  req "path" .text <| opt "type" .text .nil

def Table.iscsiVolume : Shape :=
  .loose "ISCSIVolumeSource" <|
  opt "chapAuthDiscovery" .flag <| opt "chapAuthSession" .flag <| opt "fsType" .text <|
  opt "initiatorName" .text <| req "iqn" .text <| opt "iscsiInterface" .text <|
  req "lun" .int32 <| opt "portals" (.list .text) <| opt "readOnly" .flag <|
  opt "secretRef" Table.localObjectReference <| req "targetPortal" .text .nil

def Table.nfsVolume : Shape :=
  .loose "NFSVolumeSource" <|
  req "path" .text <| opt "readOnly" .flag <| req "server" .text .nil

def Table.persistentVolumeClaimVolume : Shape :=
  .loose "PersistentVolumeClaimVolumeSource" <|
  req "claimName" .text <| opt "readOnly" .flag .nil

def Table.photonPersistentDiskVolume : Shape :=
  .loose "PhotonPersistentDiskVolumeSource" <|
  opt "fsType" .text <| req "pdID" .text .nil

def Table.portworxVolume : Shape :=
  .loose "PortworxVolumeSource" <|
  opt "fsType" .text <| opt "readOnly" .flag <| req "volumeID" .text .nil

def Table.projectedVolume : Shape :=
  .loose "ProjectedVolumeSource" <|
  opt "defaultMode" .int32 <| opt "sources" (.list Table.volumeProjection) .nil

def Table.quobyteVolume : Shape :=
  .loose "QuobyteVolumeSource" <|
  opt "group" .text <| opt "readOnly" .flag <| req "registry" .text <| opt "tenant" .text <|
  opt "user" .text <| req "volume" .text .nil

def Table.rbdVolume : Shape :=
  .loose "RBDVolumeSource" <|
  opt "fsType" .text <| req "image" .text <| opt "keyring" .text <|
  req "monitors" (.list .text) <| opt "pool" .text <| opt "readOnly" .flag <|
  opt "secretRef" Table.localObjectReference <| opt "user" .text .nil

def Table.scaleIOVolume : Shape :=
  .loose "ScaleIOVolumeSource" <|
  opt "fsType" .text <| req "gateway" .text <| opt "protectionDomain" .text <|
  opt "readOnly" .flag <| req "secretRef" Table.localObjectReference <|
  opt "sslEnabled" .flag <| opt "storageMode" .text <| opt "storagePool" .text <|
  req "system" .text <| opt "volumeName" .text .nil

def Table.storageOSVolume : Shape :=
  .loose "StorageOSVolumeSource" <|
  opt "fsType" .text <| opt "readOnly" .flag <|
  opt "secretRef" Table.localObjectReference <| opt "volumeName" .text <|
  opt "volumeNamespace" .text .nil

def Table.vsphereVirtualDiskVolume : Shape :=
  .loose "VsphereVirtualDiskVolumeSource" <|
  opt "fsType" .text <| opt "storagePolicyID" .text <| opt "storagePolicyName" .text <|
  req "volumePath" .text .nil

/-! ### Volumes -/

/-- A directory that lives as long as its pod. -/
structure EmptyDirVolumeSource where
  medium : Option String := none
  sizeLimit : Option String := none
  deriving DecidableEq

abbrev EmptyDirVolumeSource.fields : Fields :=
  opt "medium" .text <| opt "sizeLimit" .text .nil

instance : Record EmptyDirVolumeSource where
  heading := .loose "EmptyDirVolumeSource"
  fields := EmptyDirVolumeSource.fields
  toVal x := (x.medium, x.sizeLimit, ())
  ofVal := fun (medium, sizeLimit, ()) =>
    {medium, sizeLimit}
  ofVal_toVal _ := rfl
  toVal_ofVal _ := rfl

def SecretVolumeSource.otherFields : Fields :=
  opt "defaultMode" .int32 <| opt "items" (.list Table.keyToPath) <|
  opt "optional" .flag .nil

structure SecretVolumeSource where
  secretName : Option String := none
  other : SecretVolumeSource.otherFields.Val := SecretVolumeSource.otherFields.zero
  deriving DecidableEq

abbrev SecretVolumeSource.fields : Fields :=
  opt "secretName" .text <| SecretVolumeSource.otherFields

instance : Record SecretVolumeSource where
  heading := .loose "SecretVolumeSource"
  fields := SecretVolumeSource.fields
  toVal x := (x.secretName, x.other)
  ofVal := fun (secretName, other) =>
    {secretName, other}
  ofVal_toVal _ := rfl
  toVal_ofVal _ := rfl

def Volume.otherFields : Fields :=
  opt "awsElasticBlockStore" Table.awsElasticBlockStoreVolume <|
  opt "azureDisk" Table.azureDiskVolume <|
  opt "azureFile" Table.azureFileVolume <| opt "cephfs" Table.cephFSVolume <|
  opt "cinder" Table.cinderVolume <| opt "ephemeral" Table.ephemeralVolume <|
  opt "fc" Table.fcVolume <| opt "flexVolume" Table.flexVolume <|
  opt "flocker" Table.flockerVolume <|
  opt "gcePersistentDisk" Table.gcePersistentDiskVolume <|
  opt "gitRepo" Table.gitRepoVolume <|
  opt "glusterfs" Table.glusterfsVolume <| opt "iscsi" Table.iscsiVolume <|
  opt "photonPersistentDisk" Table.photonPersistentDiskVolume <|
  opt "portworxVolume" Table.portworxVolume <|
  opt "quobyte" Table.quobyteVolume <| opt "rbd" Table.rbdVolume <|
  opt "scaleIO" Table.scaleIOVolume <|
  opt "storageos" Table.storageOSVolume <|
  opt "vsphereVolume" Table.vsphereVirtualDiskVolume .nil

structure Volume where
  name : String := ""
  persistentVolumeClaim : Option Table.persistentVolumeClaimVolume.Val := none
  hostPath : Option Table.hostPathVolume.Val := none
  nfs : Option Table.nfsVolume.Val := none
  configMap : Option Table.configMapVolume.Val := none
  secret : Option SecretVolumeSource := none
  emptyDir : Option EmptyDirVolumeSource := none
  downwardAPI : Option Table.downwardAPIVolume.Val := none
  projected : Option Table.projectedVolume.Val := none
  csi : Option Table.csiVolume.Val := none
  other : Volume.otherFields.Val := Volume.otherFields.zero
  deriving DecidableEq

abbrev Volume.fields : Fields :=
  req "name" .text <| opt "persistentVolumeClaim" Table.persistentVolumeClaimVolume <|
  opt "hostPath" Table.hostPathVolume <| opt "nfs" Table.nfsVolume <|
  opt "configMap" Table.configMapVolume <|
  opt "secret" (Record.shape SecretVolumeSource) <|
  opt "emptyDir" (Record.shape EmptyDirVolumeSource) <|
  opt "downwardAPI" Table.downwardAPIVolume <|
  opt "projected" Table.projectedVolume <| opt "csi" Table.csiVolume <|
  Volume.otherFields

instance : Record Volume where
  heading := .loose "Volume"
  fields := Volume.fields
  toVal x := (x.name, x.persistentVolumeClaim, x.hostPath, x.nfs, x.configMap,
    x.secret.map Record.toVal, x.emptyDir.map Record.toVal, x.downwardAPI, x.projected, x.csi,
    x.other)
  ofVal := fun (name, persistentVolumeClaim, hostPath, nfs, configMap, secret, emptyDir,
    downwardAPI, projected, csi, other) =>
    {name, persistentVolumeClaim, hostPath, nfs, configMap, secret := secret.map Record.ofVal,
      emptyDir := emptyDir.map Record.ofVal, downwardAPI, projected, csi, other}
  ofVal_toVal x := by simp [Function.comp_def]
  toVal_ofVal v := by simp [Function.comp_def]

end Kube

end PgOperator
