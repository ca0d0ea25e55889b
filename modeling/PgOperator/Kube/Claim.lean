import PgOperator.Kube.Meta

/-!
Claims to persistent storage.
-/

namespace PgOperator.Kube

def Table.typedLocalObjectReference : Shape :=
  .loose "TypedLocalObjectReference" <|
  opt "apiGroup" .text <| req "kind" .text <| req "name" .text .nil

def Table.typedObjectReference : Shape :=
  .loose "TypedObjectReference" <|
  opt "apiGroup" .text <| req "kind" .text <| req "name" .text <| opt "namespace" .text .nil

def Table.persistentVolumeClaimCondition : Shape :=
  .loose "PersistentVolumeClaimCondition" <|
  opt "lastProbeTime" .instant <| opt "lastTransitionTime" .instant <| opt "message" .text <|
  opt "reason" .text <| req "status" .text <| req "type" .text .nil

def Table.modifyVolumeStatus : Shape :=
  .loose "ModifyVolumeStatus" <|
  req "status" .text <| opt "targetVolumeAttributesClassName" .text .nil

structure VolumeResourceRequirements where
  limits : Option (Dict String) := none
  requests : Option (Dict String) := none
  deriving DecidableEq

abbrev VolumeResourceRequirements.fields : Fields :=
  opt "limits" (.dict .text) <| opt "requests" (.dict .text) .nil

instance : Record VolumeResourceRequirements where
  heading := .loose "VolumeResourceRequirements"
  fields := VolumeResourceRequirements.fields
  toVal x := (x.limits, x.requests, ())
  ofVal := fun (limits, requests, ()) =>
    {limits, requests}
  ofVal_toVal _ := rfl
  toVal_ofVal _ := rfl

def PersistentVolumeClaimSpec.otherFields : Fields :=
  opt "dataSource" Table.typedLocalObjectReference <|
  opt "dataSourceRef" Table.typedObjectReference <|
  opt "selector" (Record.shape LabelSelector) <| opt "volumeAttributesClassName" .text <|
  opt "volumeName" .text .nil

structure PersistentVolumeClaimSpec where
  accessModes : Option (List String) := none
  storageClassName : Option String := none
  resources : Option VolumeResourceRequirements := none
  volumeMode : Option String := none
  other : PersistentVolumeClaimSpec.otherFields.Val := PersistentVolumeClaimSpec.otherFields.zero
  deriving DecidableEq

abbrev PersistentVolumeClaimSpec.fields : Fields :=
  opt "accessModes" (.list .text) <| opt "storageClassName" .text <|
  opt "resources" (Record.shape VolumeResourceRequirements) <| opt "volumeMode" .text <|
  PersistentVolumeClaimSpec.otherFields

instance : Record PersistentVolumeClaimSpec where
  heading := .loose "PersistentVolumeClaimSpec"
  fields := PersistentVolumeClaimSpec.fields
  toVal x := (x.accessModes, x.storageClassName, x.resources.map Record.toVal, x.volumeMode,
    x.other)
  ofVal := fun (accessModes, storageClassName, resources, volumeMode, other) =>
    {accessModes, storageClassName, resources := resources.map Record.ofVal, volumeMode, other}
  ofVal_toVal x := by simp [Function.comp_def]
  toVal_ofVal v := by simp [Function.comp_def]

def PersistentVolumeClaimStatus.otherFields : Fields :=
  opt "accessModes" (.list .text) <| opt "allocatedResourceStatuses" (.dict .text) <|
  opt "allocatedResources" (.dict .text) <| opt "capacity" (.dict .text) <|
  opt "conditions" (.list Table.persistentVolumeClaimCondition) <|
  opt "currentVolumeAttributesClassName" .text <|
  opt "modifyVolumeStatus" Table.modifyVolumeStatus .nil

structure PersistentVolumeClaimStatus where
  phase : Option String := none
  other : PersistentVolumeClaimStatus.otherFields.Val :=
    PersistentVolumeClaimStatus.otherFields.zero
  deriving DecidableEq

abbrev PersistentVolumeClaimStatus.fields : Fields :=
  opt "phase" .text <| PersistentVolumeClaimStatus.otherFields

instance : Record PersistentVolumeClaimStatus where
  heading := .loose "PersistentVolumeClaimStatus"
  fields := PersistentVolumeClaimStatus.fields
  toVal x := (x.phase, x.other)
  ofVal := fun (phase, other) =>
    {phase, other}
  ofVal_toVal _ := rfl
  toVal_ofVal _ := rfl

structure PersistentVolumeClaim where
  metadata : ObjectMeta := {}
  spec : Option PersistentVolumeClaimSpec := none
  status : Option PersistentVolumeClaimStatus := none
  deriving DecidableEq

abbrev PersistentVolumeClaim.fields : Fields :=
  .const "apiVersion" "v1" true <| .const "kind" "PersistentVolumeClaim" true <|
  req "metadata" (Record.shape ObjectMeta) <|
  opt "spec" (Record.shape PersistentVolumeClaimSpec) <|
  opt "status" (Record.shape PersistentVolumeClaimStatus) .nil

instance : Record PersistentVolumeClaim where
  heading := .loose "PersistentVolumeClaim"
  fields := PersistentVolumeClaim.fields
  toVal x := (Record.toVal x.metadata, x.spec.map Record.toVal, x.status.map Record.toVal, ())
  ofVal := fun (metadata, spec, status, ()) =>
    {metadata := Record.ofVal metadata, spec := spec.map Record.ofVal,
      status := status.map Record.ofVal}
  ofVal_toVal x := by simp [Function.comp_def]
  toVal_ofVal v := by simp [Function.comp_def]

def Table.persistentVolumeClaimTemplate : Shape :=
  .loose "PersistentVolumeClaimTemplate" <|
  opt "metadata" (Record.shape ObjectMeta) <|
  req "spec" (Record.shape PersistentVolumeClaimSpec) .nil

end PgOperator.Kube
