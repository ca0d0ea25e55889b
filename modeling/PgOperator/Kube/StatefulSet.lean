import PgOperator.Kube.Pod
import PgOperator.Kube.Service

/-!
Stateful sets, numbered pods with storage of their own, and disruption budgets, which say how many
pods may be away at once.
-/

namespace PgOperator

namespace Kube

/-! ### Stateful sets -/

def Table.statefulSetCondition : Shape :=
  .loose "StatefulSetCondition" <|
  opt "lastTransitionTime" .instant <| opt "message" .text <| opt "reason" .text <|
  req "status" .text <| req "type" .text .nil

def Table.statefulSetOrdinals : Shape := .loose "StatefulSetOrdinals" <| opt "start" .int32 .nil

def Table.statefulSetPersistentVolumeClaimRetentionPolicy : Shape :=
  .loose "StatefulSetPersistentVolumeClaimRetentionPolicy" <|
  opt "whenDeleted" .text <| opt "whenScaled" .text .nil

def Table.rollingUpdateStatefulSetStrategy : Shape :=
  .loose "RollingUpdateStatefulSetStrategy" <|
  opt "maxUnavailable" .intOrText <| opt "partition" .int32 .nil

def Table.statefulSetStatus : Shape :=
  .loose "StatefulSetStatus" <|
  opt "availableReplicas" .int32 <| opt "collisionCount" .int32 <|
  opt "conditions" (.list Table.statefulSetCondition) <| opt "currentReplicas" .int32 <|
  opt "currentRevision" .text <| opt "observedGeneration" .int64 <| opt "readyReplicas" .int32 <|
  req "replicas" .int32 <| opt "updateRevision" .text <| opt "updatedReplicas" .int32 .nil

/-- When pods of an older template are replaced. -/
structure StatefulSetUpdateStrategy where
  type : Option String := none
  rollingUpdate : Option Table.rollingUpdateStatefulSetStrategy.Val := none
  deriving DecidableEq

abbrev StatefulSetUpdateStrategy.fields : Fields :=
  opt "type" .text <| opt "rollingUpdate" Table.rollingUpdateStatefulSetStrategy .nil

instance : Record StatefulSetUpdateStrategy where
  heading := .loose "StatefulSetUpdateStrategy"
  fields := StatefulSetUpdateStrategy.fields
  toVal x := (x.type, x.rollingUpdate, ())
  ofVal := fun (type, rollingUpdate, ()) =>
    {type, rollingUpdate}
  ofVal_toVal _ := rfl
  toVal_ofVal _ := rfl

def StatefulSetSpec.otherFields : Fields :=
  opt "minReadySeconds" .int32 <| opt "ordinals" Table.statefulSetOrdinals <|
  opt "persistentVolumeClaimRetentionPolicy"
    Table.statefulSetPersistentVolumeClaimRetentionPolicy <|
  opt "podManagementPolicy" .text <| opt "revisionHistoryLimit" .int32 .nil

structure StatefulSetSpec where
  replicas : Option Int32 := none
  serviceName : String := ""
  selector : LabelSelector := {}
  updateStrategy : Option StatefulSetUpdateStrategy := none
  template : PodTemplateSpec := {}
  volumeClaimTemplates : Option (List PersistentVolumeClaim) := none
  other : StatefulSetSpec.otherFields.Val := StatefulSetSpec.otherFields.zero
  deriving DecidableEq

abbrev StatefulSetSpec.fields : Fields :=
  opt "replicas" .int32 <| req "serviceName" .text <|
  req "selector" (Record.shape LabelSelector) <|
  opt "updateStrategy" (Record.shape StatefulSetUpdateStrategy) <|
  req "template" (Record.shape PodTemplateSpec) <|
  opt "volumeClaimTemplates" (.list (Record.shape PersistentVolumeClaim)) <|
  StatefulSetSpec.otherFields

instance : Record StatefulSetSpec where
  heading := .loose "StatefulSetSpec"
  fields := StatefulSetSpec.fields
  toVal x := (x.replicas, x.serviceName, Record.toVal x.selector,
    x.updateStrategy.map Record.toVal, Record.toVal x.template,
    x.volumeClaimTemplates.map (List.map Record.toVal), x.other)
  ofVal := fun (replicas, serviceName, selector, updateStrategy, template, volumeClaimTemplates,
    other) =>
    {replicas, serviceName, selector := Record.ofVal selector,
      updateStrategy := updateStrategy.map Record.ofVal, template := Record.ofVal template,
      volumeClaimTemplates := volumeClaimTemplates.map (List.map Record.ofVal), other}
  ofVal_toVal x := by simp [Function.comp_def]
  toVal_ofVal v := by simp [Function.comp_def]

structure StatefulSet where
  metadata : ObjectMeta := {}
  spec : Option StatefulSetSpec := none
  status : Option Table.statefulSetStatus.Val := none
  deriving DecidableEq

abbrev StatefulSet.fields : Fields :=
  .const "apiVersion" "apps/v1" true <| .const "kind" "StatefulSet" true <|
  req "metadata" (Record.shape ObjectMeta) <| opt "spec" (Record.shape StatefulSetSpec) <|
  opt "status" Table.statefulSetStatus .nil

instance : Record StatefulSet where
  heading := .loose "StatefulSet"
  fields := StatefulSet.fields
  toVal x := (Record.toVal x.metadata, x.spec.map Record.toVal, x.status, ())
  ofVal := fun (metadata, spec, status, ()) =>
    {metadata := Record.ofVal metadata, spec := spec.map Record.ofVal, status}
  ofVal_toVal x := by simp [Function.comp_def]
  toVal_ofVal v := by simp [Function.comp_def]

/-! ### Disruption budgets -/

def Table.podDisruptionBudgetStatus : Shape :=
  .loose "PodDisruptionBudgetStatus" <|
  opt "conditions" (.list Table.objectCondition) <| req "currentHealthy" .int32 <|
  req "desiredHealthy" .int32 <| opt "disruptedPods" (.dict .instant) <|
  req "disruptionsAllowed" .int32 <| req "expectedPods" .int32 <|
  opt "observedGeneration" .int64 .nil

def PodDisruptionBudgetSpec.otherFields : Fields := opt "unhealthyPodEvictionPolicy" .text .nil

/-- Whose pods a budget covers, and how many may be away. -/
structure PodDisruptionBudgetSpec where
  selector : Option LabelSelector := none
  minAvailable : Option IntOrText := none
  maxUnavailable : Option IntOrText := none
  other : PodDisruptionBudgetSpec.otherFields.Val := PodDisruptionBudgetSpec.otherFields.zero
  deriving DecidableEq

abbrev PodDisruptionBudgetSpec.fields : Fields :=
  opt "selector" (Record.shape LabelSelector) <| opt "minAvailable" .intOrText <|
  opt "maxUnavailable" .intOrText <| PodDisruptionBudgetSpec.otherFields

instance : Record PodDisruptionBudgetSpec where
  heading := .loose "PodDisruptionBudgetSpec"
  fields := PodDisruptionBudgetSpec.fields
  toVal x := (x.selector.map Record.toVal, x.minAvailable, x.maxUnavailable, x.other)
  ofVal := fun (selector, minAvailable, maxUnavailable, other) =>
    {selector := selector.map Record.ofVal, minAvailable, maxUnavailable, other}
  ofVal_toVal x := by simp [Function.comp_def]
  toVal_ofVal v := by simp [Function.comp_def]

structure PodDisruptionBudget where
  metadata : ObjectMeta := {}
  spec : Option PodDisruptionBudgetSpec := none
  status : Option Table.podDisruptionBudgetStatus.Val := none
  deriving DecidableEq

abbrev PodDisruptionBudget.fields : Fields :=
  .const "apiVersion" "policy/v1" true <| .const "kind" "PodDisruptionBudget" true <|
  req "metadata" (Record.shape ObjectMeta) <|
  opt "spec" (Record.shape PodDisruptionBudgetSpec) <|
  opt "status" Table.podDisruptionBudgetStatus .nil

instance : Record PodDisruptionBudget where
  heading := .loose "PodDisruptionBudget"
  fields := PodDisruptionBudget.fields
  toVal x := (Record.toVal x.metadata, x.spec.map Record.toVal, x.status, ())
  ofVal := fun (metadata, spec, status, ()) =>
    {metadata := Record.ofVal metadata, spec := spec.map Record.ofVal, status}
  ofVal_toVal x := by simp [Function.comp_def]
  toVal_ofVal v := by simp [Function.comp_def]

end Kube

end PgOperator
