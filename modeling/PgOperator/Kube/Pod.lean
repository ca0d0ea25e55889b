import PgOperator.Kube.Container
import PgOperator.Kube.Volume

/-!
Pods and the templates they are made from, with what decides on which node a pod runs.
-/

namespace PgOperator

namespace Kube

/-! ### Scheduling -/

def Table.nodeSelectorRequirement : Shape :=
  .loose "NodeSelectorRequirement" <|
  req "key" .text <| req "operator" .text <| opt "values" (.list .text) .nil

def Table.nodeSelectorTerm : Shape :=
  .loose "NodeSelectorTerm" <|
  opt "matchExpressions" (.list Table.nodeSelectorRequirement) <|
  opt "matchFields" (.list Table.nodeSelectorRequirement) .nil

def Table.nodeSelector : Shape :=
  .loose "NodeSelector" <|
  req "nodeSelectorTerms" (.list Table.nodeSelectorTerm) .nil

def Table.preferredSchedulingTerm : Shape :=
  .loose "PreferredSchedulingTerm" <|
  req "preference" Table.nodeSelectorTerm <| req "weight" .int32 .nil

def Table.nodeAffinity : Shape :=
  .loose "NodeAffinity" <|
  opt "preferredDuringSchedulingIgnoredDuringExecution" (.list Table.preferredSchedulingTerm) <|
  opt "requiredDuringSchedulingIgnoredDuringExecution" Table.nodeSelector .nil

def Table.podAffinityTerm : Shape :=
  .loose "PodAffinityTerm" <|
  opt "labelSelector" (Record.shape LabelSelector) <| opt "matchLabelKeys" (.list .text) <|
  opt "mismatchLabelKeys" (.list .text) <|
  opt "namespaceSelector" (Record.shape LabelSelector) <| opt "namespaces" (.list .text) <|
  req "topologyKey" .text .nil

def Table.weightedPodAffinityTerm : Shape :=
  .loose "WeightedPodAffinityTerm" <|
  req "podAffinityTerm" Table.podAffinityTerm <| req "weight" .int32 .nil

def Table.podAffinity : Shape :=
  .loose "PodAffinity" <|
  opt "preferredDuringSchedulingIgnoredDuringExecution" (.list Table.weightedPodAffinityTerm) <|
  opt "requiredDuringSchedulingIgnoredDuringExecution" (.list Table.podAffinityTerm) .nil

def Table.podAntiAffinity : Shape :=
  .loose "PodAntiAffinity" <|
  opt "preferredDuringSchedulingIgnoredDuringExecution" (.list Table.weightedPodAffinityTerm) <|
  opt "requiredDuringSchedulingIgnoredDuringExecution" (.list Table.podAffinityTerm) .nil

def Table.affinity : Shape :=
  .loose "Affinity" <|
  opt "nodeAffinity" Table.nodeAffinity <|
  opt "podAffinity" Table.podAffinity <|
  opt "podAntiAffinity" Table.podAntiAffinity .nil

def Table.toleration : Shape :=
  .loose "Toleration" <|
  opt "effect" .text <| opt "key" .text <| opt "operator" .text <|
  opt "tolerationSeconds" .int64 <| opt "value" .text .nil

def Table.topologySpreadConstraint : Shape :=
  .loose "TopologySpreadConstraint" <|
  opt "labelSelector" (Record.shape LabelSelector) <| opt "matchLabelKeys" (.list .text) <|
  req "maxSkew" .int32 <| opt "minDomains" .int32 <| opt "nodeAffinityPolicy" .text <|
  opt "nodeTaintsPolicy" .text <| req "topologyKey" .text <| req "whenUnsatisfiable" .text .nil

/-! ### Pods -/

def Table.podDNSConfigOption : Shape :=
  .loose "PodDNSConfigOption" <|
  opt "name" .text <| opt "value" .text .nil

def Table.podDNSConfig : Shape :=
  .loose "PodDNSConfig" <|
  opt "nameservers" (.list .text) <| opt "options" (.list Table.podDNSConfigOption) <|
  opt "searches" (.list .text) .nil

def Table.hostAlias : Shape :=
  .loose "HostAlias" <|
  opt "hostnames" (.list .text) <| opt "ip" .text .nil

def Table.podOS : Shape := .loose "PodOS" <| req "name" .text .nil

def Table.podReadinessGate : Shape := .loose "PodReadinessGate" <| req "conditionType" .text .nil

def Table.claimSource : Shape :=
  .loose "ClaimSource" <|
  opt "resourceClaimName" .text <| opt "resourceClaimTemplateName" .text .nil

def Table.podResourceClaim : Shape :=
  .loose "PodResourceClaim" <|
  req "name" .text <| opt "source" Table.claimSource .nil

def Table.podSchedulingGate : Shape := .loose "PodSchedulingGate" <| req "name" .text .nil

def PodSpec.otherFields : Fields :=
  opt "activeDeadlineSeconds" .int64 <| opt "automountServiceAccountToken" .flag <|
  opt "dnsConfig" Table.podDNSConfig <| opt "enableServiceLinks" .flag <|
  opt "ephemeralContainers" (.list Table.ephemeralContainer) <|
  opt "hostAliases" (.list Table.hostAlias) <| opt "hostIPC" .flag <|
  opt "hostNetwork" .flag <| opt "hostPID" .flag <| opt "hostUsers" .flag <|
  opt "hostname" .text <| opt "nodeName" .text <| opt "os" Table.podOS <|
  opt "overhead" (.dict .text) <| opt "preemptionPolicy" .text <|
  opt "readinessGates" (.list Table.podReadinessGate) <|
  opt "resourceClaims" (.list Table.podResourceClaim) <| opt "runtimeClassName" .text <|
  opt "schedulingGates" (.list Table.podSchedulingGate) <| opt "serviceAccount" .text <|
  opt "setHostnameAsFQDN" .flag <| opt "shareProcessNamespace" .flag <| opt "subdomain" .text <|
  opt "topologySpreadConstraints" (.list Table.topologySpreadConstraint) .nil

structure PodSpec where
  initContainers : Option (List Container) := none
  containers : List Container := []
  volumes : Option (List Volume) := none
  nodeSelector : Option (Dict String) := none
  affinity : Option Table.affinity.Val := none
  schedulerName : Option String := none
  tolerations : Option (List Table.toleration.Val) := none
  imagePullSecrets : Option (List Table.localObjectReference.Val) := none
  priorityClassName : Option String := none
  priority : Option Int32 := none
  securityContext : Option Table.podSecurityContext.Val := none
  serviceAccountName : Option String := none
  restartPolicy : Option String := none
  dnsPolicy : Option String := none
  terminationGracePeriodSeconds : Option Int64 := none
  other : PodSpec.otherFields.Val := PodSpec.otherFields.zero
  deriving DecidableEq

abbrev PodSpec.fields : Fields :=
  opt "initContainers" (.list (Record.shape Container)) <|
  req "containers" (.list (Record.shape Container)) <|
  opt "volumes" (.list (Record.shape Volume)) <| opt "nodeSelector" (.dict .text) <|
  opt "affinity" Table.affinity <| opt "schedulerName" .text <|
  opt "tolerations" (.list Table.toleration) <|
  opt "imagePullSecrets" (.list Table.localObjectReference) <|
  opt "priorityClassName" .text <| opt "priority" .int32 <|
  opt "securityContext" Table.podSecurityContext <| opt "serviceAccountName" .text <|
  opt "restartPolicy" .text <| opt "dnsPolicy" .text <|
  opt "terminationGracePeriodSeconds" .int64 <| PodSpec.otherFields

instance : Record PodSpec where
  heading := .loose "PodSpec"
  fields := PodSpec.fields
  toVal x := (x.initContainers.map (List.map Record.toVal), x.containers.map Record.toVal,
    x.volumes.map (List.map Record.toVal), x.nodeSelector, x.affinity, x.schedulerName,
    x.tolerations, x.imagePullSecrets, x.priorityClassName, x.priority, x.securityContext,
    x.serviceAccountName, x.restartPolicy, x.dnsPolicy, x.terminationGracePeriodSeconds, x.other)
  ofVal := fun (initContainers, containers, volumes, nodeSelector, affinity, schedulerName,
    tolerations, imagePullSecrets, priorityClassName, priority, securityContext,
    serviceAccountName, restartPolicy, dnsPolicy, terminationGracePeriodSeconds, other) =>
    {initContainers := initContainers.map (List.map Record.ofVal),
      containers := containers.map Record.ofVal, volumes := volumes.map (List.map Record.ofVal),
      nodeSelector, affinity, schedulerName, tolerations, imagePullSecrets, priorityClassName,
      priority, securityContext, serviceAccountName, restartPolicy, dnsPolicy,
      terminationGracePeriodSeconds, other}
  ofVal_toVal x := by simp [Function.comp_def]
  toVal_ofVal v := by simp [Function.comp_def]

/-- What the pods of a workload are made from. -/
structure PodTemplateSpec where
  metadata : Option ObjectMeta := none
  spec : Option PodSpec := none
  deriving DecidableEq

abbrev PodTemplateSpec.fields : Fields :=
  opt "metadata" (Record.shape ObjectMeta) <| opt "spec" (Record.shape PodSpec) .nil

instance : Record PodTemplateSpec where
  heading := .loose "PodTemplateSpec"
  fields := PodTemplateSpec.fields
  toVal x := (x.metadata.map Record.toVal, x.spec.map Record.toVal, ())
  ofVal := fun (metadata, spec, ()) =>
    {metadata := metadata.map Record.ofVal, spec := spec.map Record.ofVal}
  ofVal_toVal x := by simp [Function.comp_def]
  toVal_ofVal v := by simp [Function.comp_def]

end Kube

end PgOperator
