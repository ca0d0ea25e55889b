import PgOperator.Kube.Pod
import PgOperator.Kube.Service

/-!
What a user sets on the objects of an instance, and how it is monitored by a metrics exporter.
-/

namespace PgOperator

open Kube

/-! ### Objects -/

structure ControllerTemplate where
  annotations : Option (Dict String) := none
  deriving DecidableEq

abbrev ControllerTemplate.fields : Fields :=
  opt "annotations" (.dict .text) .nil

instance : Record ControllerTemplate where
  heading := .exact "struct ControllerTemplate"
  fields := ControllerTemplate.fields
  toVal x := (x.annotations, ())
  ofVal := fun (annotations, ()) =>
    {annotations}
  ofVal_toVal _ := rfl
  toVal_ofVal _ := rfl

structure PodOverrides where
  nodeSelector : Option (Dict String) := none
  affinity : Option Table.affinity.Val := none
  tolerations : Option (List Table.toleration.Val) := none
  resources : Option ResourceRequirements := none
  livenessProbe : Option Probe := none
  readinessProbe : Option Probe := none
  lifecycle : Option Lifecycle := none
  env : List EnvVar := []
  securityContext : Option Table.podSecurityContext.Val := none
  schedulerName : Option String := none
  priorityClassName : Option String := none
  priority : Option Int32 := none
  serviceAccountName : Option String := none
  imagePullSecrets : Option (List Table.localObjectReference.Val) := none
  initContainers : List Container := []
  deriving DecidableEq

abbrev PodOverrides.fields : Fields :=
  opt "nodeSelector" (.dict .text) <| opt "affinity" (.hidden Table.affinity) <|
  opt "tolerations" (.list (.hidden Table.toleration)) <|
  opt "resources" (.hidden (Record.shape ResourceRequirements)) <|
  opt "livenessProbe" (.hidden (Record.shape Probe)) <|
  opt "readinessProbe" (.hidden (Record.shape Probe)) <|
  opt "lifecycle" (.hidden (Record.shape Lifecycle)) <|
  skip "env" (.arr []) (.list (.hidden (Record.shape EnvVar))) <|
  opt "securityContext" (.hidden Table.podSecurityContext) <|
  opt "schedulerName" .text <| opt "priorityClassName" .text <| opt "priority" .int32 <|
  opt "serviceAccountName" .text <|
  opt "imagePullSecrets" (.list (.hidden Table.localObjectReference)) <|
  skip "initContainers" (.arr []) (.list (.hidden (Record.shape Container))) .nil

instance : Record PodOverrides where
  heading := .exact "struct PodOverrides"
  fields := PodOverrides.fields
  toVal x := (x.nodeSelector, x.affinity, x.tolerations, x.resources.map Record.toVal,
    x.livenessProbe.map Record.toVal, x.readinessProbe.map Record.toVal,
    x.lifecycle.map Record.toVal, x.env.map Record.toVal, x.securityContext, x.schedulerName,
    x.priorityClassName, x.priority, x.serviceAccountName, x.imagePullSecrets,
    x.initContainers.map Record.toVal, ())
  ofVal := fun (nodeSelector, affinity, tolerations, resources, livenessProbe, readinessProbe,
    lifecycle, env, securityContext, schedulerName, priorityClassName, priority,
    serviceAccountName, imagePullSecrets, initContainers, ()) =>
    {nodeSelector, affinity, tolerations, resources := resources.map Record.ofVal,
      livenessProbe := livenessProbe.map Record.ofVal,
      readinessProbe := readinessProbe.map Record.ofVal, lifecycle := lifecycle.map Record.ofVal,
      env := env.map Record.ofVal, securityContext, schedulerName, priorityClassName, priority,
      serviceAccountName, imagePullSecrets, initContainers := initContainers.map Record.ofVal}
  ofVal_toVal x := by simp [Function.comp_def]
  toVal_ofVal v := by simp [Function.comp_def]

structure PodTemplate where
  annotations : Option (Dict String) := none
  controller : ControllerTemplate := {}
  spec : PodOverrides := {}
  deriving DecidableEq

abbrev PodTemplate.fields : Fields :=
  opt "annotations" (.dict .text) <|
  dflt "controller" (.obj []) (Record.shape ControllerTemplate) <|
  dflt "spec" (.obj []) (Record.shape PodOverrides) .nil

instance : Record PodTemplate where
  heading := .exact "struct PodTemplate"
  fields := PodTemplate.fields
  toVal x := (x.annotations, Record.toVal x.controller, Record.toVal x.spec, ())
  ofVal := fun (annotations, controller, spec, ()) =>
    {annotations, controller := Record.ofVal controller, spec := Record.ofVal spec}
  ofVal_toVal x := by simp
  toVal_ofVal v := by simp

structure ServiceOverrides where
  clusterIP : Option String := none
  type : Option String := none
  externalIPs : Option (List String) := none
  loadBalancerIP : Option String := none
  loadBalancerSourceRanges : Option (List String) := none
  externalTrafficPolicy : Option String := none
  healthCheckNodePort : Option Int32 := none
  ports : List ServicePort := []
  deriving DecidableEq

abbrev ServiceOverrides.fields : Fields :=
  opt "clusterIP" .text <| opt "type" .text <| opt "externalIPs" (.list .text) <|
  opt "loadBalancerIP" .text <| opt "loadBalancerSourceRanges" (.list .text) <|
  opt "externalTrafficPolicy" .text <| opt "healthCheckNodePort" .int32 <|
  skip "ports" (.arr []) (.list (.hidden (Record.shape ServicePort))) .nil

instance : Record ServiceOverrides where
  heading := .exact "struct ServiceOverrides"
  fields := ServiceOverrides.fields
  toVal x := (x.clusterIP, x.type, x.externalIPs, x.loadBalancerIP, x.loadBalancerSourceRanges,
    x.externalTrafficPolicy, x.healthCheckNodePort, x.ports.map Record.toVal, ())
  ofVal := fun (clusterIP, type, externalIPs, loadBalancerIP, loadBalancerSourceRanges,
    externalTrafficPolicy, healthCheckNodePort, ports, ()) =>
    {clusterIP, type, externalIPs, loadBalancerIP, loadBalancerSourceRanges,
      externalTrafficPolicy, healthCheckNodePort, ports := ports.map Record.ofVal}
  ofVal_toVal x := by simp [Function.comp_def]
  toVal_ofVal v := by simp [Function.comp_def]

structure ServiceTemplate where
  annotations : Option (Dict String) := none
  spec : ServiceOverrides := {}
  deriving DecidableEq

abbrev ServiceTemplate.fields : Fields :=
  opt "annotations" (.dict .text) <| dflt "spec" (.obj []) (Record.shape ServiceOverrides) .nil

instance : Record ServiceTemplate where
  heading := .exact "struct ServiceTemplate"
  fields := ServiceTemplate.fields
  toVal x := (x.annotations, Record.toVal x.spec, ())
  ofVal := fun (annotations, spec, ()) =>
    {annotations, spec := Record.ofVal spec}
  ofVal_toVal x := by simp
  toVal_ofVal v := by simp

/-! ### Monitoring -/

/-- The port that an exporter listens on unless told otherwise. -/
def Exporter.defaultPort : Int32 := 56790

structure Exporter where
  port : Int32 := Exporter.defaultPort
  args : List String := []
  env : List EnvVar := []
  resources : Option ResourceRequirements := none
  securityContext : Option SecurityContext := none
  deriving DecidableEq

abbrev Exporter.fields : Fields :=
  dflt "port" (.int 56790) .int32 <| skip "args" (.arr []) (.list .text) <|
  skip "env" (.arr []) (.list (.hidden (Record.shape EnvVar))) <|
  opt "resources" (.hidden (Record.shape ResourceRequirements)) <|
  opt "securityContext" (.hidden (Record.shape SecurityContext)) .nil

instance : Record Exporter where
  heading := .exact "struct Exporter"
  fields := Exporter.fields
  toVal x := (x.port, x.args, x.env.map Record.toVal, x.resources.map Record.toVal,
    x.securityContext.map Record.toVal, ())
  ofVal := fun (port, args, env, resources, securityContext, ()) =>
    {port, args, env := env.map Record.ofVal, resources := resources.map Record.ofVal,
      securityContext := securityContext.map Record.ofVal}
  ofVal_toVal x := by simp [Function.comp_def]
  toVal_ofVal v := by simp [Function.comp_def]

structure PrometheusMonitor where
  exporter : Exporter := {}
  deriving DecidableEq

abbrev PrometheusMonitor.fields : Fields :=
  dflt "exporter" (Json.object [("port", .int 56790)]) (Record.shape Exporter) .nil

instance : Record PrometheusMonitor where
  heading := .exact "struct PrometheusMonitor"
  fields := PrometheusMonitor.fields
  toVal x := (Record.toVal x.exporter, ())
  ofVal := fun (exporter, ()) =>
    {exporter := Record.ofVal exporter}
  ofVal_toVal x := by simp
  toVal_ofVal v := by simp

/-- The agent that monitors an instance, such as `prometheus.io/operator`. -/
structure Monitor where
  agent : String := ""
  prometheus : Option PrometheusMonitor := none
  deriving DecidableEq

abbrev Monitor.fields : Fields :=
  must "agent" .text <| opt "prometheus" (Record.shape PrometheusMonitor) .nil

instance : Record Monitor where
  heading := .exact "struct Monitor"
  fields := Monitor.fields
  toVal x := (x.agent, x.prometheus.map Record.toVal, ())
  ofVal := fun (agent, prometheus, ()) =>
    {agent, prometheus := prometheus.map Record.ofVal}
  ofVal_toVal x := by simp [Function.comp_def]
  toVal_ofVal v := by simp [Function.comp_def]

end PgOperator
