import PgOperator.Kube.Meta

/-!
Services: names and addresses in front of pods.
-/

namespace PgOperator.Kube

def Table.objectCondition : Shape :=
  .loose "Condition" <|
  req "lastTransitionTime" .instant <| req "message" .text <| opt "observedGeneration" .int64 <|
  req "reason" .text <| req "status" .text <| req "type" .text .nil

def Table.portStatus : Shape :=
  .loose "PortStatus" <|
  opt "error" .text <| req "port" .int32 <| req "protocol" .text .nil

def Table.loadBalancerIngress : Shape :=
  .loose "LoadBalancerIngress" <|
  opt "hostname" .text <| opt "ip" .text <| opt "ipMode" .text <|
  opt "ports" (.list Table.portStatus) .nil

def Table.loadBalancerStatus : Shape :=
  .loose "LoadBalancerStatus" <|
  opt "ingress" (.list Table.loadBalancerIngress) .nil

def Table.clientIPConfig : Shape := .loose "ClientIPConfig" <| opt "timeoutSeconds" .int32 .nil

def Table.sessionAffinityConfig : Shape :=
  .loose "SessionAffinityConfig" <|
  opt "clientIP" Table.clientIPConfig .nil

def Table.serviceStatus : Shape :=
  .loose "ServiceStatus" <|
  opt "conditions" (.list Table.objectCondition) <|
  opt "loadBalancer" Table.loadBalancerStatus .nil

structure ServicePort where
  name : Option String := none
  port : Int32 := 0
  targetPort : Option IntOrText := none
  nodePort : Option Int32 := none
  protocol : Option String := none
  appProtocol : Option String := none
  deriving DecidableEq

abbrev ServicePort.fields : Fields :=
  opt "name" .text <| req "port" .int32 <| opt "targetPort" .intOrText <| opt "nodePort" .int32 <|
  opt "protocol" .text <| opt "appProtocol" .text .nil

instance : Record ServicePort where
  heading := .loose "ServicePort"
  fields := ServicePort.fields
  toVal x := (x.name, x.port, x.targetPort, x.nodePort, x.protocol, x.appProtocol, ())
  ofVal := fun (name, port, targetPort, nodePort, protocol, appProtocol, ()) =>
    {name, port, targetPort, nodePort, protocol, appProtocol}
  ofVal_toVal _ := rfl
  toVal_ofVal _ := rfl

def ServiceSpec.otherFields : Fields :=
  opt "allocateLoadBalancerNodePorts" .flag <| opt "clusterIPs" (.list .text) <|
  opt "externalName" .text <| opt "internalTrafficPolicy" .text <|
  opt "ipFamilies" (.list .text) <| opt "ipFamilyPolicy" .text <| opt "loadBalancerClass" .text <|
  opt "sessionAffinity" .text <|
  opt "sessionAffinityConfig" Table.sessionAffinityConfig <|
  opt "trafficDistribution" .text .nil

/-- Whom a service stands in front of, and how. -/
structure ServiceSpec where
  type : Option String := none
  clusterIP : Option String := none
  selector : Option (Dict String) := none
  ports : Option (List ServicePort) := none
  publishNotReadyAddresses : Option Bool := none
  externalIPs : Option (List String) := none
  loadBalancerIP : Option String := none
  loadBalancerSourceRanges : Option (List String) := none
  externalTrafficPolicy : Option String := none
  healthCheckNodePort : Option Int32 := none
  other : ServiceSpec.otherFields.Val := ServiceSpec.otherFields.zero
  deriving DecidableEq

abbrev ServiceSpec.fields : Fields :=
  opt "type" .text <| opt "clusterIP" .text <| opt "selector" (.dict .text) <|
  opt "ports" (.list (Record.shape ServicePort)) <| opt "publishNotReadyAddresses" .flag <|
  opt "externalIPs" (.list .text) <| opt "loadBalancerIP" .text <|
  opt "loadBalancerSourceRanges" (.list .text) <| opt "externalTrafficPolicy" .text <|
  opt "healthCheckNodePort" .int32 <| ServiceSpec.otherFields

instance : Record ServiceSpec where
  heading := .loose "ServiceSpec"
  fields := ServiceSpec.fields
  toVal x := (x.type, x.clusterIP, x.selector, x.ports.map (List.map Record.toVal),
    x.publishNotReadyAddresses, x.externalIPs, x.loadBalancerIP, x.loadBalancerSourceRanges,
    x.externalTrafficPolicy, x.healthCheckNodePort, x.other)
  ofVal := fun (type, clusterIP, selector, ports, publishNotReadyAddresses, externalIPs,
    loadBalancerIP, loadBalancerSourceRanges, externalTrafficPolicy, healthCheckNodePort,
    other) =>
    {type, clusterIP, selector, ports := ports.map (List.map Record.ofVal),
      publishNotReadyAddresses, externalIPs, loadBalancerIP, loadBalancerSourceRanges,
      externalTrafficPolicy, healthCheckNodePort, other}
  ofVal_toVal x := by simp [Function.comp_def]
  toVal_ofVal v := by simp [Function.comp_def]

structure Service where
  metadata : ObjectMeta := {}
  spec : Option ServiceSpec := none
  status : Option Table.serviceStatus.Val := none
  deriving DecidableEq

abbrev Service.fields : Fields :=
  .const "apiVersion" "v1" true <| .const "kind" "Service" true <|
  req "metadata" (Record.shape ObjectMeta) <| opt "spec" (Record.shape ServiceSpec) <|
  opt "status" Table.serviceStatus .nil

instance : Record Service where
  heading := .loose "Service"
  fields := Service.fields
  toVal x := (Record.toVal x.metadata, x.spec.map Record.toVal, x.status, ())
  ofVal := fun (metadata, spec, status, ()) =>
    {metadata := Record.ofVal metadata, spec := spec.map Record.ofVal, status}
  ofVal_toVal x := by simp [Function.comp_def]
  toVal_ofVal v := by simp [Function.comp_def]

end PgOperator.Kube
