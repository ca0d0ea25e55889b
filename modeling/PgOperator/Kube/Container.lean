import PgOperator.Kube.Env
import PgOperator.Kube.Probe

/-!
Containers of a pod.
-/

namespace PgOperator

namespace Kube

/-! ### Security settings -/

def Table.appArmorProfile : Shape :=
  .loose "AppArmorProfile" <|
  opt "localhostProfile" .text <| req "type" .text .nil

def Table.seLinuxOptions : Shape :=
  .loose "SELinuxOptions" <|
  opt "level" .text <| opt "role" .text <| opt "type" .text <| opt "user" .text .nil

def Table.seccompProfile : Shape :=
  .loose "SeccompProfile" <|
  opt "localhostProfile" .text <| req "type" .text .nil

def Table.windowsSecurityContextOptions : Shape :=
  .loose "WindowsSecurityContextOptions" <|
  opt "gmsaCredentialSpec" .text <| opt "gmsaCredentialSpecName" .text <|
  opt "hostProcess" .flag <| opt "runAsUserName" .text .nil

def Table.sysctl : Shape := .loose "Sysctl" <| req "name" .text <| req "value" .text .nil

def Table.podSecurityContext : Shape :=
  .loose "PodSecurityContext" <|
  opt "appArmorProfile" Table.appArmorProfile <| opt "fsGroup" .int64 <|
  opt "fsGroupChangePolicy" .text <| opt "runAsGroup" .int64 <| opt "runAsNonRoot" .flag <|
  opt "runAsUser" .int64 <| opt "seLinuxOptions" Table.seLinuxOptions <|
  opt "seccompProfile" Table.seccompProfile <|
  opt "supplementalGroups" (.list .int64) <| opt "sysctls" (.list Table.sysctl) <|
  opt "windowsOptions" Table.windowsSecurityContextOptions .nil

/-! ### Containers -/

def Table.configMapEnvSource : Shape :=
  .loose "ConfigMapEnvSource" <|
  opt "name" .text <| opt "optional" .flag .nil

def Table.secretEnvSource : Shape :=
  .loose "SecretEnvSource" <|
  opt "name" .text <| opt "optional" .flag .nil

def Table.envFromSource : Shape :=
  .loose "EnvFromSource" <|
  opt "configMapRef" Table.configMapEnvSource <| opt "prefix" .text <|
  opt "secretRef" Table.secretEnvSource .nil

def Table.containerResizePolicy : Shape :=
  .loose "ContainerResizePolicy" <|
  req "resourceName" .text <| req "restartPolicy" .text .nil

def Table.resourceClaim : Shape := .loose "ResourceClaim" <| req "name" .text .nil

def Table.volumeDevice : Shape :=
  .loose "VolumeDevice" <|
  req "devicePath" .text <| req "name" .text .nil

structure ContainerPort where
  containerPort : Int32 := 0
  name : Option String := none
  protocol : Option String := none
  hostPort : Option Int32 := none
  hostIP : Option String := none
  deriving DecidableEq

abbrev ContainerPort.fields : Fields :=
  req "containerPort" .int32 <| opt "name" .text <| opt "protocol" .text <|
  opt "hostPort" .int32 <| opt "hostIP" .text .nil

instance : Record ContainerPort where
  heading := .loose "ContainerPort"
  fields := ContainerPort.fields
  toVal x := (x.containerPort, x.name, x.protocol, x.hostPort, x.hostIP, ())
  ofVal := fun (containerPort, name, protocol, hostPort, hostIP, ()) =>
    {containerPort, name, protocol, hostPort, hostIP}
  ofVal_toVal _ := rfl
  toVal_ofVal _ := rfl

def VolumeMount.otherFields : Fields :=
  opt "mountPropagation" .text <| opt "readOnly" .flag <| opt "recursiveReadOnly" .text <|
  opt "subPath" .text <| opt "subPathExpr" .text .nil

/-- Where a container sees a volume of its pod. -/
structure VolumeMount where
  name : String := ""
  mountPath : String := ""
  other : VolumeMount.otherFields.Val := VolumeMount.otherFields.zero
  deriving DecidableEq

abbrev VolumeMount.fields : Fields :=
  req "name" .text <| req "mountPath" .text <| VolumeMount.otherFields

instance : Record VolumeMount where
  heading := .loose "VolumeMount"
  fields := VolumeMount.fields
  toVal x := (x.name, x.mountPath, x.other)
  ofVal := fun (name, mountPath, other) =>
    {name, mountPath, other}
  ofVal_toVal _ := rfl
  toVal_ofVal _ := rfl

structure Capabilities where
  add : Option (List String) := none
  drop : Option (List String) := none
  deriving DecidableEq

abbrev Capabilities.fields : Fields :=
  opt "add" (.list .text) <| opt "drop" (.list .text) .nil

instance : Record Capabilities where
  heading := .loose "Capabilities"
  fields := Capabilities.fields
  toVal x := (x.add, x.drop, ())
  ofVal := fun (add, drop, ()) =>
    {add, drop}
  ofVal_toVal _ := rfl
  toVal_ofVal _ := rfl

def SecurityContext.otherFields : Fields :=
  opt "allowPrivilegeEscalation" .flag <| opt "appArmorProfile" Table.appArmorProfile <|
  opt "procMount" .text <| opt "readOnlyRootFilesystem" .flag <| opt "runAsGroup" .int64 <|
  opt "runAsNonRoot" .flag <| opt "runAsUser" .int64 <|
  opt "seLinuxOptions" Table.seLinuxOptions <|
  opt "seccompProfile" Table.seccompProfile <|
  opt "windowsOptions" Table.windowsSecurityContextOptions .nil

/-- What a container may do. -/
structure SecurityContext where
  privileged : Option Bool := none
  capabilities : Option Capabilities := none
  other : SecurityContext.otherFields.Val := SecurityContext.otherFields.zero
  deriving DecidableEq

abbrev SecurityContext.fields : Fields :=
  opt "privileged" .flag <| opt "capabilities" (Record.shape Capabilities) <|
  SecurityContext.otherFields

instance : Record SecurityContext where
  heading := .loose "SecurityContext"
  fields := SecurityContext.fields
  toVal x := (x.privileged, x.capabilities.map Record.toVal, x.other)
  ofVal := fun (privileged, capabilities, other) =>
    {privileged, capabilities := capabilities.map Record.ofVal, other}
  ofVal_toVal x := by simp [Function.comp_def]
  toVal_ofVal v := by simp [Function.comp_def]

def ResourceRequirements.otherFields : Fields :=
  opt "claims" (.list Table.resourceClaim) .nil

structure ResourceRequirements where
  limits : Option (Dict String) := none
  requests : Option (Dict String) := none
  other : ResourceRequirements.otherFields.Val := ResourceRequirements.otherFields.zero
  deriving DecidableEq

abbrev ResourceRequirements.fields : Fields :=
  opt "limits" (.dict .text) <| opt "requests" (.dict .text) <| ResourceRequirements.otherFields

instance : Record ResourceRequirements where
  heading := .loose "ResourceRequirements"
  fields := ResourceRequirements.fields
  toVal x := (x.limits, x.requests, x.other)
  ofVal := fun (limits, requests, other) =>
    {limits, requests, other}
  ofVal_toVal _ := rfl
  toVal_ofVal _ := rfl

def Container.otherFields : Fields :=
  opt "envFrom" (.list Table.envFromSource) <|
  opt "resizePolicy" (.list Table.containerResizePolicy) <| opt "restartPolicy" .text <|
  opt "startupProbe" (Record.shape Probe) <| opt "stdin" .flag <| opt "stdinOnce" .flag <|
  opt "tty" .flag <| opt "volumeDevices" (.list Table.volumeDevice) <|
  opt "workingDir" .text .nil

structure Container where
  name : String := ""
  image : Option String := none
  imagePullPolicy : Option String := none
  command : Option (List String) := none
  args : Option (List String) := none
  env : Option (List EnvVar) := none
  ports : Option (List ContainerPort) := none
  resources : Option ResourceRequirements := none
  livenessProbe : Option Probe := none
  readinessProbe : Option Probe := none
  lifecycle : Option Lifecycle := none
  securityContext : Option SecurityContext := none
  volumeMounts : Option (List VolumeMount) := none
  terminationMessagePath : Option String := none
  terminationMessagePolicy : Option String := none
  other : Container.otherFields.Val := Container.otherFields.zero
  deriving DecidableEq

abbrev Container.fields : Fields :=
  req "name" .text <| opt "image" .text <| opt "imagePullPolicy" .text <|
  opt "command" (.list .text) <| opt "args" (.list .text) <|
  opt "env" (.list (Record.shape EnvVar)) <|
  opt "ports" (.list (Record.shape ContainerPort)) <|
  opt "resources" (Record.shape ResourceRequirements) <|
  opt "livenessProbe" (Record.shape Probe) <| opt "readinessProbe" (Record.shape Probe) <|
  opt "lifecycle" (Record.shape Lifecycle) <|
  opt "securityContext" (Record.shape SecurityContext) <|
  opt "volumeMounts" (.list (Record.shape VolumeMount)) <| opt "terminationMessagePath" .text <|
  opt "terminationMessagePolicy" .text <| Container.otherFields

instance : Record Container where
  heading := .loose "Container"
  fields := Container.fields
  toVal x := (x.name, x.image, x.imagePullPolicy, x.command, x.args,
    x.env.map (List.map Record.toVal), x.ports.map (List.map Record.toVal),
    x.resources.map Record.toVal, x.livenessProbe.map Record.toVal,
    x.readinessProbe.map Record.toVal, x.lifecycle.map Record.toVal,
    x.securityContext.map Record.toVal, x.volumeMounts.map (List.map Record.toVal),
    x.terminationMessagePath, x.terminationMessagePolicy, x.other)
  ofVal := fun (name, image, imagePullPolicy, command, args, env, ports, resources, livenessProbe,
    readinessProbe, lifecycle, securityContext, volumeMounts, terminationMessagePath,
    terminationMessagePolicy, other) =>
    {name, image, imagePullPolicy, command, args, env := env.map (List.map Record.ofVal),
      ports := ports.map (List.map Record.ofVal), resources := resources.map Record.ofVal,
      livenessProbe := livenessProbe.map Record.ofVal,
      readinessProbe := readinessProbe.map Record.ofVal, lifecycle := lifecycle.map Record.ofVal,
      securityContext := securityContext.map Record.ofVal,
      volumeMounts := volumeMounts.map (List.map Record.ofVal), terminationMessagePath,
      terminationMessagePolicy, other}
  ofVal_toVal x := by simp [Function.comp_def]
  toVal_ofVal v := by simp [Function.comp_def]

def Table.ephemeralContainer : Shape :=
  .loose "EphemeralContainer" <|
  opt "args" (.list .text) <| opt "command" (.list .text) <|
  opt "env" (.list (Record.shape EnvVar)) <|
  opt "envFrom" (.list Table.envFromSource) <| opt "image" .text <|
  opt "imagePullPolicy" .text <| opt "lifecycle" (Record.shape Lifecycle) <|
  opt "livenessProbe" (Record.shape Probe) <| req "name" .text <|
  opt "ports" (.list (Record.shape ContainerPort)) <|
  opt "readinessProbe" (Record.shape Probe) <|
  opt "resizePolicy" (.list Table.containerResizePolicy) <|
  opt "resources" (Record.shape ResourceRequirements) <| opt "restartPolicy" .text <|
  opt "securityContext" (Record.shape SecurityContext) <|
  opt "startupProbe" (Record.shape Probe) <| opt "stdin" .flag <| opt "stdinOnce" .flag <|
  opt "targetContainerName" .text <| opt "terminationMessagePath" .text <|
  opt "terminationMessagePolicy" .text <| opt "tty" .flag <|
  opt "volumeDevices" (.list Table.volumeDevice) <|
  opt "volumeMounts" (.list (Record.shape VolumeMount)) <| opt "workingDir" .text .nil

end Kube

end PgOperator
