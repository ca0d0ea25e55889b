import PgOperator.Schema.Record

/-!
Health checks of a container and the actions at its start and end.
-/

namespace PgOperator.Kube

def Table.httpHeader : Shape := .loose "HTTPHeader" <| req "name" .text <| req "value" .text .nil

def Table.execAction : Shape := .loose "ExecAction" <| opt "command" (.list .text) .nil

def Table.tcpSocketAction : Shape :=
  .loose "TCPSocketAction" <|
  opt "host" .text <| req "port" .intOrText .nil

def Table.sleepAction : Shape := .loose "SleepAction" <| req "seconds" .int64 .nil

structure HTTPGetAction where
  port : IntOrText := .int 0
  scheme : Option String := none
  path : Option String := none
  host : Option String := none
  httpHeaders : Option (List Table.httpHeader.Val) := none
  deriving DecidableEq

abbrev HTTPGetAction.fields : Fields :=
  req "port" .intOrText <| opt "scheme" .text <| opt "path" .text <| opt "host" .text <|
  opt "httpHeaders" (.list Table.httpHeader) .nil

instance : Record HTTPGetAction where
  heading := .loose "HTTPGetAction"
  fields := HTTPGetAction.fields
  toVal x := (x.port, x.scheme, x.path, x.host, x.httpHeaders, ())
  ofVal := fun (port, scheme, path, host, httpHeaders, ()) =>
    {port, scheme, path, host, httpHeaders}
  ofVal_toVal _ := rfl
  toVal_ofVal _ := rfl

structure GRPCAction where
  port : Int32 := 0
  service : Option String := none
  deriving DecidableEq

abbrev GRPCAction.fields : Fields :=
  req "port" .int32 <| opt "service" .text .nil

instance : Record GRPCAction where
  heading := .loose "GRPCAction"
  fields := GRPCAction.fields
  toVal x := (x.port, x.service, ())
  ofVal := fun (port, service, ()) =>
    {port, service}
  ofVal_toVal _ := rfl
  toVal_ofVal _ := rfl

def Probe.otherFields : Fields :=
  opt "exec" Table.execAction <| opt "initialDelaySeconds" .int32 <|
  opt "tcpSocket" Table.tcpSocketAction <|
  opt "terminationGracePeriodSeconds" .int64 .nil

/-- A check made again and again. -/
structure Probe where
  httpGet : Option HTTPGetAction := none
  grpc : Option GRPCAction := none
  timeoutSeconds : Option Int32 := none
  periodSeconds : Option Int32 := none
  successThreshold : Option Int32 := none
  failureThreshold : Option Int32 := none
  other : Probe.otherFields.Val := Probe.otherFields.zero
  deriving DecidableEq

abbrev Probe.fields : Fields :=
  opt "httpGet" (Record.shape HTTPGetAction) <| opt "grpc" (Record.shape GRPCAction) <|
  opt "timeoutSeconds" .int32 <| opt "periodSeconds" .int32 <| opt "successThreshold" .int32 <|
  opt "failureThreshold" .int32 <| Probe.otherFields

instance : Record Probe where
  heading := .loose "Probe"
  fields := Probe.fields
  toVal x := (x.httpGet.map Record.toVal, x.grpc.map Record.toVal, x.timeoutSeconds,
    x.periodSeconds, x.successThreshold, x.failureThreshold, x.other)
  ofVal := fun (httpGet, grpc, timeoutSeconds, periodSeconds, successThreshold, failureThreshold,
    other) =>
    {httpGet := httpGet.map Record.ofVal, grpc := grpc.map Record.ofVal, timeoutSeconds,
      periodSeconds, successThreshold, failureThreshold, other}
  ofVal_toVal x := by simp [Function.comp_def]
  toVal_ofVal v := by simp [Function.comp_def]

def LifecycleHandler.otherFields : Fields :=
  opt "exec" Table.execAction <| opt "sleep" Table.sleepAction <|
  opt "tcpSocket" Table.tcpSocketAction .nil

structure LifecycleHandler where
  httpGet : Option HTTPGetAction := none
  other : LifecycleHandler.otherFields.Val := LifecycleHandler.otherFields.zero
  deriving DecidableEq

abbrev LifecycleHandler.fields : Fields :=
  opt "httpGet" (Record.shape HTTPGetAction) <| LifecycleHandler.otherFields

instance : Record LifecycleHandler where
  heading := .loose "LifecycleHandler"
  fields := LifecycleHandler.fields
  toVal x := (x.httpGet.map Record.toVal, x.other)
  ofVal := fun (httpGet, other) =>
    {httpGet := httpGet.map Record.ofVal, other}
  ofVal_toVal x := by simp [Function.comp_def]
  toVal_ofVal v := by simp [Function.comp_def]

structure Lifecycle where
  postStart : Option LifecycleHandler := none
  preStop : Option LifecycleHandler := none
  deriving DecidableEq

abbrev Lifecycle.fields : Fields :=
  opt "postStart" (Record.shape LifecycleHandler) <|
  opt "preStop" (Record.shape LifecycleHandler) .nil

instance : Record Lifecycle where
  heading := .loose "Lifecycle"
  fields := Lifecycle.fields
  toVal x := (x.postStart.map Record.toVal, x.preStop.map Record.toVal, ())
  ofVal := fun (postStart, preStop, ()) =>
    {postStart := postStart.map Record.ofVal, preStop := preStop.map Record.ofVal}
  ofVal_toVal x := by simp [Function.comp_def]
  toVal_ofVal v := by simp [Function.comp_def]

end PgOperator.Kube
