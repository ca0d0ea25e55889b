import PgOperator.Schema.Record

/-!
Environment variables of a container: a text, or a reference to where the text is found.
-/

namespace PgOperator.Kube

def Table.configMapKeySelector : Shape :=
  .loose "ConfigMapKeySelector" <|
  req "key" .text <| opt "name" .text <| opt "optional" .flag .nil

def Table.resourceFieldSelector : Shape :=
  .loose "ResourceFieldSelector" <|
  opt "containerName" .text <| opt "divisor" .text <| req "resource" .text .nil

/-- A field of the pod itself. -/
structure ObjectFieldSelector where
  apiVersion : Option String := none
  fieldPath : String := ""
  deriving DecidableEq

abbrev ObjectFieldSelector.fields : Fields :=
  opt "apiVersion" .text <| req "fieldPath" .text .nil

instance : Record ObjectFieldSelector where
  heading := .loose "ObjectFieldSelector"
  fields := ObjectFieldSelector.fields
  toVal x := (x.apiVersion, x.fieldPath, ())
  ofVal := fun (apiVersion, fieldPath, ()) =>
    {apiVersion, fieldPath}
  ofVal_toVal _ := rfl
  toVal_ofVal _ := rfl

structure SecretKeySelector where
  key : String := ""
  name : Option String := none
  optional : Option Bool := none
  deriving DecidableEq

abbrev SecretKeySelector.fields : Fields :=
  req "key" .text <| opt "name" .text <| opt "optional" .flag .nil

instance : Record SecretKeySelector where
  heading := .loose "SecretKeySelector"
  fields := SecretKeySelector.fields
  toVal x := (x.key, x.name, x.optional, ())
  ofVal := fun (key, name, optional, ()) =>
    {key, name, optional}
  ofVal_toVal _ := rfl
  toVal_ofVal _ := rfl

/-- Where the text of a variable is found. -/
structure EnvVarSource where
  fieldRef : Option ObjectFieldSelector := none
  secretKeyRef : Option SecretKeySelector := none
  configMapKeyRef : Option Table.configMapKeySelector.Val := none
  resourceFieldRef : Option Table.resourceFieldSelector.Val := none
  deriving DecidableEq

abbrev EnvVarSource.fields : Fields :=
  opt "fieldRef" (Record.shape ObjectFieldSelector) <|
  opt "secretKeyRef" (Record.shape SecretKeySelector) <|
  opt "configMapKeyRef" Table.configMapKeySelector <|
  opt "resourceFieldRef" Table.resourceFieldSelector .nil

instance : Record EnvVarSource where
  heading := .loose "EnvVarSource"
  fields := EnvVarSource.fields
  toVal x := (x.fieldRef.map Record.toVal, x.secretKeyRef.map Record.toVal, x.configMapKeyRef,
    x.resourceFieldRef, ())
  ofVal := fun (fieldRef, secretKeyRef, configMapKeyRef, resourceFieldRef, ()) =>
    {fieldRef := fieldRef.map Record.ofVal, secretKeyRef := secretKeyRef.map Record.ofVal,
      configMapKeyRef, resourceFieldRef}
  ofVal_toVal x := by simp [Function.comp_def]
  toVal_ofVal v := by simp [Function.comp_def]

structure EnvVar where
  name : String := ""
  value : Option String := none
  valueFrom : Option EnvVarSource := none
  deriving DecidableEq

abbrev EnvVar.fields : Fields :=
  req "name" .text <| opt "value" .text <| opt "valueFrom" (Record.shape EnvVarSource) .nil

instance : Record EnvVar where
  heading := .loose "EnvVar"
  fields := EnvVar.fields
  toVal x := (x.name, x.value, x.valueFrom.map Record.toVal, ())
  ofVal := fun (name, value, valueFrom, ()) =>
    {name, value, valueFrom := valueFrom.map Record.ofVal}
  ofVal_toVal x := by simp [Function.comp_def]
  toVal_ofVal v := by simp [Function.comp_def]

end PgOperator.Kube
