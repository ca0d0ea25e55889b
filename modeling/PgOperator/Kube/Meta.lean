import PgOperator.Schema.Record

/-!
The metadata that every object carries, and selectors over labels.
-/

namespace PgOperator.Kube

def Table.managedFieldsEntry : Shape :=
  .loose "ManagedFieldsEntry" <|
  opt "apiVersion" .text <| opt "fieldsType" .text <| opt "fieldsV1" .free <|
  opt "manager" .text <| opt "operation" .text <| opt "subresource" .text <|
  opt "time" .instant .nil

def Table.labelSelectorRequirement : Shape :=
  .loose "LabelSelectorRequirement" <|
  req "key" .text <| req "operator" .text <| opt "values" (.list .text) .nil

def Table.localObjectReference : Shape := .loose "LocalObjectReference" <| opt "name" .text .nil

/-- The object that another one belongs to and is deleted with. -/
structure OwnerReference where
  apiVersion : String := ""
  kind : String := ""
  name : String := ""
  uid : String := ""
  controller : Option Bool := none
  blockOwnerDeletion : Option Bool := none
  deriving DecidableEq

abbrev OwnerReference.fields : Fields :=
  req "apiVersion" .text <| req "kind" .text <| req "name" .text <| req "uid" .text <|
  opt "controller" .flag <| opt "blockOwnerDeletion" .flag .nil

instance : Record OwnerReference where
  heading := .loose "OwnerReference"
  fields := OwnerReference.fields
  toVal x := (x.apiVersion, x.kind, x.name, x.uid, x.controller, x.blockOwnerDeletion, ())
  ofVal := fun (apiVersion, kind, name, uid, controller, blockOwnerDeletion, ()) =>
    {apiVersion, kind, name, uid, controller, blockOwnerDeletion}
  ofVal_toVal _ := rfl
  toVal_ofVal _ := rfl

/-- The fields of an object's metadata that are only passed on. -/
def ObjectMeta.otherFields : Fields :=
  opt "creationTimestamp" .instant <| opt "deletionGracePeriodSeconds" .int64 <|
  opt "deletionTimestamp" .instant <| opt "finalizers" (.list .text) <|
  opt "managedFields" (.list Table.managedFieldsEntry) <| opt "selfLink" .text .nil

/-- What identifies and describes an object. -/
structure ObjectMeta where
  name : Option String := none
  generateName : Option String := none
  ns : Option String := none
  labels : Option (Dict String) := none
  annotations : Option (Dict String) := none
  ownerReferences : Option (List OwnerReference) := none
  uid : Option String := none
  resourceVersion : Option String := none
  generation : Option Int64 := none
  other : ObjectMeta.otherFields.Val := ObjectMeta.otherFields.zero
  deriving DecidableEq

abbrev ObjectMeta.fields : Fields :=
  opt "name" .text <| opt "generateName" .text <| opt "namespace" .text <|
  opt "labels" (.dict .text) <| opt "annotations" (.dict .text) <|
  opt "ownerReferences" (.list (Record.shape OwnerReference)) <| opt "uid" .text <|
  opt "resourceVersion" .text <| opt "generation" .int64 <| ObjectMeta.otherFields

instance : Record ObjectMeta where
  heading := .loose "ObjectMeta"
  fields := ObjectMeta.fields
  toVal x := (x.name, x.generateName, x.ns, x.labels, x.annotations,
    x.ownerReferences.map (List.map Record.toVal), x.uid, x.resourceVersion, x.generation,
    x.other)
  ofVal := fun (name, generateName, ns, labels, annotations, ownerReferences, uid,
    resourceVersion, generation, other) =>
    {name, generateName, ns, labels, annotations,
      ownerReferences := ownerReferences.map (List.map Record.ofVal), uid, resourceVersion,
      generation, other}
  ofVal_toVal x := by simp [Function.comp_def]
  toVal_ofVal v := by simp [Function.comp_def]

/-- A choice of objects by their labels. -/
structure LabelSelector where
  matchLabels : Option (Dict String) := none
  matchExpressions : Option (List Table.labelSelectorRequirement.Val) := none
  deriving DecidableEq

abbrev LabelSelector.fields : Fields :=
  opt "matchLabels" (.dict .text) <|
  opt "matchExpressions" (.list Table.labelSelectorRequirement) .nil

instance : Record LabelSelector where
  heading := .loose "LabelSelector"
  fields := LabelSelector.fields
  toVal x := (x.matchLabels, x.matchExpressions, ())
  ofVal := fun (matchLabels, matchExpressions, ()) =>
    {matchLabels, matchExpressions}
  ofVal_toVal _ := rfl
  toVal_ofVal _ := rfl

/-- The name of an object, or the stem of a generated one. -/
def ObjectMeta.anyName (metadata : ObjectMeta) : String :=
  (metadata.name <|> metadata.generateName).getD ""

/-- The namespace of an object, `default` if it has none. -/
def ObjectMeta.anyNamespace (metadata : ObjectMeta) : String := metadata.ns.getD "default"

end PgOperator.Kube
