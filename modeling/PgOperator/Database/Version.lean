import PgOperator.Kube.Meta

/-!
The catalog of supported releases and their images.
-/

namespace PgOperator

open Kube

structure VersionImage where
  image : String := ""
  deriving DecidableEq

abbrev VersionImage.fields : Fields :=
  must "image" .text .nil

instance : Record VersionImage where
  heading := .exact "struct VersionImage"
  fields := VersionImage.fields
  toVal x := (x.image, ())
  ofVal := fun (image, ()) =>
    {image}
  ofVal_toVal _ := rfl
  toVal_ofVal _ := rfl

structure PostgresVersionSpec where
  version : String := ""
  db : VersionImage := {}
  exporter : VersionImage := {}
  deprecated : Bool := false
  deriving DecidableEq

abbrev PostgresVersionSpec.fields : Fields :=
  must "version" .text <| must "db" (Record.shape VersionImage) <|
  must "exporter" (Record.shape VersionImage) <| dflt "deprecated" (.bool false) .flag .nil

instance : Record PostgresVersionSpec where
  heading := .exact "struct PostgresVersionSpec"
  fields := PostgresVersionSpec.fields
  toVal x := (x.version, Record.toVal x.db, Record.toVal x.exporter, x.deprecated, ())
  ofVal := fun (version, db, exporter, deprecated, ()) =>
    {version, db := Record.ofVal db, exporter := Record.ofVal exporter, deprecated}
  ofVal_toVal x := by simp
  toVal_ofVal v := by simp

structure PostgresVersion where
  metadata : ObjectMeta := {}
  spec : PostgresVersionSpec := {}
  deriving DecidableEq

abbrev PostgresVersion.fields : Fields :=
  .const "apiVersion" "catalog.kubedb.com/v1alpha1" false <|
  .const "kind" "PostgresVersion" false <| must "metadata" (Record.shape ObjectMeta) <|
  must "spec" (Record.shape PostgresVersionSpec) .nil

instance : Record PostgresVersion where
  heading := .exact "struct PostgresVersion"
  fields := PostgresVersion.fields
  toVal x := (Record.toVal x.metadata, Record.toVal x.spec, ())
  ofVal := fun (metadata, spec, ()) =>
    {metadata := Record.ofVal metadata, spec := Record.ofVal spec}
  ofVal_toVal x := by simp
  toVal_ofVal v := by simp

end PgOperator
