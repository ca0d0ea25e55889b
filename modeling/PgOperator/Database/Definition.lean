import PgOperator.Database.Instance
import PgOperator.Database.Version
import PgOperator.Schema.OpenApi

/-!
The definitions by which the API server learns of the resources of this operator.
-/

namespace PgOperator

structure PrinterColumn where
  name : String
  type : String
  path : String

/-- The definition of a resource with one version. -/
structure Definition where
  group : String
  version : String
  kind : String
  singular : String
  plural : String
  shortName : String
  namespaced : Bool
  columns : List PrinterColumn
  hasStatus : Bool
  schema : OpenApi

namespace Definition

def columnJson (column : PrinterColumn) : Json :=
  Json.object [
    ("name", .str column.name), ("type", .str column.type), ("jsonPath", .str column.path)]

def toJson (d : Definition) : Json :=
  Json.object [
    ("apiVersion", .str "apiextensions.k8s.io/v1"),
    ("kind", .str "CustomResourceDefinition"),
    ("metadata", Json.object [("name", .str (d.plural ++ "." ++ d.group))]),
    ("spec", Json.object [
      ("group", .str d.group),
      ("names", Json.object [
        ("categories", .arr []),
        ("kind", .str d.kind),
        ("plural", .str d.plural),
        ("shortNames", .arr [.str d.shortName]),
        ("singular", .str d.singular)]),
      ("scope", .str (if d.namespaced then "Namespaced" else "Cluster")),
      ("versions", .arr [Json.object [
        ("name", .str d.version),
        ("served", .bool true),
        ("storage", .bool true),
        ("schema", Json.object [("openAPIV3Schema", d.schema.toJson.set "title" (.str d.kind))]),
        ("additionalPrinterColumns", .arr (d.columns.map columnJson)),
        ("subresources", if d.hasStatus then Json.object [("status", .obj [])] else .obj [])]])])]

/-- The schema of a resource whose specification and status have the given shapes. -/
def rootSchema (spec : Shape) (status : Option Shape) : OpenApi :=
  .object (.cons "spec" true false none spec.openApi
    (match status with
      | some status => .cons "status" false true none status.openApi .nil
      | none => .nil))

def postgres : Definition where
  group := "kubedb.com"
  version := "v1alpha2"
  kind := "Postgres"
  singular := "postgres"
  plural := "postgreses"
  shortName := "pg"
  namespaced := true
  columns := [⟨"Version", "string", ".spec.version"⟩, ⟨"Status", "string", ".status.phase"⟩,
    ⟨"Age", "date", ".metadata.creationTimestamp"⟩]
  hasStatus := true
  schema := rootSchema (Record.shape PostgresSpec) (some (Record.shape PostgresStatus))

def postgresVersion : Definition where
  group := "catalog.kubedb.com"
  version := "v1alpha1"
  kind := "PostgresVersion"
  singular := "postgresversion"
  plural := "postgresversions"
  shortName := "pgversion"
  namespaced := false
  columns := [⟨"Version", "string", ".spec.version"⟩, ⟨"DB_Image", "string", ".spec.db.image"⟩,
    ⟨"Deprecated", "boolean", ".spec.deprecated"⟩]
  hasStatus := false
  schema := rootSchema (Record.shape PostgresVersionSpec) none

end Definition

end PgOperator
