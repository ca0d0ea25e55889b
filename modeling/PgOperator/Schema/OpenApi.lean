import PgOperator.Schema.Codec

/-!
Published schemas: the part of OpenAPI v3 that resource definitions use. `Shape.openApi` is the
schema of a shape's documents, `OpenApi.toJson` its written form, `OpenApi.accepts` says which
documents a schema admits, and `OpenApi.fill` puts declared defaults in place of absent members.
-/

namespace PgOperator

mutual

/-- What a schema says of a document. -/
inductive OpenApi where
  | any
  | text
  | boolean
  | integer (bits : Nat)
  | choice (names : List String)
  | array (items : OpenApi)
  | map (values : OpenApi)
  | object (properties : Properties)

inductive Properties where
  | nil
  | cons (name : String) (required nullable : Bool) (default : Option Json) (schema : OpenApi)
    (rest : Properties)

end

mutual

/-- The schema that a shape publishes. -/
def Shape.openApi : Shape → OpenApi
  | .text | .instant => .text
  | .flag => .boolean
  | .int32 => .integer 32
  | .int64 => .integer 64
  | .intOrText | .free | .hidden _ => .any
  | .choice first others => .choice (first :: others)
  | .list item => .array item.openApi
  | .dict item => .map item.openApi
  | .record _ fields => .object fields.properties

/-- The properties that a record's fields publish. -/
def Fields.properties : Fields → Properties
  | .nil => .nil
  | .const name _ _ rest => .cons name false false none .text rest.properties
  | .field name presence shape rest =>
    match presence with
    | .optional => .cons name false true none shape.openApi rest.properties
    | .lenient => .cons name false true none shape.openApi rest.properties
    | .strict => .cons name true false none shape.openApi rest.properties
    | .nullable => .cons name true true none shape.openApi rest.properties
    | .defaulted document hidden =>
      .cons name false false (if hidden then none else some document) shape.openApi rest.properties

end

/-- The names that have to be there. -/
def Properties.required : Properties → List String
  | .nil => []
  | .cons name required _ _ _ rest => if required then name :: rest.required else rest.required

mutual

def OpenApi.toJson : OpenApi → Json
  | .any => .obj []
  | .text => Json.object [("type", .str "string")]
  | .boolean => Json.object [("type", .str "boolean")]
  | .integer bits =>
    Json.object [("type", .str "integer"), ("format", .str ("int" ++ toString bits))]
  | .choice names => Json.object [("type", .str "string"), ("enum", .arr (names.map .str))]
  | .array items => Json.object [("type", .str "array"), ("items", items.toJson)]
  | .map values => Json.object [("type", .str "object"), ("additionalProperties", values.toJson)]
  | .object properties =>
    let required := (Sorted.ofList (properties.required.map fun name => (name, ()))).map (·.1)
    Json.object ([("type", .str "object"), ("properties", Json.object properties.toJson)] ++
      if required.isEmpty then [] else [("required", .arr (required.map .str))])

def Properties.toJson : Properties → List (String × Json)
  | .nil => []
  | .cons name _ nullable default schema rest =>
    let doc := schema.toJson
    let doc := if nullable then doc.set "nullable" (.bool true) else doc
    let doc := match default with | some d => doc.set "default" d | none => doc
    (name, doc) :: rest.toJson

end

mutual

/-- Whether a schema admits a document: its type, the range of an integer, the names of a choice,
the members that have to be there, and all parts in turn. `null` stands only for a nullable
property. -/
def OpenApi.accepts : OpenApi → Json → Bool
  | .any, _ => true
  | .text, doc => match doc with | .str _ => true | _ => false
  | .boolean, doc => match doc with | .bool _ => true | _ => false
  | .integer bits, doc => match doc with
    | .int n => -(Nat.pow 2 (bits - 1) : Int) ≤ n ∧ n < Nat.pow 2 (bits - 1)
    | _ => false
  | .choice names, doc => match doc with | .str s => names.contains s | _ => false
  | .array items, doc => match doc with | .arr docs => docs.all items.accepts | _ => false
  | .map values, doc => match doc with
    | .obj members => members.all fun e => values.accepts e.2
    | _ => false
  | .object properties, doc => match doc with
    | .obj members => properties.accepts members
    | _ => false

def Properties.accepts : Properties → List (String × Json) → Bool
  | .nil, _ => true
  | .cons name required nullable _ schema rest, members =>
    (match Sorted.get? name members with
      | none => !required
      | some doc => (nullable && doc = .null) || schema.accepts doc) && rest.accepts members

end

mutual

/-- Puts the declared default in place of every absent member that has one, at all depths and in
the defaults as well. -/
def OpenApi.fill : OpenApi → Json → Json
  | .array items, doc => match doc with | .arr docs => .arr (docs.map items.fill) | _ => doc
  | .map values, doc => match doc with
    | .obj members => .obj (members.map fun e => (e.1, values.fill e.2))
    | _ => doc
  | .object properties, doc => match doc with
    | .obj members => .obj (properties.fill members)
    | _ => doc
  | .any, doc | .text, doc | .boolean, doc | .integer _, doc | .choice _, doc => doc

def Properties.fill : Properties → List (String × Json) → List (String × Json)
  | .nil, members => members
  | .cons name _ _ default schema rest, members =>
    rest.fill (match Sorted.get? name members, default with
      | some doc, _ => Sorted.insert name (schema.fill doc) members
      | none, some doc => Sorted.insert name (schema.fill doc) members
      | none, none => members)

end

end PgOperator
