import PgOperator.Error
import PgOperator.Json.Patch
import PgOperator.Pass.Call
import PgOperator.Schema.Reader

/-!
Requests to the API server, its responses, and what carries them.

A request is made for a `Resource`, from which its address follows, and carries a `Body`, from which
its content type follows. Names stand in an address as they are, so that not every resource has one,
and an address may lead to another resource (`Resource.ofPath?`) than the one it was made for.

Of responses, a code from 400 to 599 is a refusal, which the body explains if it is a status
document, and everything else has to carry what was asked for.
-/

namespace PgOperator

/-! ### Requests -/

namespace Api

inductive Method where
  | get
  | post
  | patch
  deriving DecidableEq

def Method.text : Method → String
  | .get => "GET"
  | .post => "POST"
  | .patch => "PATCH"

/-- What a request is about. -/
inductive Resource where
  | object (kind : Kind) (id : ObjectId)
  | objects (kind : Kind) (ns : String)
  | pods (ns : String)
  | events (ns : String)
  | status (db : ObjectId)
  | databases
  | version (name : String)
  deriving DecidableEq

namespace Resource

/-- The path of the API group that serves a kind. -/
def group : Kind → String
  | .service => "/api/v1"
  | .statefulSet => "/apis/apps/v1"
  | .disruptionBudget => "/apis/policy/v1"

/-- The name under which the objects of a kind are served. -/
def plural : Kind → String
  | .service => "services"
  | .statefulSet => "statefulsets"
  | .disruptionBudget => "poddisruptionbudgets"

/-- The path of a resource in a namespace. -/
def pathIn (group ns plural : String) : String := group ++ "/namespaces/" ++ ns ++ "/" ++ plural

def path : Resource → String
  | .object kind id => pathIn (group kind) id.ns (plural kind) ++ "/" ++ id.name
  | .objects kind ns => pathIn (group kind) ns (plural kind)
  | .pods ns => pathIn "/api/v1" ns "pods"
  | .events ns => pathIn "/api/v1" ns "events"
  | .status db =>
    pathIn "/apis/kubedb.com/v1alpha2" db.ns "postgreses" ++ "/" ++ db.name ++ "/status"
  | .databases => "/apis/kubedb.com/v1alpha2/postgreses"
  | .version name => "/apis/catalog.kubedb.com/v1alpha1/postgresversions/" ++ name

/-- The kind that is served under a name in an API group. -/
def kind? (group plural : String) : Option Kind :=
  [Kind.service, .statefulSet, .disruptionBudget].find? fun kind =>
    Resource.group kind = group ∧ Resource.plural kind = plural

/-- What is served in a namespace of an API group, under the remaining segments of a path. -/
def inNamespace? (group ns : String) : List String → Option Resource
  | ["pods"] => if group = "/api/v1" then some (.pods ns) else none
  | ["events"] => if group = "/api/v1" then some (.events ns) else none
  | [plural] => (kind? group plural).map (.objects · ns)
  | [plural, name] =>
    if name = "" then none else (kind? group plural).map (.object · ⟨ns, name⟩)
  | ["postgreses", name, "status"] =>
    if group = "/apis/kubedb.com/v1alpha2" then some (.status ⟨ns, name⟩) else none
  | _ => none

/-- The resource that a path leads to. -/
def ofPath? (path : String) : Option Resource :=
  match Text.segments path with
  | "" :: "api" :: "v1" :: "namespaces" :: ns :: rest => inNamespace? "/api/v1" ns rest
  | "" :: "apis" :: owner :: release :: "namespaces" :: ns :: rest =>
    inNamespace? ("/apis/" ++ owner ++ "/" ++ release) ns rest
  | ["", "apis", "kubedb.com", "v1alpha2", "postgreses"] => some .databases
  | ["", "apis", "catalog.kubedb.com", "v1alpha1", "postgresversions", name] =>
    if name = "" then none else some (.version name)
  | _ => none

end Resource

/-- What a request carries: an object, operations on one, or a document to merge into one. -/
inductive Body where
  | object (doc : Json)
  | operations (patch : Json.Patch)
  | merge (doc : Json)
  deriving DecidableEq

def Body.contentType : Body → String
  | .object _ => "application/json"
  | .operations _ => "application/json-patch+json"
  | .merge _ => "application/merge-patch+json"

def Body.toJson : Body → Json
  | .object doc | .merge doc => doc
  | .operations patch => patch.toJson

structure Request where
  method : Method
  resource : Resource
  uri : Uri
  body : Option Body := none
  deriving DecidableEq

namespace Request

/-- A request with a query, which may be empty; only the plain reading of one thing has none. -/
def make (method : Method) (resource : Resource) (query : Option (List (String × String)))
    (body : Option Body) : Except RequestFault Request :=
  let text := resource.path ++ match query with
    | some pairs => Uri.queryText pairs
    | none => ""
  match Uri.ofText text with
  | .ok uri => .ok { method, resource, uri, body }
  | .error fault => .error (.uri fault)

/-- The written form of a request, without the parts that it does not have. -/
def toJson (request : Request) : Json :=
  Json.object ([("method", .str request.method.text), ("path", .str request.uri.path)] ++
    (if request.uri.pairs = [] then []
      else [("query", Json.object (request.uri.pairs.map fun e => (e.1, .str e.2)))]) ++
    match request.body with
    | some body => [("contentType", .str body.contentType), ("body", body.toJson)]
    | none => [])

end Request

end Api

/-! ### Responses -/

/-- The shape of a status document, in which message and reason may be left out. -/
def ApiStatus.shape : Shape :=
  .record (.exact "struct ErrorResponse") <|
  must "status" .text <| dflt "message" (.str "") .text <| dflt "reason" (.str "") .text <|
  must "code" .int64 .nil

/-- The status that a text spells, if its code is one of HTTP. -/
def ApiStatus.ofText? (text : String) : Option ApiStatus := do
  let (status, message, reason, code, ()) ← ((shape.read Json.maxDepth).readText text).toOption
  if 0 ≤ code.toInt ∧ code.toInt < UInt16.size then
    some { status, message, reason, code := UInt16.ofNat code.toInt.toNat }
  else none

namespace Api

structure Response where
  code : UInt16
  body : String

namespace Response

/-- The phrase that HTTP gives to a code of refusal. -/
def phrase : Nat → String
  | 400 => "Bad Request"
  | 401 => "Unauthorized"
  | 402 => "Payment Required"
  | 403 => "Forbidden"
  | 404 => "Not Found"
  | 405 => "Method Not Allowed"
  | 406 => "Not Acceptable"
  | 407 => "Proxy Authentication Required"
  | 408 => "Request Timeout"
  | 409 => "Conflict"
  | 410 => "Gone"
  | 411 => "Length Required"
  | 412 => "Precondition Failed"
  | 413 => "Payload Too Large"
  | 414 => "URI Too Long"
  | 415 => "Unsupported Media Type"
  | 416 => "Range Not Satisfiable"
  | 417 => "Expectation Failed"
  | 418 => "I'm a teapot"
  | 421 => "Misdirected Request"
  | 422 => "Unprocessable Entity"
  | 423 => "Locked"
  | 424 => "Failed Dependency"
  | 425 => "Too Early"
  | 426 => "Upgrade Required"
  | 428 => "Precondition Required"
  | 429 => "Too Many Requests"
  | 431 => "Request Header Fields Too Large"
  | 451 => "Unavailable For Legal Reasons"
  | 500 => "Internal Server Error"
  | 501 => "Not Implemented"
  | 502 => "Bad Gateway"
  | 503 => "Service Unavailable"
  | 504 => "Gateway Timeout"
  | 505 => "HTTP Version Not Supported"
  | 506 => "Variant Also Negotiates"
  | 507 => "Insufficient Storage"
  | 508 => "Loop Detected"
  | 510 => "Not Extended"
  | 511 => "Network Authentication Required"
  | _ => "<unknown status code>"

/-- The status by which a request is refused; a body that is no status document is quoted in it. -/
def refusal (response : Response) : ApiStatus :=
  (ApiStatus.ofText? response.body).getD {
    status := toString response.code.toNat ++ " " ++ phrase response.code.toNat
    message := Text.quoted response.body
    reason := "Failed to parse error data"
    code := response.code }

def read {α : Type} (reader : Json.Reader α) (response : Response) : Except Error α :=
  if 400 ≤ response.code ∧ response.code < 600 then .error (.call (.refused response.refusal))
  else
    match reader.readText response.body with
    | .ok value => .ok value
    | .error fault => .error (.call (.unreadable fault))

/-- Reads a response about an object that may be missing. -/
def readMaybe {α : Type} (reader : Json.Reader α) (response : Response) :
    Except Error (Option α) :=
  match response.read reader with
  | .ok value => .ok (some value)
  | .error (.call (.refused status)) =>
    if status.reason = "NotFound" then .ok none else .error (.call (.refused status))
  | .error error => .error error

end Response

end Api

/-! ### Transport -/

namespace Api

/-- A way to the API server. It carries requests, tells the time, lets time pass and says whether
the pass has been cancelled. The clock never goes back, and a pause takes its time unless a
cancellation ends it. -/
structure Transport (σ : Type) where
  /-- Sends a request and waits for the response. -/
  send : Request → σ → Response × σ
  /-- The time as it is written. -/
  now : σ → String
  /-- The time in milliseconds. -/
  millis : σ → Nat
  /-- Whether the pass has been cancelled. -/
  isCancelled : σ → Bool
  /-- Lets milliseconds pass; tells whether a cancellation came first. -/
  pause : Nat → σ → Bool × σ
  le_millis_send : ∀ request s, millis s ≤ millis (send request s).2
  le_millis_pause : ∀ ms s, (pause ms s).1 = false → millis s + ms ≤ millis (pause ms s).2

end Api

end PgOperator
