import PgOperator.Api.Client
import PgOperator.Database.Report
import PgOperator.Pass.Reconcile

/-!
The controller: passes over an instance, each followed by a rest whose length depends on how it
went. A pass looks its release up in the catalog, brings the objects to their desired state and
reports what came of it. A failure is also told in an event. Neither event nor report changes what
a pass does or how it ends.
-/

namespace PgOperator

open Api

/-- The document that reports a status, to be merged into the instance. -/
def PostgresStatus.patch (status : PostgresStatus) : Json :=
  Json.object [("status", Record.encode status)]

namespace Controller

variable {σ : Type}

/-- Looks up the release that an instance asks for. -/
def findVersion (t : Transport σ) (name : String) (s : σ) : Except Error PostgresVersion × σ :=
  match Client.find PostgresVersion t (.version name) name s with
  | (.ok (some version), s) => (.ok version, s)
  | (.ok none, s) => (.error (.missingVersion name), s)
  | (.error error, s) => (.error error, s)

/-- Brings the objects of an instance to their desired state. -/
def reconcile (options : Options) (t : Transport σ) (db : Postgres) (s : σ) :
    Except Error Outcome × σ :=
  match findVersion t db.spec.version s with
  | (.ok version, s) => (Pass.reconcile db version options).run (Client.answer options t) s
  | (.error error, s) => (.error error, s)

def announceFailure (options : Options) (t : Transport σ) (db : Postgres) :
    Except Error Outcome → σ → σ
  | .ok _, s => s
  | .error error, s => Client.emit options t db ⟨.warning, "Failed", error.message⟩ s

/-- Reports a status; it does not matter whether the server takes it. -/
def writeStatus (t : Transport σ) (db : Postgres) (status : PostgresStatus) (s : σ) : σ :=
  let request := do
    Client.checkName db.name
    Request.make .patch (.status ⟨db.ns, db.name⟩) (some []) (Body.merge status.patch)
  (Client.ask t request (·.read (Record.read Postgres)) s).2

def pass (options : Options) (t : Transport σ) (db : Postgres) (s : σ) :
    Except Error Outcome × σ :=
  let (result, s) := reconcile options t db s
  let s := announceFailure options t db result s
  (result, writeStatus t db (db.report result (t.now s)) s)

/-- The rest after a pass, in seconds. -/
def restAfter : Except Error Outcome → Nat
  | .ok _ => 300
  | .error error => if error.isRetriable then 15 else 60

/-- A number of passes, each one after the rest that the one before calls for. What comes out are
the states in which each pass began and ended. -/
def passes (options : Options) (t : Transport σ) (db : Postgres) : Nat → σ → List (σ × σ)
  | 0, _ => []
  | n + 1, s =>
    let (result, after) := pass options t db s
    (s, after) :: passes options t db n (t.pause (1000 * restAfter result) after).2

/-- Finds out whether the server knows instances at all. -/
def checkInstalled (t : Transport σ) (s : σ) : Except Error Unit × σ :=
  let request := Request.make .get .databases none none
  match Client.ask t request (·.read (Kube.readListed Postgres)) s with
  | (.ok _, s) => (.ok (), s)
  | (.error _, s) => (.error (.config "Postgres CRD not installed"), s)

/-- Runs the controller over one instance for a number of passes. -/
def run (options : Options) (t : Transport σ) (db : Postgres) (count : Nat) (s : σ) :
    Except Error (List (σ × σ)) :=
  match checkInstalled t s with
  | (.ok (), s) => .ok (passes options t db count s)
  | (.error error, _) => .error error

end Controller

end PgOperator
