import PgOperator.Pass.Call
import PgOperator.Dict

/-!
A control plane in memory. Objects are kept in their written form under kind, namespace and name;
patches are carried out on that form, and one that changes the resource version is refused as a
conflict. Calls that touch a kind can be made to fail, and a number of running pods can be set.
-/

namespace PgOperator

/-- Where an object is kept. -/
structure ObjectKey where
  kind : Kind
  ns : String
  name : String
  deriving DecidableEq

/-- The key that an object's own metadata asks for. -/
def ObjectKey.of (kind : Kind) (object : kind.Object) : ObjectKey :=
  let metadata := kind.metadata object
  ⟨kind, metadata.anyNamespace, metadata.name.getD ""⟩

structure Memory where
  objects : List (ObjectKey × Json) := []
  creates : Nat := 0
  patches : Nat := 0
  uids : Nat := 0
  running : Option Int32 := none
  failures : List (Kind × UInt16) := []
  cancelled : Bool := false
  notices : List Notice := []

namespace Memory

/-- The document under a key. -/
def lookup (objects : List (ObjectKey × Json)) (key : ObjectKey) : Option Json :=
  (objects.find? fun e => e.1 = key).map (·.2)

/-- Puts a document under a key, in place of the one that was there. -/
def store (key : ObjectKey) (doc : Json) : List (ObjectKey × Json) → List (ObjectKey × Json)
  | [] => [(key, doc)]
  | e :: rest => if e.1 = key then (key, doc) :: rest else e :: store key doc rest

def refusal (code : UInt16) (reason message : String) : Error :=
  .call (.refused { status := "Failure", message, reason, code })

/-- The failure set for a kind, the last one set. -/
def failure? (m : Memory) (kind : Kind) : Option Error :=
  (m.failures.find? fun f => f.1 = kind).map fun f =>
    refusal f.2 "InternalError" ("injected failure for " ++ kind.name)

/-- The number that a text spells, if it is below `2 ^ 64`; a plus sign may go first. -/
def version? (text : String) : Option Nat :=
  let digits := match text.toList with
    | '+' :: rest => rest
    | cs => cs
  if digits.isEmpty || !digits.all Char.isDigit then none
  else
    let n := digits.foldl (fun n c => 10 * n + (c.toNat - '0'.toNat)) 0
    if n < UInt64.size then some n else none

def resourceVersion (doc : Json) : Json := (doc.getD "metadata").getD "resourceVersion"

/-- The resource version after the given one; one that is no number counts as zero. -/
def nextVersion (version : Json) : String := toString ((version.text?.bind version?).getD 0 + 1)

/-- The document with another resource version. -/
def withVersion (doc : Json) (version : String) : Json :=
  doc.set "metadata" ((doc.getD "metadata").set "resourceVersion" (.str version))

def get (m : Memory) (kind : Kind) (id : ObjectId) : Except Error (Option kind.Object) :=
  match m.failure? kind with
  | some error => .error error
  | none =>
    match lookup m.objects ⟨kind, id.ns, id.name⟩ with
    | none => .ok none
    | some doc =>
      match (Record.decode doc : Option kind.Object) with
      | some object => .ok (some object)
      | none => .error .serialization

/-- Creates an object. Its namespace is the one it is created in, its uid is counted unless it
has one. -/
def create (m : Memory) (kind : Kind) (ns : String) (object : kind.Object) :
    Except Error kind.Object × Memory :=
  match m.failure? kind with
  | some error => (.error error, m)
  | none =>
    let metadata := kind.metadata object
    let name := metadata.name.getD ""
    let key : ObjectKey := ⟨kind, ns, name⟩
    match lookup m.objects key with
    | some _ =>
      (.error (refusal 409 "AlreadyExists" (kind.name ++ " \"" ++ name ++ "\" already exists")), m)
    | none =>
      let uid := metadata.uid.getD ("uid-" ++ toString (m.uids + 1))
      let created := kind.withMetadata object
        { metadata with ns := some ns, uid := some uid, resourceVersion := some "1" }
      (.ok created, { m with
        objects := store key (Record.encode created) m.objects
        uids := m.uids + 1
        creates := m.creates + 1 })

def patch (m : Memory) (kind : Kind) (id : ObjectId) (patch : Json.Patch) :
    Except Error kind.Object × Memory :=
  match m.failure? kind with
  | some error => (.error error, m)
  | none =>
    let key : ObjectKey := ⟨kind, id.ns, id.name⟩
    match lookup m.objects key with
    | none =>
      (.error (refusal 404 "NotFound" (kind.name ++ " \"" ++ id.name ++ "\" not found")), m)
    | some current =>
      match patch.apply current with
      | .error failure => (.error (refusal 422 "Invalid" failure.message), m)
      | .ok patched =>
        if resourceVersion patched ≠ resourceVersion current then
          (.error (refusal 409 "Conflict"
            ("the object " ++ kind.name ++ " \"" ++ id.name ++ "\" has been modified")), m)
        else
          let patched := withVersion patched (nextVersion (resourceVersion current))
          match (Record.decode patched : Option kind.Object) with
          | some object =>
            (.ok object, { m with
              objects := store key patched m.objects
              patches := m.patches + 1 })
          | none => (.error .serialization, m)

/-- Waits for pods: as many run as have been set, or else as many as asked for. -/
def awaitPods (m : Memory) (ns : String) (selector : Dict String) (count : Int32) :
    Except Error Unit :=
  let running := m.running.getD count
  if m.cancelled then .error .cancelled
  else if count ≤ running then .ok ()
  else .error (.readinessTimeout ns (Selector.text selector) count running)

def answer : (c : Call) → Memory → c.Reply × Memory
  | .get kind id, m => (m.get kind id, m)
  | .create kind ns object, m => m.create kind ns object
  | .patch kind id patch, m => m.patch kind id patch
  | .awaitPods ns selector count _, m => (m.awaitPods ns selector count, m)
  | .isCancelled, m => (m.cancelled, m)
  | .emit _ notice, m => ((), { m with notices := m.notices ++ [notice] })

/-- Puts an object in as it is, under its own namespace. -/
def insert (m : Memory) (kind : Kind) (object : kind.Object) : Memory :=
  { m with objects := store (ObjectKey.of kind object) (Record.encode object) m.objects }

/-- How many objects of a kind there are. -/
def count (m : Memory) (kind : Kind) : Nat := (m.objects.filter fun e => e.1.kind = kind).length

end Memory

end PgOperator
