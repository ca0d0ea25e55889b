import Mathlib.Tactic.Lemma
import PgOperator.Proofs.Written

/-!
The control plane in memory, call by call.

In a `Typed` memory every document is the written form of an object of its key's kind. There a
read gives the stored object, a creation succeeds where nothing is stored, and the patch of a
change either finds the object that it was made for and stores the changed object under the next
resource version, or leaves the memory as it was.
-/

namespace PgOperator

open Kube

namespace Memory

/-! ### Keys -/

variable {key other : ObjectKey} {doc : Json} {objects : List (ObjectKey × Json)}

lemma lookup_store_self (key : ObjectKey) (doc : Json) (objects : List (ObjectKey × Json)) :
    lookup (store key doc objects) key = some doc := by
  induction objects with
  | nil => simp [store, lookup]
  | cons e rest ih =>
    rw [store]
    split
    · simp [lookup]
    · rename_i hne
      simpa [lookup, hne] using ih

lemma lookup_store_of_ne (h : other ≠ key) (doc : Json) (objects : List (ObjectKey × Json)) :
    lookup (store key doc objects) other = lookup objects other := by
  induction objects with
  | nil => simp [store, lookup, Ne.symm h]
  | cons e rest ih =>
    rw [store]
    split
    · rename_i heq
      simp [lookup, heq, Ne.symm h]
    · by_cases hother : e.1 = other
      · simp [lookup, hother]
      · simpa [lookup, hother] using ih

/-- Every document is the written form of an object of its key's kind. -/
def Typed (objects : List (ObjectKey × Json)) : Prop :=
  ∀ key doc, lookup objects key = some doc → ∃ object : key.kind.Object, doc = Record.encode object

lemma typed_nil : Typed [] := fun _ _ h => absurd h nofun

lemma Typed.store (h : Typed objects) {kind : Kind} (ns name : String) (object : kind.Object) :
    Typed (store ⟨kind, ns, name⟩ (Record.encode object) objects) := by
  intro key doc hget
  by_cases hkey : key = ⟨kind, ns, name⟩
  · subst hkey
    rw [lookup_store_self] at hget
    exact ⟨object, (Option.some.inj hget).symm⟩
  · rw [lookup_store_of_ne hkey] at hget
    exact h key doc hget

lemma Typed.insert {m : Memory} (h : Typed m.objects) (kind : Kind) (object : kind.Object) :
    Typed (m.insert kind object).objects := h.store _ _ object

lemma Typed.exists_read (h : Typed objects) {kind : Kind} {ns name : String}
    (hget : lookup objects ⟨kind, ns, name⟩ = some doc) :
    ∃ object : kind.Object, Record.decode doc = some object ∧ Record.Whole object ∧
      Record.encode object = doc := by
  obtain ⟨object, rfl⟩ := h _ _ hget
  exact ⟨Record.whole object, Record.decode_encode kind.wellNamed object,
    Record.whole_whole kind.wellNamed object, Record.encode_whole object⟩

/-! ### Reading and creating -/

variable {m : Memory} {kind : Kind} {id : ObjectId}

lemma failure?_of_nil (h : m.failures = []) (kind : Kind) : m.failure? kind = none := by
  rw [failure?, h]
  rfl

lemma get_of_none (hfail : m.failure? kind = none)
    (hget : lookup m.objects ⟨kind, id.ns, id.name⟩ = none) : m.get kind id = .ok none := by
  simp only [get, hfail, hget]

lemma get_of_some {object : kind.Object} (hfail : m.failure? kind = none)
    (hget : lookup m.objects ⟨kind, id.ns, id.name⟩ = some doc)
    (hread : Record.decode doc = some object) : m.get kind id = .ok (some object) := by
  simp only [get, hfail, hget, hread]

lemma failure?_of_get {found : Option kind.Object} (h : m.get kind id = .ok found) :
    m.failure? kind = none := by
  cases hfail : m.failure? kind with
  | none => rfl
  | some error =>
    simp only [get, hfail] at h
    cases h

lemma of_get_eq_some {object : kind.Object} (h : m.get kind id = .ok (some object)) :
    ∃ doc, lookup m.objects ⟨kind, id.ns, id.name⟩ = some doc ∧
      Record.decode doc = some object := by
  unfold get at h
  split at h
  · cases h
  · split at h
    · cases h
    · rename_i doc hget
      split at h
      · rename_i read hread
        obtain rfl := Option.some.inj (Except.ok.inj h)
        exact ⟨doc, hget, hread⟩
      · cases h

lemma of_get_eq_none (h : m.get kind id = .ok none) :
    lookup m.objects ⟨kind, id.ns, id.name⟩ = none := by
  unfold get at h
  split at h
  · cases h
  · split at h
    · assumption
    · split at h <;> cases h

end Memory

/-- The object as it is stored first. -/
def Kind.created (kind : Kind) (object : kind.Object) (ns : String) (uids : Nat) : kind.Object :=
  kind.withMetadata object { kind.metadata object with
    ns := some ns
    uid := some ((kind.metadata object).uid.getD ("uid-" ++ toString (uids + 1)))
    resourceVersion := some "1" }

namespace Memory

variable {m : Memory} {kind : Kind} {id : ObjectId} {doc : Json}

lemma create_of_none {ns : String} {object : kind.Object} (hfail : m.failure? kind = none)
    (hget : lookup m.objects ⟨kind, ns, (kind.metadata object).name.getD ""⟩ = none) :
    m.create kind ns object = (.ok (kind.created object ns m.uids), { m with
      objects := store ⟨kind, ns, (kind.metadata object).name.getD ""⟩
        (Record.encode (kind.created object ns m.uids)) m.objects
      uids := m.uids + 1
      creates := m.creates + 1 }) := by
  simp only [create, hfail, hget]
  rfl

lemma create_cases (m : Memory) (kind : Kind) (ns : String) (object : kind.Object) :
    (∃ error, m.create kind ns object = (.error error, m)) ∨
    (lookup m.objects ⟨kind, ns, (kind.metadata object).name.getD ""⟩ = none ∧
      m.create kind ns object = (.ok (kind.created object ns m.uids), { m with
        objects := store ⟨kind, ns, (kind.metadata object).name.getD ""⟩
          (Record.encode (kind.created object ns m.uids)) m.objects
        uids := m.uids + 1
        creates := m.creates + 1 })) := by
  cases hfail : m.failure? kind with
  | some error => exact .inl ⟨error, by simp only [create, hfail]⟩
  | none =>
    cases hget : lookup m.objects ⟨kind, ns, (kind.metadata object).name.getD ""⟩ with
    | some doc =>
      left
      simp only [create, hfail, hget]
      exact ⟨_, rfl⟩
    | none => exact .inr ⟨rfl, create_of_none hfail hget⟩

/-! ### Patching -/

/-- The version that follows the one an object has. -/
def versionAfter (version : Option String) : String := nextVersion (versionDoc version)

lemma patch_cases (m : Memory) (kind : Kind) (id : ObjectId) (ops : Json.Patch) :
    (∃ error, m.patch kind id ops = (.error error, m)) ∨
    ∃ current patched object, lookup m.objects ⟨kind, id.ns, id.name⟩ = some current ∧
      Json.Leads ops current patched ∧ resourceVersion patched = resourceVersion current ∧
      Record.decode (withVersion patched (nextVersion (resourceVersion current))) = some object ∧
      m.patch kind id ops = (.ok object, { m with
        objects := store ⟨kind, id.ns, id.name⟩
          (withVersion patched (nextVersion (resourceVersion current))) m.objects
        patches := m.patches + 1 }) := by
  cases hfail : m.failure? kind with
  | some error => exact .inl ⟨error, by simp only [patch, hfail]⟩
  | none =>
    cases hget : lookup m.objects ⟨kind, id.ns, id.name⟩ with
    | none =>
      left
      simp only [patch, hfail, hget]
      exact ⟨_, rfl⟩
    | some current =>
      cases happly : ops.apply current with
      | error failure =>
        left
        simp only [patch, hfail, hget, happly]
        exact ⟨_, rfl⟩
      | ok patched =>
        -- Whatever a patch does to the version, it is taken only with the one that is stored.
        by_cases hversion : resourceVersion patched = resourceVersion current
        · cases hread : (Record.decode (withVersion patched
              (nextVersion (resourceVersion current))) : Option kind.Object) with
          | none =>
            left
            simp only [patch, hfail, hget, happly, hversion, ne_eq, not_true_eq_false, if_false,
              hread]
            exact ⟨_, rfl⟩
          | some object =>
            refine .inr ⟨current, patched, object, rfl, Json.apply_eq_ok_iff.1 happly, hversion,
              hread, ?_⟩
            simp only [patch, hfail, hget, happly, hversion, ne_eq, not_true_eq_false, if_false,
              hread]
        · left
          simp only [patch, hfail, hget, happly, ne_eq, hversion, not_false_eq_true, if_true]
          exact ⟨_, rfl⟩

lemma patch_of_encode {current modified : kind.Object} (hfail : m.failure? kind = none)
    (hget : lookup m.objects ⟨kind, id.ns, id.name⟩ = some (Record.encode current))
    (hversion :
      (kind.metadata modified).resourceVersion = (kind.metadata current).resourceVersion) :
    m.patch kind id (diffPatch current modified) =
      (.ok (Record.whole (kind.withVersion modified
          (versionAfter (kind.metadata current).resourceVersion))),
        { m with
          objects := store ⟨kind, id.ns, id.name⟩ (Record.encode (kind.withVersion modified
            (versionAfter (kind.metadata current).resourceVersion))) m.objects
          patches := m.patches + 1 }) := by
  have happly : (diffPatch current modified).apply (Record.encode current) =
      .ok (Record.encode modified) := Json.apply_eq_ok_iff.2 (leads_diffPatch current modified)
  have hsame : ¬ resourceVersion (Record.encode modified) ≠
      resourceVersion (Record.encode current) := by
    rw [resourceVersion_encode, resourceVersion_encode, hversion]
    exact fun h => h rfl
  have hnext : withVersion (Record.encode modified)
      (nextVersion (resourceVersion (Record.encode current))) =
        Record.encode (kind.withVersion modified
          (versionAfter (kind.metadata current).resourceVersion)) := by
    rw [withVersion_encode, resourceVersion_encode, versionAfter]
  simp only [patch, hfail, hget, happly, if_neg hsame, hnext,
    Record.decode_encode kind.wellNamed]

end Memory

/-! ### Bringing one object to its state -/

namespace Pass

/-- Whether a pass has ended. -/
def Ended {α : Type} (p : Pass α) : Prop := (∃ value, p = .done value) ∨ ∃ error, p = .fail error

/-- What a client does with the object that it has read. -/
def afterRead (kind : Kind) (id : ObjectId) (change : kind.Object → kind.Object) :
    Except Error (Option kind.Object) → Pass (kind.Object × Outcome)
  | .error error => .fail error
  | .ok none => .call (.create kind id.ns (change (kind.blank id))) fun reply =>
    (ofExcept reply).bind fun created => .done (created, .created)
  | .ok (some current) =>
    if change current = current then .done (current, .unchanged)
    else match diffPatch current (change current) with
      | [] => .done (current, .unchanged)
      | op :: ops => .call (.patch kind id (op :: ops)) fun reply =>
        (ofExcept reply).bind fun patched => .done (patched, .patched)

lemma createOrPatch_eq (kind : Kind) (id : ObjectId) (change : kind.Object → kind.Object) :
    createOrPatch kind id change = .call (.get kind id) (afterRead kind id change) := by
  refine congrArg (Pass.call (.get kind id)) (funext fun reply => ?_)
  rcases reply with _ | _ | current
  · rfl
  · rfl
  · by_cases h : change current = current
    · simp only [afterRead, ofExcept, bind, Pass.bind, if_pos h]
      rfl
    · simp only [afterRead, ofExcept, bind, Pass.bind, if_neg h]
      cases diffPatch current (change current) <;> rfl

lemma ended_ofExcept {α : Type} (reply : Except Error α) : (ofExcept reply).Ended := by
  cases reply with
  | ok value => exact .inl ⟨value, rfl⟩
  | error error => exact .inr ⟨error, rfl⟩

lemma ended_ensureNotCancelled (cancelled : Bool) :
    (if cancelled then .fail .cancelled else .done () : Pass Unit).Ended := by
  cases cancelled with
  | true => exact .inr ⟨.cancelled, rfl⟩
  | false => exact .inl ⟨(), rfl⟩

lemma ended_bind_ofExcept {α β : Type} (reply : Except Error α) (value : α → β) :
    ((ofExcept reply).bind fun a => .done (value a)).Ended := by
  cases reply with
  | ok a => exact .inl ⟨value a, rfl⟩
  | error error => exact .inr ⟨error, rfl⟩

end Pass

end PgOperator
