import Mathlib.Tactic.Lemma
import PgOperator.Merge
import PgOperator.Pass.Call
import PgOperator.Proofs.Upsert
import PgOperator.Proofs.Whole

/-!
Changes that may be made again.

A change of an object is `Steady` if making it twice is making it once, if it does not depend on
what the server sets, and if it brings no fractions of seconds into the object. All changes here
are made of a change of the metadata and a change of the specification.
-/

namespace PgOperator

open Kube

/-! ### Labels, annotations and owners -/

lemma Dict.get?_extend (dict upper : Dict String) (key : String) :
    (dict.extend upper).get? key = (upper.get? key).or (dict.get? key) :=
  Sorted.get?_insertAll upper.ordered.nodup_keys key dict.entries

lemma Dict.extend_extend (dict upper : Dict String) :
    (dict.extend upper).extend upper = dict.extend upper := by
  refine Dict.ext_get? fun key => ?_
  simp only [Dict.get?_extend, or_or_self]

lemma lays_owner (owner : OwnerReference) :
    Lays (·.uid) (fun _ owner : OwnerReference => owner) owner := lays_replace owner

namespace Kube.ObjectMeta

lemma layer_layer (metadata : ObjectMeta) (labels : Dict String)
    (annotations : Option (Dict String)) :
    (metadata.layer labels annotations).layer labels annotations =
      metadata.layer labels annotations := by
  cases annotations with
  | none => simp [layer, Dict.extend_extend]
  | some upper => by_cases h : upper.isEmpty <;> simp [layer, h, Dict.extend_extend]

lemma ensureOwner_ensureOwner (metadata : ObjectMeta) (owner : OwnerReference) :
    (metadata.ensureOwner owner).ensureOwner owner = metadata.ensureOwner owner := by
  have h := ((lays_owner owner).laid_lay (metadata.ownerReferences.getD [])).lay_eq
  simp only [ensureOwner, Option.getD_some]
  exact congrArg (fun owners => { metadata with ownerReferences := some owners }) h

structure Steady (change : ObjectMeta → ObjectMeta) : Prop where
  name : ∀ metadata, (change metadata).name = metadata.name
  other : ∀ metadata, (change metadata).other = metadata.other
  stamp : ∀ metadata ns uid version,
    change { metadata with ns := ns, uid := uid, resourceVersion := version } =
      { change metadata with ns := ns, uid := uid, resourceVersion := version }
  again : ∀ metadata, change (change metadata) = change metadata

lemma Steady.whole {change : ObjectMeta → ObjectMeta} (h : Steady change) {metadata : ObjectMeta}
    (hwhole : Record.Whole metadata) : Record.Whole (change metadata) := by
  rw [whole_objectMeta_iff] at hwhole ⊢
  rw [h.other, hwhole]

lemma steady_layer (labels : Dict String) (annotations : Option (Dict String)) :
    Steady fun metadata => metadata.layer labels annotations :=
  ⟨fun _ => rfl, fun _ => rfl, fun _ _ _ _ => rfl, fun metadata => metadata.layer_layer _ _⟩

lemma steady_ensureOwner_layer (owner : OwnerReference) (labels : Dict String)
    (annotations : Option (Dict String)) :
    Steady fun metadata => (metadata.ensureOwner owner).layer labels annotations := by
  refine ⟨fun _ => rfl, fun _ => rfl, fun _ _ _ _ => rfl, fun metadata => ?_⟩
  have hlayer := (metadata.ensureOwner owner).layer_layer labels annotations
  have howner := metadata.ensureOwner_ensureOwner owner
  -- The two act on different fields, so their order does not matter.
  show (((metadata.ensureOwner owner).ensureOwner owner).layer labels annotations).layer labels
    annotations = _
  rw [howner, hlayer]

lemma steady_layer_ensureOwner (owner : OwnerReference) (labels : Dict String)
    (annotations : Option (Dict String)) :
    Steady fun metadata => (metadata.layer labels annotations).ensureOwner owner :=
  steady_ensureOwner_layer owner labels annotations

end Kube.ObjectMeta

/-! ### Objects -/

namespace Kind

/-- The object with the fields that the server sets on it. -/
def stamp (kind : Kind) (object : kind.Object) (ns uid version : Option String) : kind.Object :=
  kind.withMetadata object
    { kind.metadata object with ns := ns, uid := uid, resourceVersion := version }

structure Steady (kind : Kind) (change : kind.Object → kind.Object) : Prop where
  name : ∀ object, (kind.metadata (change object)).name = (kind.metadata object).name
  stamp : ∀ object ns uid version,
    change (kind.stamp object ns uid version) = kind.stamp (change object) ns uid version
  whole : ∀ {object}, Record.Whole object → Record.Whole (change object)
  again : ∀ object, change (change object) = change object

/-- The specifications of the objects of a kind. -/
@[reducible] def Spec : Kind → Type
  | .service => ServiceSpec
  | .statefulSet => StatefulSetSpec
  | .disruptionBudget => PodDisruptionBudgetSpec

/-- The object with its metadata and its specification changed. -/
def revise (change : ObjectMeta → ObjectMeta) :
    (kind : Kind) → (kind.Spec → kind.Spec) → kind.Object → kind.Object
  | .service, specify, live =>
    { live with metadata := change live.metadata, spec := some (specify (live.spec.getD {})) }
  | .statefulSet, specify, live =>
    { live with metadata := change live.metadata, spec := some (specify (live.spec.getD {})) }
  | .disruptionBudget, specify, live =>
    { live with metadata := change live.metadata, spec := some (specify (live.spec.getD {})) }

variable {change : ObjectMeta → ObjectMeta} (kind : Kind) {specify : kind.Spec → kind.Spec}

lemma whole_revise (h : ObjectMeta.Steady change) (hkind : kind ≠ .statefulSet)
    {object : kind.Object} (hwhole : Record.Whole object) :
    Record.Whole (kind.revise change specify object) := by
  cases kind with
  | service =>
    obtain ⟨hmeta, hstatus⟩ := whole_service_iff.1 hwhole
    exact whole_service_iff.2 ⟨h.whole hmeta, hstatus⟩
  | statefulSet => exact absurd rfl hkind
  | disruptionBudget =>
    obtain ⟨hmeta, hstatus⟩ := whole_disruptionBudget_iff.1 hwhole
    exact whole_disruptionBudget_iff.2 ⟨h.whole hmeta, hstatus⟩

lemma steady_revise (h : ObjectMeta.Steady change)
    (hwhole : ∀ {object}, Record.Whole object → Record.Whole (kind.revise change specify object))
    (hspec : ∀ spec, specify (specify spec) = specify spec) :
    Steady kind (kind.revise change specify) where
  name object := by cases kind <;> exact h.name _
  stamp object ns uid version := by
    have hstamp := h.stamp (kind.metadata object) ns uid version
    cases kind <;> simp only [revise, Kind.stamp, withMetadata, metadata] at hstamp ⊢ <;>
      rw [hstamp]
  whole := hwhole
  again object := by cases kind <;> simp only [revise, h.again, Option.getD_some, hspec]

end Kind

end PgOperator
