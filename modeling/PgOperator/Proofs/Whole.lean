import Mathlib.Tactic.Lemma
import PgOperator.Kube.StatefulSet
import PgOperator.Proofs.Schema

/-!
Where the points in time of an object are.

An object is whole if the few parts are that a point in time may stand in: its metadata, its
status, and the volumes and claims of a stateful set.
-/

namespace PgOperator

namespace Record

variable {α : Type} [Record α]

lemma whole_shape_iff {value : α} : (shape α).whole (toVal value) = toVal value ↔ Whole value :=
  whole_iff.symm

lemma whole_list_iff {values : List α} :
    (Shape.list (shape α)).whole (values.map toVal) = values.map toVal ↔
      ∀ value ∈ values, Whole value := by
  rw [Shape.whole, List.map_map, List.map_inj_left]
  exact forall₂_congr fun value _ => whole_shape_iff

lemma whole_option_iff {value : Option α} :
    Option.map (shape α).whole (value.map toVal) = value.map toVal ↔
      ∀ v, value = some v → Whole v := by
  cases value with
  | none => simp
  | some v => simpa using whole_shape_iff

lemma whole_option_list_iff {values : Option (List α)} :
    Option.map (Shape.list (shape α)).whole (values.map (List.map toVal)) =
      values.map (List.map toVal) ↔ ∀ items, values = some items → ∀ v ∈ items, Whole v := by
  cases values with
  | none => simp
  | some items => simpa using whole_list_iff

lemma whole_getD {value : Option α} {blank : α} (h : ∀ v, value = some v → Whole v)
    (hblank : Whole blank) : Whole (value.getD blank) := by
  cases value with
  | none => exact hblank
  | some v => exact h v rfl

lemma whole_of_eq_none {value : Option α} (h : value = none) : ∀ v, value = some v → Whole v :=
  fun v hv => absurd (h.symm.trans hv).symm (Option.some_ne_none v)

end Record

namespace Kube

open Record

lemma whole_objectMeta_iff {metadata : ObjectMeta} :
    Whole metadata ↔ ObjectMeta.otherFields.whole metadata.other = metadata.other := by
  refine whole_iff.trans ?_
  simp (disch := decide) only [fields, toVal, ObjectMeta.fields, Fields.whole, Presence.map,
    Shape.whole_of_timeless, Prod.mk.injEq, Option.map_id_fun, id, true_and]

lemma whole_blankMeta : Whole ({} : ObjectMeta) := whole_objectMeta_iff.2 (Fields.whole_zero _)

lemma whole_volume_iff {volume : Volume} :
    Whole volume ↔ Volume.otherFields.whole volume.other = volume.other := by
  refine whole_iff.trans ?_
  simp (disch := decide) only [fields, toVal, Volume.fields, Fields.whole, Presence.map,
    Shape.whole_of_timeless, Prod.mk.injEq, Option.map_id_fun, id, true_and]

lemma whole_claim_iff {claim : PersistentVolumeClaim} :
    Whole claim ↔ Whole claim.metadata ∧ ∀ status, claim.status = some status → Whole status := by
  refine whole_iff.trans (.trans ?_ (and_congr whole_shape_iff whole_option_iff))
  show PersistentVolumeClaim.fields.whole
    (toVal claim.metadata, claim.spec.map toVal, claim.status.map toVal, ()) =
      (toVal claim.metadata, claim.spec.map toVal, claim.status.map toVal, ()) ↔ _
  simp (disch := decide) only [Fields.whole, Presence.map, Shape.whole_of_timeless,
    Prod.mk.injEq, Option.map_id_fun, id, true_and, and_true]

lemma whole_podSpec_iff {pod : PodSpec} :
    Whole pod ↔ ∀ volumes, pod.volumes = some volumes → ∀ volume ∈ volumes, Whole volume := by
  refine whole_iff.trans (.trans ?_ whole_option_list_iff)
  show PodSpec.fields.whole (pod.initContainers.map (List.map toVal), pod.containers.map toVal,
      pod.volumes.map (List.map toVal), _) =
    (pod.initContainers.map (List.map toVal), pod.containers.map toVal,
      pod.volumes.map (List.map toVal), _) ↔ _
  simp (disch := decide) only [Fields.whole, Presence.map, Shape.whole_of_timeless,
    Fields.whole_of_timeless, Prod.mk.injEq, Option.map_id_fun, id, true_and, and_true]

lemma whole_blankPod : Whole ({} : PodSpec) :=
  whole_podSpec_iff.2 fun volumes h => absurd h.symm (Option.some_ne_none volumes)

lemma whole_podTemplate_iff {template : PodTemplateSpec} :
    Whole template ↔ (∀ metadata, template.metadata = some metadata → Whole metadata) ∧
      ∀ pod, template.spec = some pod → Whole pod := by
  refine whole_iff.trans (.trans ?_ (and_congr whole_option_iff whole_option_iff))
  show PodTemplateSpec.fields.whole (template.metadata.map toVal, template.spec.map toVal, ()) =
    (template.metadata.map toVal, template.spec.map toVal, ()) ↔ _
  simp only [Fields.whole, Presence.map, Prod.mk.injEq, and_true]

lemma whole_statefulSetSpec_iff {spec : StatefulSetSpec} :
    Whole spec ↔ Whole spec.template ∧
      ∀ claims, spec.volumeClaimTemplates = some claims → ∀ claim ∈ claims, Whole claim := by
  refine whole_iff.trans (.trans ?_ (and_congr whole_shape_iff whole_option_list_iff))
  show StatefulSetSpec.fields.whole (spec.replicas, spec.serviceName, toVal spec.selector,
      spec.updateStrategy.map toVal, toVal spec.template,
      spec.volumeClaimTemplates.map (List.map toVal), spec.other) =
    (spec.replicas, spec.serviceName, toVal spec.selector, spec.updateStrategy.map toVal,
      toVal spec.template, spec.volumeClaimTemplates.map (List.map toVal), spec.other) ↔ _
  simp (disch := decide) only [Fields.whole, Presence.map, Shape.whole_of_timeless,
    Fields.whole_of_timeless, Prod.mk.injEq, Option.map_id_fun, id, true_and, and_true]

lemma whole_blankSpec : Whole ({} : StatefulSetSpec) :=
  whole_statefulSetSpec_iff.2
    ⟨whole_podTemplate_iff.2 ⟨whole_of_eq_none rfl, whole_of_eq_none rfl⟩,
      fun claims h => absurd h.symm (Option.some_ne_none claims)⟩

lemma whole_statefulSet_iff {set : StatefulSet} :
    Whole set ↔ Whole set.metadata ∧ (∀ spec, set.spec = some spec → Whole spec) ∧
      set.status.map Table.statefulSetStatus.whole = set.status := by
  refine whole_iff.trans
    (.trans ?_ (and_congr whole_shape_iff (and_congr whole_option_iff Iff.rfl)))
  show StatefulSet.fields.whole (toVal set.metadata, set.spec.map toVal, set.status, ()) =
    (toVal set.metadata, set.spec.map toVal, set.status, ()) ↔ _
  simp only [Fields.whole, Presence.map, Prod.mk.injEq, and_true]

lemma whole_service_iff {service : Service} :
    Whole service ↔ Whole service.metadata ∧
      service.status.map Table.serviceStatus.whole = service.status := by
  refine whole_iff.trans (.trans ?_ (and_congr whole_shape_iff Iff.rfl))
  show Service.fields.whole (toVal service.metadata, service.spec.map toVal, service.status, ()) =
    (toVal service.metadata, service.spec.map toVal, service.status, ()) ↔ _
  have hspec : (shape ServiceSpec).whole = id := Shape.whole_of_timeless _ (by decide)
  simp only [Fields.whole, Presence.map, hspec, Prod.mk.injEq, Option.map_id_fun, id, true_and,
    and_true]

lemma whole_disruptionBudget_iff {budget : PodDisruptionBudget} :
    Whole budget ↔ Whole budget.metadata ∧
      budget.status.map Table.podDisruptionBudgetStatus.whole = budget.status := by
  refine whole_iff.trans (.trans ?_ (and_congr whole_shape_iff Iff.rfl))
  show PodDisruptionBudget.fields.whole
      (toVal budget.metadata, budget.spec.map toVal, budget.status, ()) =
    (toVal budget.metadata, budget.spec.map toVal, budget.status, ()) ↔ _
  have hspec : (shape PodDisruptionBudgetSpec).whole = id :=
    Shape.whole_of_timeless _ (by decide)
  simp only [Fields.whole, Presence.map, hspec, Prod.mk.injEq, Option.map_id_fun, id, true_and,
    and_true]

end Kube

end PgOperator
