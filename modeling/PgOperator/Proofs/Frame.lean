import Mathlib.Tactic.Lemma
import PgOperator.Proofs.Workload

/-!
What others put into the stateful set stays.

Merging an item into a keyed list leaves the items of other keys as they are and in their order
(`SameBeside`), and every item in its place (`InPlace`). All lists of the stateful set are merged in
that way, and what is neither merged nor owned by the operator is passed on, so that the derived
stateful set keeps everything foreign (`Postgres.keeps_statefulSet`).
-/

namespace PgOperator

open Kube

/-! ### Keyed lists -/

section Keyed

variable {α κ : Type} [DecidableEq κ]

/-- But for the items of the given keys, both lists have the same items in the same order. -/
def SameBeside (key : α → κ) (keys : List κ) (items items' : List α) : Prop :=
  items'.filter (fun x => key x ∉ keys) = items.filter (fun x => key x ∉ keys)

/-- Every item of the first list has its place in the second one, changed at most as `R` says;
there may be more items at the end. -/
inductive InPlace (R : α → α → Prop) : List α → List α → Prop
  | nil (more : List α) : InPlace R [] more
  | cons {x x' : α} {rest rest' : List α} (head : R x x') (tail : InPlace R rest rest') :
    InPlace R (x :: rest) (x' :: rest')

variable {key : α → κ} {combine : α → α → α} {keys more : List κ} {items mid items' new : List α}
  {item : α} {R : α → α → Prop}

namespace SameBeside

lemma refl (items : List α) : SameBeside key keys items items := rfl

lemma trans (h : SameBeside key keys items mid) (h' : SameBeside key keys mid items') :
    SameBeside key keys items items' :=
  Eq.trans h' h

lemma mono (h : SameBeside key keys items items') (hsub : keys ⊆ more) :
    SameBeside key more items items' := by
  have hfilter (l : List α) : l.filter (fun x => key x ∉ more) =
      (l.filter fun x => key x ∉ keys).filter fun x => key x ∉ more := by
    rw [List.filter_filter]
    refine List.filter_congr fun x _ => ?_
    by_cases hx : key x ∈ more
    · simp [hx]
    · have hkeys : key x ∉ keys := fun hmem => hx (hsub hmem)
      simp [hx, hkeys]
  rw [SameBeside, hfilter items', show items'.filter _ = _ from h, ← hfilter]

lemma filter {p : α → Bool} (hp : ∀ x, key x ∉ keys → p x = true) (items : List α) :
    SameBeside key keys items (items.filter p) := by
  rw [SameBeside, List.filter_filter]
  refine List.filter_congr fun x _ => ?_
  by_cases hx : key x ∈ keys
  · simp [hx]
  · simp [hx, hp x hx]

lemma lay (h : KeepsKey key combine item) (items : List α) :
    SameBeside key [key item] items (lay key combine items item) := by
  rw [SameBeside]
  induction items with
  | nil => simp [PgOperator.lay, upsertWith]
  | cons x rest ih =>
    by_cases hx : key x = key item
    · simp [PgOperator.lay, upsertWith, hx, h x hx]
    · simpa [PgOperator.lay, upsertWith, hx] using ih

lemma foldl_lay (h : ∀ item ∈ new, KeepsKey key combine item) (items : List α) :
    SameBeside key (new.map key) items (new.foldl (PgOperator.lay key combine) items) := by
  induction new generalizing items with
  | nil => exact refl items
  | cons item rest ih =>
    obtain ⟨hitem, hrest⟩ := List.forall_mem_cons.1 h
    have hfirst : SameBeside key ((item :: rest).map key) items
        (PgOperator.lay key combine items item) := (lay hitem items).mono (by simp)
    exact hfirst.trans ((ih hrest _).mono (List.subset_cons_self _ _))

end SameBeside

namespace InPlace

lemma refl (h : ∀ x, R x x) : (items : List α) → InPlace R items items
  | [] => .nil []
  | x :: rest => .cons (h x) (refl h rest)

lemma trans (hR : ∀ {x y z}, R x y → R y z → R x z) (h : InPlace R items mid)
    (h' : InPlace R mid items') : InPlace R items items' := by
  induction h generalizing items' with
  | nil _ => exact .nil _
  | cons head _ ih =>
    cases h' with
    | cons head' tail' => exact .cons (hR head head') (ih tail')

lemma lay (hrefl : ∀ x, R x x) (h : ∀ live, key live = key item → R live (combine live item)) :
    (items : List α) → InPlace R items (lay key combine items item)
  | [] => .nil _
  | x :: rest => by
    rw [PgOperator.lay, upsertWith]
    split
    · rename_i hx
      exact .cons (h x hx) (refl hrefl rest)
    · exact .cons (hrefl x) (lay hrefl h rest)

lemma foldl_lay (hrefl : ∀ x, R x x) (htrans : ∀ {x y z}, R x y → R y z → R x z)
    (h : ∀ item ∈ new, ∀ live, key live = key item → R live (combine live item))
    (items : List α) : InPlace R items (new.foldl (PgOperator.lay key combine) items) := by
  induction new generalizing items with
  | nil => exact refl hrefl items
  | cons item rest ih =>
    obtain ⟨hitem, hrest⟩ := List.forall_mem_cons.1 h
    exact (lay hrefl hitem items).trans htrans (ih hrest _)

end InPlace

end Keyed

namespace Kube

/-! ### Metadata -/

/-- Metadata that differ in labels, annotations and owners only, and there only in the given
keys and in owners of the given uids. -/
structure ObjectMeta.Keeps (labels annotations : Dict String) (owners : List String)
    (live metadata : ObjectMeta) : Prop where
  others : metadata =
    { live with
      labels := metadata.labels
      annotations := metadata.annotations
      ownerReferences := metadata.ownerReferences }
  labels : ∀ key, labels.get? key = none →
    (metadata.labels.getD .empty).get? key = (live.labels.getD .empty).get? key
  annotations : ∀ key, annotations.get? key = none →
    (metadata.annotations.getD .empty).get? key = (live.annotations.getD .empty).get? key
  owners : SameBeside (·.uid) owners (live.ownerReferences.getD [])
    (metadata.ownerReferences.getD [])

namespace ObjectMeta

lemma keeps_layer (live : ObjectMeta) (labels : Dict String) (annotations : Option (Dict String)) :
    Keeps labels (annotations.getD .empty) [] live (live.layer labels annotations) where
  others := rfl
  labels key h := by simp [layer, Dict.get?_extend, h]
  annotations key h := by
    cases annotations with
    | none => rfl
    | some upper =>
      have h : upper.get? key = none := h
      by_cases hempty : upper.isEmpty <;> simp [layer, hempty, Dict.get?_extend, h]
  owners := .refl _

lemma Keeps.ensureOwner {labels annotations : Dict String} {live metadata : ObjectMeta}
    (h : Keeps labels annotations [] live metadata) (owner : OwnerReference) :
    Keeps labels annotations [owner.uid] live (metadata.ensureOwner owner) where
  others := congrArg (fun m : ObjectMeta =>
    { m with ownerReferences := (metadata.ensureOwner owner).ownerReferences }) h.others
  labels := h.labels
  annotations := h.annotations
  owners := (h.owners.mono (List.nil_subset _)).trans (.lay (keepsKey_replace owner) _)

end ObjectMeta

/-! ### Containers -/

/-- The variables that containers of a name set. -/
def envNames (containers : List Container) (name : String) : List String :=
  (containers.filter (·.name = name)).flatMap fun c => c.envList.map (·.name)

/-- The volumes that containers of a name mount. -/
def mountNames (containers : List Container) (name : String) : List String :=
  (containers.filter (·.name = name)).flatMap fun c => c.mountList.map (·.name)

/-- A container with its variables and mounts, but for those that the desired containers of its
name have. -/
structure Container.Keeps (desired : List Container) (live c : Container) : Prop where
  name : c.name = live.name
  env : SameBeside (·.name) (envNames desired live.name) live.envList c.envList
  mounts : SameBeside (·.name) (mountNames desired live.name) live.mountList c.mountList

namespace Container.Keeps

variable {desired : List Container} {live mid c : Container}

lemma refl (c : Container) : Container.Keeps desired c c := ⟨rfl, .refl _, .refl _⟩

lemma trans (h : Container.Keeps desired live mid) (h' : Container.Keeps desired mid c) :
    Container.Keeps desired live c :=
  ⟨h'.name.trans h.name, h.env.trans (h.name ▸ h'.env), h.mounts.trans (h.name ▸ h'.mounts)⟩

lemma mergeContainer (hc : c ∈ desired) (hname : live.name = c.name) :
    Container.Keeps desired live (mergeContainer live c) := by
  have hmem : c ∈ desired.filter (·.name = live.name) :=
    List.mem_filter.2 ⟨hc, decide_eq_true hname.symm⟩
  refine ⟨rfl, ?_, ?_⟩
  · rw [envList_mergeContainer]
    refine (SameBeside.foldl_lay (fun var _ => keepsKey_replace var) _).mono fun name hname => ?_
    exact List.mem_flatMap.2 ⟨c, hmem, hname⟩
  · rw [mountList_mergeContainer]
    refine (SameBeside.foldl_lay (fun mount _ => keepsKey_replace mount) _).mono
      fun name hname => ?_
    exact List.mem_flatMap.2 ⟨c, hmem, hname⟩

end Container.Keeps

/-- The containers of other names are the same ones, and every container keeps its place and what
is foreign in it. -/
structure KeepsContainers (desired live containers : List Container) : Prop where
  foreign : SameBeside (·.name) (desired.map (·.name)) live containers
  merged : InPlace (Container.Keeps desired) live containers

lemma keepsContainers_upsertContainers (desired live : List Container) :
    KeepsContainers desired live (upsertContainers live desired) where
  foreign := .foldl_lay (fun c _ => keepsKey_container c) live
  merged := .foldl_lay .refl .trans (fun _ hc _ => .mergeContainer hc) live

end Kube

/-! ### The stateful set -/

namespace Postgres

variable (db : Postgres) (version : PostgresVersion) (options : Options)

/-- A stateful set with everything in it that the operator does not own. -/
structure Keeps (live set : StatefulSet) : Prop where
  status : set.status = live.status
  metadata : ObjectMeta.Keeps db.labels (db.spec.podTemplate.controller.annotations.getD .empty)
    [db.ownerReference.uid] live.metadata set.metadata
  specification : set.specification =
    { live.specification with
      replicas := set.specification.replicas
      serviceName := set.specification.serviceName
      selector := set.specification.selector
      updateStrategy := set.specification.updateStrategy
      template := set.specification.template
      volumeClaimTemplates := set.specification.volumeClaimTemplates }
  templateMetadata : ObjectMeta.Keeps db.selectors
    (db.spec.podTemplate.annotations.getD .empty) [] live.templateMetadata set.templateMetadata
  pod : set.pod =
    { live.pod with
      initContainers := set.pod.initContainers
      containers := set.pod.containers
      nodeSelector := set.pod.nodeSelector
      affinity := set.pod.affinity
      schedulerName := set.pod.schedulerName
      tolerations := set.pod.tolerations
      imagePullSecrets := set.pod.imagePullSecrets
      priorityClassName := set.pod.priorityClassName
      priority := set.pod.priority
      securityContext := set.pod.securityContext
      serviceAccountName := set.pod.serviceAccountName
      volumes := set.pod.volumes }
  containers : KeepsContainers (db.containers version options db.volumes) live.pod.containers
    set.pod.containers
  inits : KeepsContainers db.spec.podTemplate.spec.initContainers live.pod.inits set.pod.inits
  volumes : SameBeside (·.name) (VolumeSet.dataName :: db.volumes.volumes.map (·.name))
    live.pod.volumeList set.pod.volumeList
  claims : SameBeside (·.metadata.name) [some VolumeSet.dataName] live.claims set.claims

lemma sameBeside_mergedVolumes (live : List Volume) :
    SameBeside (·.name) (VolumeSet.dataName :: db.volumes.volumes.map (·.name)) live
      (db.mergedVolumes live) := by
  have hmerged : SameBeside (·.name) (VolumeSet.dataName :: db.volumes.volumes.map (·.name)) live
      (db.volumes.volumes.foldl upsertVolume live) :=
    (SameBeside.foldl_lay (fun volume _ => keepsKey_volume volume) live).mono
      (List.subset_cons_self _ _)
  unfold mergedVolumes
  cases db.volumes.data with
  | ephemeral volume => exact hmerged
  | claim claim =>
    refine hmerged.trans (.filter (fun x hx => ?_) _)
    have hname : x.name ≠ VolumeSet.dataName := fun heq => hx (heq ▸ List.mem_cons_self)
    simpa using hname

lemma sameBeside_mergedClaims (live : List PersistentVolumeClaim) :
    SameBeside (·.metadata.name) [some VolumeSet.dataName] live (db.mergedClaims live) := by
  rcases db.dataVolume_cases with ⟨volume, hdata, -⟩ | ⟨claim, hdata, hname, -⟩
  · rw [db.mergedClaims_of_ephemeral hdata]
    refine .filter (fun x hx => ?_) live
    simpa using hx
  · rw [db.mergedClaims_of_claim hdata, ← hname]
    exact .lay (keepsKey_claim hname) live

/-- **What is foreign stays**: of whatever stateful set is live, the operator changes only what it
owns, and every other part of it is there as before and in the same order. -/
theorem keeps_statefulSet (live : StatefulSet) :
    db.Keeps version options live (db.statefulSet version options live) where
  status := rfl
  metadata := by
    rw [metadata_statefulSet]
    exact (live.metadata.keeps_layer _ _).ensureOwner _
  specification := rfl
  templateMetadata := by
    rw [templateMetadata_statefulSet]
    exact live.templateMetadata.keeps_layer _ _
  pod := rfl
  containers := keepsContainers_upsertContainers _ _
  inits := by
    rw [pod_statefulSet, inits_podSpec]
    exact keepsContainers_upsertContainers _ _
  volumes := db.sameBeside_mergedVolumes _
  claims := by
    rw [claims_statefulSet]
    exact db.sameBeside_mergedClaims _

end Postgres

end PgOperator
