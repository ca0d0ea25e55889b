import Mathlib.Data.List.Forall2
import Mathlib.Tactic.Lemma
import PgOperator.Proofs.Members
import PgOperator.Proofs.Served

/-!
Defaults of the API server cause no change.

What the server fills in is kept where the part it belongs to is merged: timing and protocols are
laid under the desired ones, nested fields of volumes and claims under the desired documents, and
the rest is not written at all. So the stateful set that comes back is what the operator asks for
(`Postgres.Unambiguous.statefulSet_filled`).
-/

namespace PgOperator

open Kube Record

/-! ### Keyed lists -/

section Keyed

variable {α κ : Type} [DecidableEq κ] {key : α → κ} {combine : α → α → α}
  {items items' : List α} {item : α} {R : α → α → Prop}

/-- An item that is laid in a list is laid in one whose items differ from it by what the item lets
stand. -/
lemma Laid.of_forall₂ (h : Laid key combine items item) (hitems : List.Forall₂ R items items')
    (hkey : ∀ x x', R x x' → key x' = key x)
    (hcombine : ∀ x x', R x x' → combine x item = x → combine x' item = x') :
    Laid key combine items' item := by
  obtain ⟨found, hfound, hsame⟩ := h
  induction hitems with
  | nil => exact absurd hfound nofun
  | @cons x x' rest rest' hx _ ih =>
    by_cases hitem : key x = key item
    · obtain rfl : x = found := by simpa [hitem] using hfound
      exact ⟨x', by simp [hkey x x' hx, hitem], hcombine x x' hx hsame⟩
    · obtain ⟨found', hfound', hsame'⟩ := ih (by simpa [hitem] using hfound)
      exact ⟨found', by simpa [hkey x x' hx, hitem] using hfound', hsame'⟩

lemma exists_of_forall₂ (h : List.Forall₂ R items items') {x' : α} (hx' : x' ∈ items') :
    ∃ x ∈ items, R x x' := by
  induction h with
  | nil => exact absurd hx' List.not_mem_nil
  | @cons x y rest rest' hx _ ih =>
    rcases List.mem_cons.1 hx' with rfl | hx'
    · exact ⟨x, List.mem_cons_self, hx⟩
    · obtain ⟨old, hold, hfound⟩ := ih hx'
      exact ⟨old, List.mem_cons_of_mem _ hold, hfound⟩

lemma map_eq_of_forall₂ {β : Type} {f : α → β} (hitems : List.Forall₂ R items items')
    (hf : ∀ x x', R x x' → f x' = f x) : items'.map f = items.map f := by
  induction hitems with
  | nil => rfl
  | @cons x x' rest rest' hx _ ih => rw [List.map_cons, List.map_cons, hf x x' hx, ih]

end Keyed

namespace Kube

/-! ### Containers -/

/-- Lays a desired request over the live one. -/
def mergeGet (live desired : Option HTTPGetAction) : Option HTTPGetAction :=
  match desired, live with
  | some get, some liveGet => some { get with scheme := get.scheme <|> liveGet.scheme }
  | get, _ => get

lemma mergeGet_none (desired : Option HTTPGetAction) : mergeGet none desired = desired := by
  cases desired <;> rfl

lemma mergeGet_some (live desired : HTTPGetAction) : mergeGet (some live) (some desired) =
    some { desired with scheme := desired.scheme.or live.scheme } := by
  simp [mergeGet]

lemma mergeGet_filled {old new desired : Option HTTPGetAction}
    (h : Option.Rel HTTPGetAction.Filled old new) (heq : mergeGet old desired = old) :
    mergeGet new desired = new := by
  cases h with
  | none => exact heq
  | @some old new h =>
    cases desired with
    | none => exact absurd heq nofun
    | some get =>
      rw [mergeGet_some] at heq ⊢
      have heq := Option.some.inj heq
      have hscheme := h.scheme.or_eq (congrArg HTTPGetAction.scheme heq)
      refine congrArg some ?_
      calc { get with scheme := get.scheme.or new.scheme }
        _ = { old with scheme := get.scheme.or new.scheme } :=
          congrArg (fun g : HTTPGetAction => { g with scheme := get.scheme.or new.scheme }) heq
        _ = { old with scheme := new.scheme } := by rw [hscheme]
        _ = new := h.others.symm

lemma mergeProbe_some (live desired : Probe) : mergeProbe (some live) (some desired) =
    some { desired with
      timeoutSeconds := desired.timeoutSeconds.or live.timeoutSeconds
      periodSeconds := desired.periodSeconds.or live.periodSeconds
      successThreshold := desired.successThreshold.or live.successThreshold
      failureThreshold := desired.failureThreshold.or live.failureThreshold
      httpGet := mergeGet live.httpGet desired.httpGet } := by
  obtain ⟨get, _⟩ := desired
  obtain ⟨liveGet, _⟩ := live
  cases get <;> cases liveGet <;> simp [mergeProbe, mergeGet]

lemma mergeProbe_filled {old new desired : Option Probe} (h : Option.Rel Probe.Filled old new)
    (heq : mergeProbe old desired = old) : mergeProbe new desired = new := by
  cases h with
  | none => exact heq
  | @some old new h =>
    cases desired with
    | none => exact absurd heq nofun
    | some desired =>
      rw [mergeProbe_some] at heq ⊢
      have heq := Option.some.inj heq
      have hget := mergeGet_filled h.httpGet (congrArg Probe.httpGet heq)
      have htimeout := h.timeoutSeconds.or_eq (congrArg Probe.timeoutSeconds heq)
      have hperiod := h.periodSeconds.or_eq (congrArg Probe.periodSeconds heq)
      have hsuccess := h.successThreshold.or_eq (congrArg Probe.successThreshold heq)
      have hfailure := h.failureThreshold.or_eq (congrArg Probe.failureThreshold heq)
      rw [hget, htimeout, hperiod, hsuccess, hfailure]
      refine congrArg some (.trans ?_ h.others.symm)
      exact congrArg (fun p : Probe =>
        { p with
          httpGet := new.httpGet
          timeoutSeconds := new.timeoutSeconds
          periodSeconds := new.periodSeconds
          successThreshold := new.successThreshold
          failureThreshold := new.failureThreshold }) heq

/-- A port with the protocol of the live one of its number. -/
def withProtocol (live : List ContainerPort) (port : ContainerPort) : ContainerPort :=
  { port with
    protocol := port.protocol <|>
      (live.find? fun p => p.containerPort = port.containerPort).bind (·.protocol) }

lemma mergeContainerPorts_eq (live desired : List ContainerPort) :
    mergeContainerPorts live desired = desired.map (withProtocol live) := rfl

lemma withProtocol_of_mem {live : List ContainerPort} {port found : ContainerPort}
    (hnumbers : (live.map (·.containerPort)).Nodup) (h : found ∈ live)
    (hnumber : found.containerPort = port.containerPort) :
    withProtocol live port = { port with protocol := port.protocol.or found.protocol } := by
  rw [withProtocol, ← hnumber, find?_key_of_mem hnumbers h]
  simp

lemma withProtocol_filled {old new : List ContainerPort} {port port' : ContainerPort}
    (hold : (old.map (·.containerPort)).Nodup) (hnew : (new.map (·.containerPort)).Nodup)
    (hmem : withProtocol old port ∈ old) (hmem' : port' ∈ new)
    (h : (withProtocol old port).Filled port') : withProtocol new port = port' := by
  have hfound : withProtocol old port =
      { port with protocol := port.protocol.or (withProtocol old port).protocol } :=
    withProtocol_of_mem hold hmem rfl
  have hprotocol := h.protocol.or_eq (congrArg ContainerPort.protocol hfound).symm
  have hnumber : port'.containerPort = port.containerPort := h.containerPort
  rw [withProtocol_of_mem hnew hmem' hnumber, hprotocol]
  exact h.others.symm

lemma mergeContainerPorts_filled {desired old new : List ContainerPort}
    (hnumbers : (desired.map (·.containerPort)).Nodup)
    (h : List.Forall₂ ContainerPort.Filled old new)
    (heq : mergeContainerPorts old desired = old) : mergeContainerPorts new desired = new := by
  rw [mergeContainerPorts_eq] at heq ⊢
  have hold : old.map (·.containerPort) = desired.map (·.containerPort) := by
    rw [← heq, List.map_map]
    rfl
  have hnew : new.map (·.containerPort) = old.map (·.containerPort) :=
    map_eq_of_forall₂ h fun _ _ => ContainerPort.Filled.containerPort
  have hmem (port : ContainerPort) (hport : port ∈ desired) : withProtocol old port ∈ old := by
    have hmap : withProtocol old port ∈ desired.map (withProtocol old) := List.mem_map_of_mem hport
    rwa [heq] at hmap
  rw [← heq, List.forall₂_map_left_iff, List.forall₂_iff_zip] at h
  obtain ⟨hlength, hzip⟩ := h
  rw [← List.forall₂_eq_eq_eq, List.forall₂_map_left_iff, List.forall₂_iff_zip]
  refine ⟨hlength, fun {port port'} hboth => ?_⟩
  obtain ⟨hport, hport'⟩ := List.of_mem_zip hboth
  exact withProtocol_filled (hold ▸ hnumbers) (hnew ▸ hold ▸ hnumbers) (hmem port hport) hport'
    (hzip hboth)

lemma map_mergeContainerPorts_filled {desired old new : Option (List ContainerPort)}
    (hnumbers : ∀ ports, desired = some ports → (ports.map (·.containerPort)).Nodup)
    (h : Option.Rel (List.Forall₂ ContainerPort.Filled) old new)
    (heq : desired.map (mergeContainerPorts (old.getD [])) = old) :
    desired.map (mergeContainerPorts (new.getD [])) = new := by
  cases h with
  | none => exact heq
  | some h =>
    cases desired with
    | none => exact absurd heq nofun
    | some ports =>
      exact congrArg some (mergeContainerPorts_filled (hnumbers ports rfl) h (Option.some.inj heq))

/-- **What is filled in a container stays**: where its ports have different numbers, a container
that a desired one was merged into is not changed by it. -/
theorem Container.Filled.mergeContainer_eq_self {old new desired : Container} (h : old.Filled new)
    (hports : ∀ ports, desired.ports = some ports → (ports.map (·.containerPort)).Nodup)
    (heq : mergeContainer old desired = old) : mergeContainer new desired = new := by
  rw [mergeContainer_eq] at heq
  have hmerged := map_mergeContainerPorts_filled hports h.ports (congrArg Container.ports heq)
  have hliveness := mergeProbe_filled h.livenessProbe (congrArg Container.livenessProbe heq)
  have hreadiness := mergeProbe_filled h.readinessProbe (congrArg Container.readinessProbe heq)
  have hpolicy := h.imagePullPolicy.or_eq (congrArg Container.imagePullPolicy heq)
  have hresources := h.resources.or_eq (congrArg Container.resources heq)
  -- All other fields of the new container are those of the old one.
  refine (congrArg (mergeContainer · desired) h.others).trans (.trans ?_ h.others.symm)
  rw [mergeContainer_eq, hmerged, hliveness, hreadiness, hpolicy, hresources]
  exact congrArg (fun c : Container =>
    { c with
      imagePullPolicy := new.imagePullPolicy
      terminationMessagePath := new.terminationMessagePath
      terminationMessagePolicy := new.terminationMessagePolicy
      resources := new.resources
      livenessProbe := new.livenessProbe
      readinessProbe := new.readinessProbe
      ports := new.ports }) heq

/-! ### Volumes -/

lemma get?_other_volume (volume : Volume) {key : String} (h : key ∈ Volume.otherFields.names) :
    (encode volume).get? key = Sorted.get? key (Volume.otherFields.encode volume.other) := by
  have hne : ∀ name ∈ ["name", "persistentVolumeClaim", "hostPath", "nfs", "configMap", "secret",
      "emptyDir", "downwardAPI", "projected", "csi"], key ≠ name := by
    revert key
    decide
  refine (Fields.get?_object_encode (nodup_names mergeable_volume.wellNamed) _ _).trans ?_
  simp (disch := exact hne _ (by decide)) only [fields, toVal, Volume.fields, Fields.encode,
    Sorted.get?_append, Presence.get?_encode_of_ne, Option.none_or]

lemma other_eq_zero {desired volume : Volume} (h : desired.other = Volume.otherFields.zero)
    (heq : keepNestedDefaults volume desired = volume) :
    volume.other = Volume.otherFields.zero := by
  refine Fields.eq_zero_of_get? _ rfl _ fun key hkey => ?_
  have hdesired : (encode desired).get? key = none := by
    rw [get?_other_volume desired hkey, h, Fields.encode_zero _ rfl]
    rfl
  rw [← get?_other_volume volume hkey, ← heq, mergeable_volume.get?_keepNestedDefaults, hdesired]
  rfl

lemma Volume.Filled.name {old new : Volume} (h : old.Filled new) : new.name = old.name := h.1

lemma Volume.Filled.keepNestedDefaults_eq_self {old new desired : Volume} (h : old.Filled new)
    (hdesired : desired.other = Volume.otherFields.zero)
    (heq : keepNestedDefaults old desired = old) : keepNestedDefaults new desired = new := by
  obtain ⟨-, -, -, -, -, -, -, -, -, -, hother⟩ :=
    (show Volume.fields.FilledWithin (toVal old) (toVal new) from h)
  have hzero : new.other = Volume.otherFields.zero :=
    Fields.eq_zero_of_filledWithin _ rfl _ (other_eq_zero hdesired heq ▸ hother)
  refine mergeable_volume.keepNestedDefaults_filled h ?_ heq
  rw [whole_volume_iff, hzero]
  exact Fields.whole_zero _

/-! ### Claims -/

lemma get?_withStatus (claim : PersistentVolumeClaim)
    (status other : Option PersistentVolumeClaimStatus) {key : String} (h : key ≠ "status") :
    (encode { claim with status := status }).get? key =
      (encode { claim with status := other }).get? key := by
  have hnames := nodup_names mergeable_claim.wellNamed
  refine (Fields.get?_object_encode hnames _ _).trans
    (.trans ?_ (Fields.get?_object_encode hnames _ _).symm)
  simp (disch := exact h) only [fields, toVal, PersistentVolumeClaim.fields, Fields.encode,
    Sorted.get?, Sorted.get?_append, Presence.get?_encode_of_ne]

lemma whole_status_iff {status : PersistentVolumeClaimStatus} : Whole status ↔
    PersistentVolumeClaimStatus.otherFields.whole status.other = status.other := by
  refine whole_iff.trans ?_
  simp (disch := decide) only [fields, toVal, PersistentVolumeClaimStatus.fields, Fields.whole,
    Presence.map, Shape.whole_of_timeless, Prod.mk.injEq, Option.map_id_fun, id, true_and]

lemma whole_blankStatus : Whole ({} : PersistentVolumeClaimStatus) :=
  whole_status_iff.2 (Fields.whole_zero _)

namespace PersistentVolumeClaim.Filled

variable {old new claim : PersistentVolumeClaim}

lemma whole (h : old.Filled new) (hold : Whole old) : Whole new := by
  obtain ⟨hmeta, hstatus⟩ := whole_claim_iff.1 hold
  refine whole_claim_iff.2 ⟨h.metadata ▸ hmeta, ?_⟩
  rcases h.status with hsame | ⟨-, phase, hset⟩
  · rwa [hsame]
  · rw [hset]
    intro status heq
    have hlive := whole_status_iff.1 (whole_getD hstatus whole_blankStatus)
    obtain rfl := Option.some.inj heq
    exact whole_status_iff.2 hlive

lemma filledWithin (h : old.Filled new) (hspec : old.spec ≠ none) :
    FilledWithin old { old with spec := new.spec } := by
  have hsame := filledWithin_refl old
  refine ⟨hsame.1, ?_, hsame.2.2⟩
  show Option.Rel _ (old.spec.map toVal) (new.spec.map toVal)
  rcases h.spec with heq | ⟨hunset, mode, hset⟩
  · rw [heq]
    exact hsame.2.1
  · cases hold : old.spec with
    | none => exact absurd hold hspec
    | some spec =>
      rw [hset, hold]
      have hself := (PersistentVolumeClaimSpec.fields).filled_refl (toVal spec)
      refine .some ⟨hself.1, hself.2.1, hself.2.2.1, fun part hpart => ?_, hself.2.2.2.2⟩
      rw [hold] at hunset
      exact absurd (hunset.symm.trans hpart) nofun

lemma layClaim_eq_self (h : old.Filled new) (hstatus : claim.status = none)
    (hspec : claim.spec ≠ none) (heq : layClaim old claim = old) : layClaim new claim = new := by
  have hold : Whole old := heq ▸ mergeable_claim.whole_keepNestedDefaults old _
  have hmembers := (mergeable_claim.keepNestedDefaults_eq_iff hold).1 heq
  refine (mergeable_claim.keepNestedDefaults_eq_iff (h.whole hold)).2 fun key => ?_
  have hasSpec : old.spec ≠ none := by
    intro hnone
    have hmember (c : PersistentVolumeClaim) : (encode c).get? "spec" = c.spec.map encode :=
      (get?_encode mergeable_claim.wellNamed c "spec").trans (document_optional c.spec)
    have hget := hmembers "spec"
    rw [hmember, hmember, hnone] at hget
    cases hclaim : claim.spec with
    | none => exact hspec hclaim
    | some spec => simp [hclaim] at hget
  -- The status is not desired, so it is the live one; all other members are old or filled in.
  by_cases hkey : key = "status"
  · subst hkey
    have hmember (c : PersistentVolumeClaim) : (encode c).get? "status" = c.status.map encode :=
      (get?_encode mergeable_claim.wellNamed c "status").trans (document_optional c.status)
    rw [hmember, hmember]
    simp only [hstatus]
    cases new.status with
    | none => rfl
    | some status =>
      exact congrArg some (Json.keepMember_self (ordered_encode status)
        ((shape PersistentVolumeClaimStatus).nullFree_encode (by decide) (toVal status))).symm
  · have hsplit : new = { old with spec := new.spec, status := new.status } := by
      rw [← h.metadata]
    have hnew : (encode new).get? key = (encode { old with spec := new.spec }).get? key :=
      (congrArg (fun c => (encode c).get? key) hsplit).trans
        (get?_withStatus { old with spec := new.spec } new.status old.status hkey)
    have hdesired := get?_withStatus claim (claim.status <|> new.status)
      (claim.status <|> old.status) hkey
    rw [hnew, hdesired]
    exact Json.map_keepMember_of_rel (mergeable_claim.rel_encode (h.filledWithin hasSpec) key)
      (fun _ => ordered_get? _) (fun _ => ordered_get? _)
      (fun _ hget => ⟨ordered_get? _ hget, mergeable_claim.nullFree_get? _ hget⟩) (hmembers key)

end PersistentVolumeClaim.Filled

lemma Container.Filled.name {old new : Container} (h : old.Filled new) : new.name = old.name := by
  rw [h.others]

lemma upsertContainers_filled {live desired new : List Container}
    (hdistinct : ∀ c ∈ desired, c.Distinct) (hnames : (desired.map (·.name)).Nodup)
    (h : List.Forall₂ Container.Filled (upsertContainers live desired) new) :
    upsertContainers new desired = new := by
  have hlaid := laid_foldl_lay (fun c hc => (hdistinct c hc).lays) hnames live
  refine foldl_lay_of_laid fun c hc => ?_
  exact (hlaid c hc).of_forall₂ h (fun _ _ => Container.Filled.name) fun _ _ hfilled =>
    hfilled.mergeContainer_eq_self (hdistinct c hc).ports

end Kube

/-! ### The stateful set -/

namespace Postgres

variable {db : Postgres} {version : PostgresVersion} {options : Options}

lemma mergedVolumes_filled {live new : List Volume}
    (h : List.Forall₂ Volume.Filled (db.mergedVolumes live) new) : db.mergedVolumes new = new := by
  refine mergedVolumes_eq_self (fun volume hvolume => ?_) fun claim hdata volume hvolume => ?_
  · exact (laid_mergedVolumes live volume hvolume).of_forall₂ h (fun _ _ => Volume.Filled.name)
      fun _ _ hfilled => hfilled.keepNestedDefaults_eq_self (db.other_of_mem_volumes volume hvolume)
  · obtain ⟨old, hold, hfilled⟩ := exists_of_forall₂ h hvolume
    rw [hfilled.name]
    exact name_ne_of_mem_mergedVolumes hdata old hold

lemma spec_ne_none {claim : PersistentVolumeClaim} (h : db.dataVolume = .claim claim) :
    claim.spec ≠ none := by
  unfold dataVolume at h
  split at h
  · exact absurd h nofun
  · obtain rfl := DataVolume.claim.inj h
    exact Option.some_ne_none _

lemma claimTemplates_filled {live new : Option (List PersistentVolumeClaim)}
    (h : Option.Rel (List.Forall₂ PersistentVolumeClaim.Filled) (db.claimTemplates live) new) :
    db.claimTemplates new = new := by
  have hnames (x x' : PersistentVolumeClaim) (hfilled : x.Filled x') :
      x'.metadata.name = x.metadata.name := congrArg ObjectMeta.name hfilled.metadata
  unfold claimTemplates at h ⊢
  rcases db.dataVolume_cases with ⟨volume, hdata, -⟩ | ⟨claim, hdata, hname, hstatus, hwhole⟩
  · rw [hdata] at h ⊢
    cases live with
    | none => cases h; rfl
    | some claims =>
      obtain ⟨claims, rfl, hfilled⟩ := exists_of_rel_some h
      refine congrArg some (List.filter_eq_self.2 fun claim hclaim => ?_)
      obtain ⟨old, hold, hclaimFilled⟩ := exists_of_forall₂ hfilled hclaim
      rw [hnames old claim hclaimFilled]
      exact (List.mem_filter.1 hold).2
  · rw [hdata] at h ⊢
    obtain ⟨claims, rfl, hfilled⟩ := exists_of_rel_some h
    have hlaid := (lays_claim hwhole hname hstatus).laid_lay (live.getD [])
    exact congrArg some (hlaid.of_forall₂ hfilled hnames fun _ _ hclaim =>
      hclaim.layClaim_eq_self hstatus (spec_ne_none hdata)).lay_eq

lemma Unambiguous.podSpec_filled (h : db.Unambiguous) {live new : PodSpec}
    (hfilled : (db.podSpec version options live).Filled new) :
    db.podSpec version options new = new := by
  have hinits : (if db.spec.podTemplate.spec.initContainers.isEmpty then new.initContainers
      else some (upsertContainers (new.initContainers.getD [])
        db.spec.podTemplate.spec.initContainers)) = new.initContainers := by
    have hrel := hfilled.initContainers
    rw [podSpec_eq] at hrel
    by_cases hempty : db.spec.podTemplate.spec.initContainers.isEmpty
    · exact if_pos hempty
    · rw [if_neg hempty] at hrel ⊢
      obtain ⟨inits, hnew, hinits⟩ := exists_of_rel_some hrel
      rw [hnew]
      exact congrArg some (upsertContainers_filled h.initParts h.initNames hinits)
  have hcontainers := upsertContainers_filled h.distinct_containers nodup_names_containers
    hfilled.containers
  have hvolumes : some (db.mergedVolumes (new.volumes.getD [])) = new.volumes := by
    obtain ⟨volumes, hnew, hrel⟩ := exists_of_rel_some hfilled.volumes
    rw [hnew]
    exact congrArg some (mergedVolumes_filled hrel)
  have hscheduler : givenOr db.spec.podTemplate.spec.schedulerName new.schedulerName =
      new.schedulerName := by
    have hfills := hfilled.schedulerName
    rw [podSpec_eq] at hfills
    revert hfills
    cases db.spec.podTemplate.spec.schedulerName with
    | none => exact fun _ => rfl
    | some name =>
      by_cases hname : name = ""
      · exact fun _ => if_pos hname
      · simp only [givenOr, hname, if_false]
        exact fun hfills => (hfills name rfl).symm
  -- All other fields of the new pod are those of the old one, which the operator has written.
  refine (congrArg (db.podSpec version options) hfilled.others).trans
    (.trans ?_ hfilled.others.symm)
  rw [podSpec_eq, hinits, hcontainers, hscheduler, hvolumes]
  rfl

/-- **Defaults of the API server cause no change**: the stateful set that an operator has written
and the server has filled in is what the operator asks for. -/
theorem Unambiguous.statefulSet_filled (h : db.Unambiguous) (version : PostgresVersion)
    (options : Options) (live new : StatefulSet)
    (hfilled : (db.statefulSet version options live).Filled new) :
    db.statefulSet version options new = new := by
  obtain ⟨spec, hspec, hrel⟩ := exists_of_rel_some hfilled.spec
  obtain ⟨pod, hpod, hpodFilled⟩ := exists_of_rel_some hrel.pod
  have hclaims := claimTemplates_filled hrel.claims
  have hpodSpec := h.podSpec_filled hpodFilled
  have hmeta := (ObjectMeta.steady_layer_ensureOwner db.ownerReference db.labels
    db.spec.podTemplate.controller.annotations).again live.metadata
  have hnew : new = { db.statefulSet version options live with spec := some spec } :=
    hspec ▸ hfilled.others
  have hothers := hrel.others
  rw [hpod] at hothers
  have htemplate := congrArg (fun spec : StatefulSetSpec => spec.template.metadata) hothers
  have hother := congrArg StatefulSetSpec.other hothers
  rw [hnew]
  refine congrArg₂ (fun metadata spec => StatefulSet.mk metadata spec live.status) hmeta
    (congrArg some (.trans ?_ hothers.symm))
  simp only [hpod, htemplate, hother, Option.getD_some, hpodSpec, hclaims, ObjectMeta.layer_layer]

end Postgres

/-- An instance with a probe over HTTP, a port that says no protocol, and a secret in a volume. -/
def Postgres.probed : Postgres where
  metadata := { name := some "db", ns := some "demo" }
  spec := {
    configSecret := some { name := "config" }
    podTemplate := { spec := {
      readinessProbe := some { httpGet := some { port := .int 8008, path := some "/healthz" } }
      initContainers := [{ name := "prepare", ports := some [{ containerPort := 5000 }] }] } } }

lemma Postgres.unambiguous_probed : Postgres.probed.Unambiguous where
  initNames := List.pairwise_singleton _ _
  initParts c hc := by
    obtain rfl := List.mem_singleton.1 hc
    refine ⟨fun env h => absurd h nofun, fun mounts h => absurd h nofun, fun ports h => ?_⟩
    obtain rfl := Option.some.inj h
    exact List.pairwise_singleton _ _
  exporterEnv _ h := absurd h nofun

/-- The server changes what it was sent, and the next pass leaves that as it is. -/
theorem Postgres.statefulSet_filled_probed :
    ((probed.statefulSet {} {} {}).defaulted ≠ probed.statefulSet {} {} {}) ∧
    probed.statefulSet {} {} (probed.statefulSet {} {} {}).defaulted =
      (probed.statefulSet {} {} {}).defaulted := by
  refine ⟨fun heq => ?_, unambiguous_probed.statefulSet_filled {} {} {} _
    (StatefulSet.filled_defaulted _)⟩
  have hpolicy := congrArg (fun set : StatefulSet =>
    (set.spec.bind (·.template.spec)).bind (·.restartPolicy)) heq
  exact absurd hpolicy nofun

end PgOperator
