import Mathlib.Tactic.Lemma
import PgOperator.Derive.Volumes
import PgOperator.Merge
import PgOperator.Proofs.NestedDefaults
import PgOperator.Proofs.Upsert
import PgOperator.Proofs.Whole
import PgOperator.Proofs.Written

/-!
Merging volumes and claims, and merging them again.

Both are laid over live ones so that nested defaults stay, and keep their names in that
(`lays_volume`, `lays_claim`). The volumes of an instance have different names.
-/

namespace PgOperator

open Kube

namespace Record

variable {α : Type} [Record α]

lemma Mergeable.get?_keepNestedDefaults (h : Mergeable α) (live desired : α) (key : String) :
    (encode (keepNestedDefaults live desired)).get? key =
      ((encode desired).get? key).map (Json.keepMember ((encode live).get? key)) := by
  rw [h.encode_keepNestedDefaults]
  exact (congrArg (Json.get? key) (Json.keepNestedDefaults_obj _ _)).trans
    (Sorted.get?_map (fun key => Json.keepMember ((encode live).get? key)) key _)

lemma Mergeable.keepNestedDefaults_congr (h : Mergeable α) (live : α) {desired other : α}
    (heq : encode desired = encode other) :
    keepNestedDefaults live desired = keepNestedDefaults live other := by
  refine eq_of_encode_eq h.wellNamed (h.whole_keepNestedDefaults _ _)
    (h.whole_keepNestedDefaults _ _) ?_
  rw [h.encode_keepNestedDefaults, h.encode_keepNestedDefaults, heq]

end Record

namespace Kube

open Record

/-! ### Volumes -/

lemma name_keepNestedDefaults (live desired : Volume) :
    (keepNestedDefaults live desired).name = desired.name := by
  have h := mergeable_volume.get?_keepNestedDefaults live desired "name"
  simp only [get?_encode mergeable_volume.wellNamed] at h
  exact Json.str.inj (Option.some.inj h)

lemma keepsKey_volume (volume : Volume) :
    KeepsKey (·.name) (fun live volume : Volume => keepNestedDefaults live volume) volume :=
  fun live _ => name_keepNestedDefaults live volume

lemma lays_volume {volume : Volume} (h : Whole volume) :
    Lays (·.name) (fun live volume : Volume => keepNestedDefaults live volume) volume where
  key_combine := keepsKey_volume volume
  combine_combine live := mergeable_volume.keepNestedDefaults_idem live volume
  combine_self := mergeable_volume.keepNestedDefaults_self h

/-! ### Claims -/

/-- How a claim template is laid over a live one. -/
abbrev layClaim (live claim : PersistentVolumeClaim) : PersistentVolumeClaim :=
  keepNestedDefaults live { claim with status := claim.status <|> live.status }

lemma encode_withStatus (claim : PersistentVolumeClaim)
    {status other : Option PersistentVolumeClaimStatus} (h : status.map encode = other.map encode) :
    encode { claim with status := status } = encode { claim with status := other } := by
  have hfield : Presence.optional.encode (shape PersistentVolumeClaimStatus).encode "status"
      (status.map toVal) =
        Presence.optional.encode (shape PersistentVolumeClaimStatus).encode "status"
          (other.map toVal) := by
    cases status <;> cases other <;> simp_all [Presence.encode, encode]
  have hfields : (fields PersistentVolumeClaim).encode (toVal { claim with status := status }) =
      (fields PersistentVolumeClaim).encode (toVal { claim with status := other }) := by
    simp only [fields, toVal, PersistentVolumeClaim.fields, Fields.encode] at hfield ⊢
    rw [hfield]
  exact congrArg Json.object hfields

lemma get?_keepMember_of_str {live desired : Json} {key text : String} (hlive : live.Ordered)
    (hdesired : desired.Ordered) (h : desired.get? key = some (.str text)) :
    (Json.keepMember (some live) desired).get? key = some (.str text) := by
  cases desired with
  | obj members =>
    cases live with
    | obj old =>
      have hold := (Json.ordered_obj.1 hlive).1
      have hkeys := (Json.ordered_obj.1 hdesired).1.nodup_keys
      have hget : Sorted.get? key members = some (.str text) := h
      rw [Json.keepMember, Json.merge_obj]
      refine (Json.get?_mergeMembers hkeys (.inl hold) key).trans ?_
      rw [hget]
      rfl
    | _ => exact h
  | _ => exact absurd h nofun

lemma name_layClaim (live : PersistentVolumeClaim) {claim : PersistentVolumeClaim} {name : String}
    (h : claim.metadata.name = some name) : (layClaim live claim).metadata.name = some name := by
  have hmeta := mergeable_claim.get?_keepNestedDefaults live
    { claim with status := claim.status <|> live.status } "metadata"
  have hmember (c : PersistentVolumeClaim) :
      (encode c).get? "metadata" = some (encode c.metadata) :=
    get?_encode mergeable_claim.wellNamed c "metadata"
  rw [hmember, hmember, hmember] at hmeta
  have hdesired : (encode claim.metadata).get? "name" = some (.str name) :=
    (get?_encode wellNamed_objectMeta _ _).trans (congrArg (Option.map Json.str) h)
  have hname : (encode (layClaim live claim).metadata).get? "name" =
      (layClaim live claim).metadata.name.map .str := get?_encode wellNamed_objectMeta _ _
  rw [Option.some.inj hmeta,
    get?_keepMember_of_str (ordered_encode _) (ordered_encode _) hdesired] at hname
  cases hkept : (layClaim live claim).metadata.name with
  | none => simp [hkept] at hname
  | some kept => simpa [hkept, eq_comm] using hname

lemma status_layClaim (live : PersistentVolumeClaim) {claim : PersistentVolumeClaim}
    (h : claim.status = none) :
    (layClaim live claim).status.map encode = live.status.map encode := by
  have hstatus := mergeable_claim.get?_keepNestedDefaults live
    { claim with status := claim.status <|> live.status } "status"
  have hmember (c : PersistentVolumeClaim) : (encode c).get? "status" = c.status.map encode :=
    (get?_encode mergeable_claim.wellNamed c "status").trans (document_optional c.status)
  rw [hmember, hmember, hmember] at hstatus
  refine hstatus.trans ?_
  rw [h]
  cases live.status with
  | none => rfl
  | some status =>
    exact congrArg some (Json.keepMember_self (ordered_encode status)
      ((shape PersistentVolumeClaimStatus).nullFree_encode (by decide) (toVal status)))

lemma keepsKey_claim {claim : PersistentVolumeClaim} {name : String}
    (h : claim.metadata.name = some name) : KeepsKey (·.metadata.name) layClaim claim :=
  fun live _ => (name_layClaim live h).trans h.symm

lemma lays_claim {claim : PersistentVolumeClaim} {name : String} (h : Whole claim)
    (hname : claim.metadata.name = some name) (hstatus : claim.status = none) :
    Lays (·.metadata.name) layClaim claim where
  key_combine := keepsKey_claim hname
  combine_combine live := by
    have hkept : encode { claim with status := claim.status <|> (layClaim live claim).status } =
        encode { claim with status := claim.status <|> live.status } := by
      rw [hstatus]
      exact encode_withStatus claim (status_layClaim live hstatus)
    rw [layClaim, mergeable_claim.keepNestedDefaults_congr (layClaim live claim) hkept]
    exact mergeable_claim.keepNestedDefaults_idem live _
  combine_self := by
    have hself : { claim with status := claim.status <|> claim.status } = claim := by simp
    rw [layClaim, hself]
    exact mergeable_claim.keepNestedDefaults_self h

end Kube

/-! ### The volumes of an instance -/

open Record

/-- The volumes have the given names, each at most once, are mounted under them, and come from none
of the sources that are only passed on. -/
structure MountedUnder (names : List String) (mounted : List MountedVolume) : Prop where
  names : (mounted.map (·.volume.name)).Sublist names
  mount : ∀ m ∈ mounted, m.mount.name = m.volume.name
  plain : ∀ m ∈ mounted, m.volume.other = Volume.otherFields.zero

namespace MountedUnder

variable {names others : List String} {mounted rest : List MountedVolume}

lemma nil (names : List String) : MountedUnder names [] :=
  ⟨List.nil_sublist _, fun _ hm => absurd hm List.not_mem_nil,
    fun _ hm => absurd hm List.not_mem_nil⟩

lemma singleton {volume : Volume} (h : volume.other = Volume.otherFields.zero) (path : String) :
    MountedUnder [volume.name] [volume.mountedAt path] := by
  refine ⟨List.Sublist.refl _, fun m hm => ?_, fun m hm => ?_⟩
  · obtain rfl := List.mem_singleton.1 hm
    rfl
  · obtain rfl := List.mem_singleton.1 hm
    exact h

lemma append (h : MountedUnder names mounted) (hrest : MountedUnder others rest) :
    MountedUnder (names ++ others) (mounted ++ rest) := by
  refine ⟨?_, fun m hm => ?_, fun m hm => ?_⟩
  · rw [List.map_append]
    exact h.names.append hrest.names
  · exact (List.mem_append.1 hm).elim (h.mount m) (hrest.mount m)
  · exact (List.mem_append.1 hm).elim (h.plain m) (hrest.plain m)

end MountedUnder

lemma other_secretVolume (name secret : String) :
    (secretVolume name secret).other = Volume.otherFields.zero := rfl

lemma other_toVolume (source : VolumeSource) (name : String) :
    (source.toVolume name).other = Volume.otherFields.zero := rfl

namespace Postgres

lemma mountedUnder_localVolume (name : String) (storage : StorageBackend) :
    MountedUnder [name] (localVolume name storage) := by
  unfold localVolume
  split
  · exact .singleton (other_toVolume _ name) _
  · exact .nil _

/-- The names that volumes beside the data volume may have. -/
def volumeNames : List String :=
  ["wal-g-archive", "wal-g-restore", "initial-script", "shared-memory", "local-archive",
    "local-init", "custom-config"]

lemma mountedUnder_archiveSecret (db : Postgres) :
    MountedUnder ["wal-g-archive"] db.archiveSecret := by
  unfold archiveSecret
  split
  · split
    · exact .singleton (other_secretVolume _ _) _
    · exact .nil _
  · exact .nil _

lemma mountedUnder_restoreSecret (db : Postgres) :
    MountedUnder ["wal-g-restore"] db.restoreSecret := by
  unfold restoreSecret
  split
  · split
    · exact .singleton (other_secretVolume _ _) _
    · exact .nil _
  · exact .nil _

lemma mountedUnder_initScript (db : Postgres) : MountedUnder ["initial-script"] db.initScript := by
  unfold initScript
  split
  · exact .singleton (other_toVolume _ _) _
  · exact .nil _

lemma mountedUnder_sharedMemory : MountedUnder ["shared-memory"] [sharedMemory] := by
  have hother : ({ name := "shared-memory", emptyDir := some { medium := some "Memory" } } :
      Volume).other = Volume.otherFields.zero := rfl
  exact .singleton hother _

lemma mountedUnder_customConfig (db : Postgres) :
    MountedUnder ["custom-config"] db.customConfig := by
  unfold customConfig
  split
  · exact .singleton (other_secretVolume _ _) _
  · exact .nil _

lemma mountedUnder_localArchive (db : Postgres) :
    MountedUnder ["local-archive"] (match db.archive? with
      | some storage => localVolume "local-archive" storage
      | none => []) := by
  split
  · exact mountedUnder_localVolume _ _
  · exact .nil _

lemma mountedUnder_localInit (db : Postgres) :
    MountedUnder ["local-init"] (match db.restore? with
      | some wal => localVolume "local-init" wal.storage
      | none => []) := by
  split
  · exact mountedUnder_localVolume _ _
  · exact .nil _

/-- Restore credentials and scripts stand between two groups of volumes with other names. -/
lemma exists_mounted (db : Postgres) : ∃ first rest,
    db.volumes.mounted =
      first ++ (if db.restored then [] else db.restoreSecret ++ db.initScript) ++ rest ∧
    MountedUnder ["wal-g-archive"] first ∧
    MountedUnder ["shared-memory", "local-archive", "local-init", "custom-config"] rest := by
  have hassoc (a b c d e f : List MountedVolume) :
      a ++ b ++ c ++ d ++ e ++ f = a ++ b ++ (c ++ (d ++ (e ++ f))) := by
    simp only [List.append_assoc]
  exact ⟨db.archiveSecret, _, hassoc _ _ _ _ _ _, db.mountedUnder_archiveSecret,
    mountedUnder_sharedMemory.append (db.mountedUnder_localArchive.append
      (db.mountedUnder_localInit.append db.mountedUnder_customConfig))⟩

lemma mountedUnder_restoration (db : Postgres) :
    MountedUnder ["wal-g-restore", "initial-script"]
      (if db.restored then [] else db.restoreSecret ++ db.initScript) := by
  split
  · exact .nil _
  · exact db.mountedUnder_restoreSecret.append db.mountedUnder_initScript

lemma mountedUnder_volumes (db : Postgres) : MountedUnder volumeNames db.volumes.mounted := by
  obtain ⟨first, rest, heq, hfirst, hrest⟩ := db.exists_mounted
  rw [heq]
  exact (hfirst.append db.mountedUnder_restoration).append hrest

lemma map_name_mount (db : Postgres) :
    db.volumes.mounted.map (·.mount.name) = db.volumes.mounted.map (·.volume.name) :=
  List.map_congr_left db.mountedUnder_volumes.mount

lemma nodup_names_mounts (db : Postgres) : (db.volumes.mounts.map (·.name)).Nodup := by
  have hsub : (db.volumes.mounts.map (·.name)).Sublist (volumeNames ++ [VolumeSet.dataName]) := by
    rw [VolumeSet.mounts, List.map_append, List.map_map]
    exact (db.map_name_mount ▸ db.mountedUnder_volumes.names).append (List.Sublist.refl _)
  exact List.Nodup.sublist hsub (by decide)

lemma dataVolume_cases (db : Postgres) :
    (∃ volume, db.dataVolume = .ephemeral volume ∧ volume.name = VolumeSet.dataName ∧
      volume.other = Volume.otherFields.zero) ∨
    ∃ claim, db.dataVolume = .claim claim ∧ claim.metadata.name = some VolumeSet.dataName ∧
      claim.status = none ∧ Whole claim := by
  unfold dataVolume
  split
  · exact .inl ⟨_, rfl, rfl, rfl⟩
  · refine .inr ⟨_, rfl, rfl, rfl, whole_claim_iff.2 ⟨?_, whole_of_eq_none rfl⟩⟩
    exact whole_objectMeta_iff.2 (Fields.whole_zero _)

lemma nodup_names_volumes (db : Postgres) : (db.volumes.volumes.map (·.name)).Nodup := by
  have hsub : (db.volumes.volumes.map (·.name)).Sublist (volumeNames ++ [VolumeSet.dataName]) := by
    rw [VolumeSet.volumes, List.map_append, List.map_map]
    refine db.mountedUnder_volumes.names.append ?_
    rcases db.dataVolume_cases with ⟨volume, hdata, hname, -⟩ | ⟨claim, hdata, -⟩
    · rw [show db.volumes.data = _ from hdata, ← hname]
      exact List.Sublist.refl _
    · rw [show db.volumes.data = _ from hdata]
      exact List.nil_sublist _
  exact List.Nodup.sublist hsub (by decide)

/-! ### Names of volumes and mounts -/

section Names

variable {db : Postgres} {name : String}

lemma mem_names_mounts (h : name ≠ VolumeSet.dataName) :
    name ∈ db.volumes.mounts.map (·.name) ↔ name ∈ db.volumes.mounted.map (·.volume.name) := by
  rw [VolumeSet.mounts, List.map_append, List.map_map, List.mem_append, ← db.map_name_mount]
  exact or_iff_left (by simpa using h)

lemma mem_names_volumes (h : name ≠ VolumeSet.dataName) :
    name ∈ db.volumes.volumes.map (·.name) ↔ name ∈ db.volumes.mounted.map (·.volume.name) := by
  rw [VolumeSet.volumes, List.map_append, List.map_map, List.mem_append]
  refine or_iff_left ?_
  rcases db.dataVolume_cases with ⟨volume, hdata, hname, -⟩ | ⟨claim, hdata, -⟩
  · rw [show db.volumes.data = _ from hdata]
    simpa [hname] using h
  · rw [show db.volumes.data = _ from hdata]
    exact List.not_mem_nil

lemma mem_names_mounted (h : name ∈ ["wal-g-restore", "initial-script"]) :
    name ∈ db.volumes.mounted.map (·.volume.name) ↔
      db.restored = false ∧ name ∈ (db.restoreSecret ++ db.initScript).map (·.volume.name) := by
  obtain ⟨first, rest, heq, hfirst, hrest⟩ := db.exists_mounted
  have hothers {names : List String} {mounted : List MountedVolume}
      (hmounted : MountedUnder names mounted)
      (hdisjoint : ∀ name ∈ ["wal-g-restore", "initial-script"], name ∉ names) :
      name ∉ mounted.map (·.volume.name) := fun hmem =>
    hdisjoint name h (hmounted.names.subset hmem)
  rw [heq, List.map_append, List.map_append, List.mem_append, List.mem_append,
    or_iff_left (hothers hrest (by decide)), or_iff_right (hothers hfirst (by decide))]
  cases db.restored <;> simp

end Names

lemma other_of_mem_volumes (db : Postgres) :
    ∀ volume ∈ db.volumes.volumes, volume.other = Volume.otherFields.zero := by
  intro volume hvolume
  rcases List.mem_append.1 hvolume with h | h
  · obtain ⟨m, hm, rfl⟩ := List.mem_map.1 h
    exact db.mountedUnder_volumes.plain m hm
  · rcases db.dataVolume_cases with ⟨data, hdata, -, hother⟩ | ⟨claim, hdata, -⟩
    · rw [show db.volumes.data = _ from hdata] at h
      exact List.mem_singleton.1 h ▸ hother
    · rw [show db.volumes.data = _ from hdata] at h
      exact absurd h List.not_mem_nil

lemma whole_of_mem_volumes (db : Postgres) : ∀ volume ∈ db.volumes.volumes, Whole volume := by
  intro volume hvolume
  rw [whole_volume_iff, db.other_of_mem_volumes volume hvolume]
  exact Fields.whole_zero _

lemma name_ne_dataName {db : Postgres} {claim : PersistentVolumeClaim}
    (h : db.dataVolume = .claim claim) :
    ∀ volume ∈ db.volumes.volumes, volume.name ≠ VolumeSet.dataName := by
  intro volume hvolume heq
  rw [VolumeSet.volumes, show db.volumes.data = _ from h, List.append_nil] at hvolume
  obtain ⟨m, hm, rfl⟩ := List.mem_map.1 hvolume
  have hmem : VolumeSet.dataName ∈ volumeNames :=
    db.mountedUnder_volumes.names.subset (heq ▸ List.mem_map_of_mem hm)
  exact absurd hmem (by decide)

end Postgres

end PgOperator
