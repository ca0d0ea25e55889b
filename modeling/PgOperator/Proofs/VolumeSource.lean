import Mathlib.Tactic.Lemma
import PgOperator.Database.Storage
import PgOperator.Proofs.Schema

/-!
Sources that a user gives for a volume, against the volumes of a pod.

The written form of a volume reads as a source, and the source makes the same volume again, but for
a volume of the pod's own fields: it is written under `downwardAPI` and looked for under
`downwardApi`, so that it is dropped (`VolumeSource.mirrors_iff`).
-/

namespace PgOperator

open Kube

/-- The sources of a volume that a user may give. -/
def Kube.Volume.source (volume : Volume) : VolumeSource where
  persistentVolumeClaim := volume.persistentVolumeClaim
  hostPath := volume.hostPath
  nfs := volume.nfs
  configMap := volume.configMap
  secret := volume.secret
  emptyDir := volume.emptyDir
  downwardAPI := volume.downwardAPI
  projected := volume.projected
  csi := volume.csi

namespace VolumeSource

/-- Under the name of each source stands the same in the written form of a volume and in that of
its sources, as long as these are without the pod's own fields. -/
lemma get?_encode_source (volume : Volume) : ∀ name ∈ VolumeSource.fields.names,
    Sorted.get? name (Volume.fields.encode (Record.toVal volume)) =
      Sorted.get? name (VolumeSource.fields.encode
        (Record.toVal { volume.source with downwardAPI := none })) := by
  simp only [VolumeSource.fields, Fields.names, List.forall_mem_cons]
  simp (disch := decide) only [Fields.encode, Sorted.get?_append, Presence.get?_encode_of_ne,
    Fields.get?_encode_of_not_mem, Option.none_or, Option.or_none, Sorted.get?_nil]
  exact ⟨rfl, rfl, rfl, rfl, rfl, rfl, rfl, rfl, rfl, fun _ h => absurd h List.not_mem_nil⟩

/-- A volume reads as its sources without the pod's own fields. -/
theorem decode_encode_volume (volume : Volume) :
    (Record.decode (Record.encode volume) : Option VolumeSource) =
      some { volume.source with downwardAPI := none } := by
  let source : VolumeSource := { volume.source with downwardAPI := none }
  have hnames : VolumeSource.fields.names.Nodup := by decide
  have hvolume : Volume.fields.names.Nodup := by decide
  have hread : VolumeSource.fields.decode
      (Sorted.ofList (Volume.fields.encode (Record.toVal volume))) =
        some (VolumeSource.fields.whole (Record.toVal source)) :=
    Fields.decode_encode _ (by decide) hnames _ _ fun name hname =>
      (Fields.get?_object_encode hvolume _ name).trans (get?_encode_source volume name hname)
  rw [Fields.whole_of_timeless _ (by decide), id] at hread
  exact (congrArg (Option.map (Record.ofVal (α := VolumeSource))) hread).trans
    (congrArg some (Record.ofVal_toVal source))

/-- **Mirroring**: a volume is made again of the source that its written form reads as, if and only
if it has none of the sources that are only passed on, and is not made of the pod's own fields. -/
theorem mirrors_iff (volume : Volume) :
    (Record.decode (Record.encode volume)).map
        (fun source : VolumeSource => source.toVolume volume.name) = some volume ↔
      volume.other = Volume.otherFields.zero ∧ volume.downwardAPI = none := by
  have hmade : { volume.source with downwardAPI := none : VolumeSource }.toVolume volume.name =
      { volume with other := Volume.otherFields.zero, downwardAPI := none } := rfl
  rw [decode_encode_volume, Option.map_some, Option.some.injEq, hmade]
  constructor
  · intro h
    exact ⟨congrArg Volume.other h.symm, congrArg Volume.downwardAPI h.symm⟩
  · rintro ⟨hother, hown⟩
    rw [← hother, ← hown]

/-- A volume of the pod's own labels. -/
def podLabels : Volume where
  name := "labels"
  downwardAPI := some (none,
    some [(some (Record.toVal { fieldPath := "metadata.labels" : ObjectFieldSelector }), none,
      "labels", none, ())], ())

/-- The labels are dropped: a volume without a source is left. -/
theorem drops_podLabels :
    podLabels.other = Volume.otherFields.zero ∧
    (Record.decode (Record.encode podLabels)).map
      (fun source : VolumeSource => source.toVolume podLabels.name) = some { name := "labels" } ∧
    podLabels ≠ { name := "labels" } :=
  ⟨rfl, by rw [decode_encode_volume]; rfl, by decide⟩

end VolumeSource

end PgOperator
