import Mathlib.Tactic.Lemma
import PgOperator.Memory
import PgOperator.Pass.Reconcile
import PgOperator.Proofs.NestedDefaults
import PgOperator.Proofs.Patch

/-!
Objects in their written form.

The control plane looks at the metadata of written objects and sets the resource version there.
Both are what they are for the objects themselves: `resourceVersion_encode` and
`withVersion_encode`. From this follows what the operations of `diffPatch` do. Carried out on the
object that they were made for they give the modified object (`leads_diffPatch`). Carried out on
any other document they set the version that was read, or find no place (`resourceVersion_leads`).
-/

namespace PgOperator

open Kube

/-! ### Tables of fields -/

lemma wellNamed_objectMeta : (Record.shape ObjectMeta).wellNamed = true := rfl

lemma Kind.wellNamed (kind : Kind) : (Record.shape kind.Object).wellNamed = true := by
  cases kind <;> decide +kernel

lemma Kube.mergeable_volume : Record.Mergeable Volume := ⟨rfl, rfl, rfl⟩

lemma Kube.mergeable_claim : Record.Mergeable PersistentVolumeClaim := ⟨rfl, rfl, rfl⟩

lemma Kube.mergeable_container : Record.Mergeable Container := ⟨rfl, rfl, rfl⟩

/-! ### Metadata -/

namespace Kind

variable {kind : Kind}

@[simp] lemma metadata_withMetadata (object : kind.Object) (metadata : ObjectMeta) :
    kind.metadata (kind.withMetadata object metadata) = metadata := by
  cases kind <;> rfl

lemma metadata_blank (id : ObjectId) :
    kind.metadata (kind.blank id) = { name := some id.name, ns := some id.ns } := by
  cases kind <;> rfl

def withVersion (kind : Kind) (object : kind.Object) (version : String) : kind.Object :=
  kind.withMetadata object { kind.metadata object with resourceVersion := some version }

end Kind

lemma get?_metadata_encode {kind : Kind} (object : kind.Object) :
    (Record.encode object).get? "metadata" = some (Record.encode (kind.metadata object)) := by
  rw [Record.get?_encode kind.wellNamed]
  cases kind <;> rfl

lemma get?_version_encode (metadata : ObjectMeta) :
    (Record.encode metadata).get? "resourceVersion" = metadata.resourceVersion.map .str :=
  Record.get?_encode wellNamed_objectMeta metadata "resourceVersion"

/-- The resource version of an object as a document has it. -/
def versionDoc (version : Option String) : Json := (version.map Json.str).getD .null

lemma resourceVersion_encode {kind : Kind} (object : kind.Object) :
    Memory.resourceVersion (Record.encode object) =
      versionDoc (kind.metadata object).resourceVersion := by
  rw [Memory.resourceVersion, Json.getD, Json.getD, get?_metadata_encode, Option.getD_some,
    get?_version_encode, versionDoc]

lemma Record.encode_ext {α : Type} [Record α] {value : α} {members : List (String × Json)}
    (hmembers : Sorted.Ordered members)
    (h : ∀ key, (Record.encode value).get? key = Sorted.get? key members) :
    Record.encode value = .obj members :=
  congrArg Json.obj ((Sorted.Ordered.ofList _).ext hmembers h)

lemma encode_withVersion_metadata (metadata : ObjectMeta) (version : String) :
    Record.encode { metadata with resourceVersion := some version } =
      (Record.encode metadata).set "resourceVersion" (.str version) := by
  refine Record.encode_ext ((Sorted.Ordered.ofList _).insert _ _) fun key => ?_
  by_cases hkey : key = "resourceVersion"
  · rw [hkey, get?_version_encode, Sorted.get?_insert_self, Option.map_some]
  · -- Every other member is written from a field that is the same.
    rw [Sorted.get?_insert_of_ne hkey]
    refine (Fields.get?_object_encode (Record.nodup_names wellNamed_objectMeta) _ _).trans ?_
    refine .trans ?_ (Fields.get?_object_encode (Record.nodup_names wellNamed_objectMeta) _ _).symm
    simp only [Record.fields, Record.toVal, ObjectMeta.fields, Fields.encode, Sorted.get?_append,
      Presence.get?_encode_of_ne hkey]

lemma encode_withMetadata {kind : Kind} (object : kind.Object) (metadata : ObjectMeta) :
    Record.encode (kind.withMetadata object metadata) =
      (Record.encode object).set "metadata" (Record.encode metadata) := by
  refine Record.encode_ext ((Sorted.Ordered.ofList _).insert _ _) fun key => ?_
  by_cases hkey : key = "metadata"
  · rw [hkey, get?_metadata_encode, Sorted.get?_insert_self, Kind.metadata_withMetadata]
  · rw [Sorted.get?_insert_of_ne hkey]
    refine (Fields.get?_object_encode (Record.nodup_names kind.wellNamed) _ _).trans ?_
    refine .trans ?_ (Fields.get?_object_encode (Record.nodup_names kind.wellNamed) _ _).symm
    cases kind <;>
      simp only [Record.fields, Record.toVal, Kind.withMetadata, Fields.encode, Sorted.get?_append,
        Sorted.get?, Presence.get?_encode_of_ne hkey]

lemma withVersion_encode {kind : Kind} (object : kind.Object) (version : String) :
    Memory.withVersion (Record.encode object) version =
      Record.encode (kind.withVersion object version) := by
  rw [Kind.withVersion, encode_withMetadata, encode_withVersion_metadata, Memory.withVersion,
    Json.getD, get?_metadata_encode, Option.getD_some]

/-! ### The patch of a change -/

abbrev pin (version : String) : Json.Operation :=
  .replace ["metadata", "resourceVersion"] (.str version)

lemma diffPatch_eq {kind : Kind} (current modified : kind.Object) :
    diffPatch current modified = [] ∧
      Json.diff (Record.encode current) (Record.encode modified) = [] ∨
    diffPatch current modified =
      ((kind.metadata current).resourceVersion.map pin).toList ++
        Json.diff (Record.encode current) (Record.encode modified) := by
  unfold diffPatch
  split
  · rename_i heq
    exact .inl ⟨rfl, heq⟩
  · rename_i op ops heq
    right
    rw [heq]
    cases (kind.metadata current).resourceVersion <;> rfl

lemma leads_pin {kind : Kind} (object : kind.Object) :
    Json.Leads ((kind.metadata object).resourceVersion.map pin).toList (Record.encode object)
      (Record.encode object) := by
  cases hversion : (kind.metadata object).resourceVersion with
  | none => exact .nil _
  | some version =>
    refine .singleton ?_
    have hmeta := get?_metadata_encode object
    have hold := get?_version_encode (kind.metadata object)
    rw [hversion, Option.map_some] at hold
    have hobject : (Record.encode object).Ordered := Record.ordered_encode object
    have hmetadata : (Record.encode (kind.metadata object)).Ordered := Record.ordered_encode _
    -- Both documents are objects, so the operation puts in what is there already.
    revert hmeta hold hobject hmetadata
    generalize Record.encode object = doc
    generalize Record.encode (kind.metadata object) = metadata
    intro hmeta hold hobject hmetadata
    cases doc with
    | obj members =>
      cases metadata with
      | obj part =>
        have hpart := Sorted.insert_of_get? (Json.ordered_obj.1 hmetadata).1 hold
        have hmembers := Sorted.insert_of_get? (Json.ordered_obj.1 hobject).1 hmeta
        have hold : Sorted.get? "resourceVersion" part = some (.str version) := hold
        have hmeta : Sorted.get? "metadata" members = some (.obj part) := hmeta
        simp [Json.Operation.carryOut, Json.Operation.replaceAt, Json.Operation.within, hmeta, hold,
          hpart, hmembers]
      | _ => exact absurd hold.symm (Option.some_ne_none _)
    | _ => exact absurd hmeta.symm (Option.some_ne_none _)

/-- The patch of a change, carried out on the object that was read, gives the changed object. -/
theorem leads_diffPatch {kind : Kind} (current modified : kind.Object) :
    Json.Leads (diffPatch current modified) (Record.encode current) (Record.encode modified) := by
  have hdiff := Json.leads_diff (Record.ordered_encode current) (Record.ordered_encode modified)
  rcases diffPatch_eq current modified with ⟨hnil, hempty⟩ | heq
  · rwa [hnil, ← hempty]
  · rw [heq]
    exact (leads_pin current).append hdiff

lemma spares_diff_encode {kind : Kind} {current modified : kind.Object}
    (hversion :
      (kind.metadata modified).resourceVersion = (kind.metadata current).resourceVersion) :
    ∀ op ∈ Json.diff (Record.encode current) (Record.encode modified),
      op.Spares "metadata" "resourceVersion" := by
  refine Json.spares_diff (Record.ordered_encode modified) (get?_metadata_encode current)
    (get?_metadata_encode modified) ?_
  exact (get?_version_encode _).trans (.trans (by rw [hversion]) (get?_version_encode _).symm)

lemma resourceVersion_pin {version : String} {doc after : Json}
    (h : Json.Operation.carryOut doc (pin version) = some after) :
    Memory.resourceVersion after = .str version := by
  obtain ⟨old, new, -, hnew, hafter⟩ := Json.Operation.get?_within (by decide) h
  obtain ⟨was, set, -, hset, hversion⟩ := Json.Operation.get?_within (by decide) hnew
  obtain rfl := Option.some.inj hset
  simp only [Memory.resourceVersion, Json.getD, hafter, hversion, Option.getD_some]

/-- **The version that was read is set**: a patch that can be carried out leads to a document with
the resource version of the object that it was made for, whatever it is carried out on. -/
theorem resourceVersion_leads {kind : Kind} {current modified : kind.Object} {version : String}
    (hcurrent : (kind.metadata current).resourceVersion = some version)
    (hmodified : (kind.metadata modified).resourceVersion = some version)
    (hne : diffPatch current modified ≠ []) {doc after : Json}
    (h : Json.Leads (diffPatch current modified) doc after) :
    Memory.resourceVersion after = .str version := by
  rcases diffPatch_eq current modified with ⟨hnil, -⟩ | heq
  · exact absurd hnil hne
  · rw [heq, hcurrent] at h
    obtain ⟨mid, hpin, hrest⟩ := Json.Leads.cons_iff.1 h
    have hspares := spares_diff_encode (hmodified.trans hcurrent.symm)
    exact (hrest.getD_getD hspares).trans (resourceVersion_pin hpin)

end PgOperator
