import Mathlib.Tactic.Lemma
import PgOperator.Proofs.Volumes

/-!
What exactly is kept of nested defaults.

A document laid over another one is described by what stands under each path of keys (`LaidOver`):
what the upper document sets is set, and where a path leads out of its objects the lower document
shows. Of two values that are written without `null` the fields that are objects on both sides are
laid over each other in this sense, and all others are the desired ones (`Record.keepsExactly`).
-/

namespace PgOperator

namespace Json

/-! ### Paths of keys -/

/-- The document under a path of keys. A path does not lead into lists. -/
def under? (doc : Json) : List String → Option Json
  | [] => some doc
  | key :: path => (doc.get? key).bind (under? · path)

/-- The path leads to a key that an object of the document does not have. -/
inductive LeavesOpen : Json → List String → Prop where
  | here {members : List (String × Json)} {key : String} {path : List String}
      (h : Sorted.get? key members = none) : LeavesOpen (.obj members) (key :: path)
  | inside {members : List (String × Json)} {key : String} {path : List String} {part : Json}
      (h : Sorted.get? key members = some part) (hpart : LeavesOpen part path) :
      LeavesOpen (.obj members) (key :: path)

/-- What one document laid over another one comes to: the upper one sets all that it has but its
objects, its objects stay objects, and where it leaves a path open the lower one shows. -/
structure LaidOver (lower upper result : Json) : Prop where
  sets : ∀ path value, upper.under? path = some value → value.isObject = false →
    result.under? path = some value
  objects : ∀ path value, upper.under? path = some value → value.isObject = true →
    ∃ part, result.under? path = some part ∧ part.isObject = true
  shows : ∀ path, upper.LeavesOpen path → result.under? path = lower.under? path

variable {upper : Json} {key : String} {path : List String} {value : Json}

lemma exists_of_under?_cons (h : upper.under? (key :: path) = some value) :
    ∃ members part, upper = .obj members ∧ Sorted.get? key members = some part ∧
      part.under? path = some value := by
  obtain ⟨part, hpart, hvalue⟩ := Option.bind_eq_some_iff.1 h
  cases upper with
  | obj members => exact ⟨members, part, rfl, hpart, hvalue⟩
  | _ => exact absurd hpart nofun

lemma LeavesOpen.ne_nil (h : upper.LeavesOpen path) : path ≠ [] := by
  cases h <;> exact List.cons_ne_nil _ _

lemma under?_getD_null (h : path ≠ []) (doc : Option Json) :
    (doc.getD .null).under? path = doc.bind (under? · path) := by
  cases path with
  | nil => exact absurd rfl h
  | cons key path => cases doc <;> rfl

/-! ### Merging -/

variable {members : List (String × Json)}

lemma ordered_of_get? (h : (obj members).Ordered) {part : Json}
    (hpart : Sorted.get? key members = some part) : part.Ordered :=
  (ordered_obj.1 h).2 _ (Sorted.mem_keys_of_get? hpart)

lemma nullFree_of_get? (h : (obj members).NullFree) {part : Json}
    (hpart : Sorted.get? key members = some part) : part.NullFree :=
  ((nullFreeMembers_iff.1 h) _ (Sorted.mem_keys_of_get? hpart)).2

lemma get?_merge_obj (hordered : (obj members).Ordered) (hfree : (obj members).NullFree)
    (lower : Json) (key : String) : (merge lower (.obj members)).get? key =
      mergeMember (lower.get? key) (Sorted.get? key members) := by
  rw [merge_obj, get?_eq_members key lower]
  exact get?_mergeMembers (ordered_obj.1 hordered).1.nodup_keys
    (.inr fun e he => ((nullFreeMembers_iff.1 hfree) e he).1) key

lemma get?_merge_of_some (hordered : (obj members).Ordered) (hfree : (obj members).NullFree)
    {part : Json} (h : Sorted.get? key members = some part) (lower : Json) :
    (merge lower (.obj members)).get? key = some (merge ((lower.get? key).getD .null) part) := by
  have hnull := ((nullFreeMembers_iff.1 hfree) _ (Sorted.mem_keys_of_get? h)).1
  rw [get?_merge_obj hordered hfree, h, mergeMember_some hnull]

lemma get?_merge_of_none (hordered : (obj members).Ordered) (hfree : (obj members).NullFree)
    (h : Sorted.get? key members = none) (lower : Json) :
    (merge lower (.obj members)).get? key = lower.get? key := by
  rw [get?_merge_obj hordered hfree, h]
  rfl

lemma isObject_merge (lower : Json) (h : upper.isObject = true) :
    (merge lower upper).isObject = true := by
  cases upper with
  | obj members =>
    rw [merge_obj]
    rfl
  | _ => exact absurd h nofun

lemma merge_eq_of_isObject (lower : Json) (h : upper.isObject = false) :
    merge lower upper = upper := by
  refine merge_of_not_obj (fun members heq => ?_) lower
  rw [heq] at h
  exact absurd h nofun

/-- **Merging lays a document over another one**, as long as it has no `null` members. -/
theorem laidOver_merge (lower : Json) (hordered : upper.Ordered) (hfree : upper.NullFree) :
    LaidOver lower upper (merge lower upper) where
  sets path value hvalue hleaf := by
    induction path generalizing lower upper with
    | nil =>
      obtain rfl : upper = value := Option.some.inj hvalue
      exact congrArg some (merge_eq_of_isObject lower hleaf)
    | cons key path ih =>
      obtain ⟨members, part, rfl, hpart, hrest⟩ := exists_of_under?_cons hvalue
      rw [under?, get?_merge_of_some hordered hfree hpart, Option.bind_some]
      exact ih _ (ordered_of_get? hordered hpart) (nullFree_of_get? hfree hpart) hrest
  objects path value hvalue hobject := by
    induction path generalizing lower upper with
    | nil =>
      obtain rfl : upper = value := Option.some.inj hvalue
      exact ⟨_, rfl, isObject_merge lower hobject⟩
    | cons key path ih =>
      obtain ⟨members, part, rfl, hpart, hrest⟩ := exists_of_under?_cons hvalue
      rw [under?, get?_merge_of_some hordered hfree hpart, Option.bind_some]
      exact ih _ (ordered_of_get? hordered hpart) (nullFree_of_get? hfree hpart) hrest
  shows path hopen := by
    induction hopen generalizing lower with
    | here h => rw [under?, get?_merge_of_none hordered hfree h, under?]
    | inside h hpart ih =>
      rw [under?, get?_merge_of_some hordered hfree h, Option.bind_some,
        ih _ (ordered_of_get? hordered h) (nullFree_of_get? hfree h),
        under?_getD_null hpart.ne_nil, under?]

/-! ### Fields -/

/-- What is kept of a live document under a desired one: the fields are the desired ones, and of
those that are objects on both sides the desired one is laid over the live one. -/
structure KeepsNested (live desired kept : Json) : Prop where
  keys : kept.members.map Prod.fst = desired.members.map Prod.fst
  plain : ∀ key field, desired.get? key = some field →
    (∀ old, live.get? key = some old → ¬ (old.isObject = true ∧ field.isObject = true)) →
      kept.get? key = some field
  nested : ∀ key old field, live.get? key = some old → desired.get? key = some field →
    old.isObject = true → field.isObject = true →
      ∃ both, kept.get? key = some both ∧ LaidOver old field both

end Json

/-! ### Values -/

namespace Record

variable {α : Type} [Record α]

/-- The nested defaults of a live value are kept exactly: what is kept of the documents reads as a
value, which is written as that and keeps the same when it is live itself. -/
structure KeepsExactly (live desired : α) : Prop where
  reads : decode ((encode live).keepNestedDefaults (encode desired)) =
    some (keepNestedDefaults live desired)
  written : Json.KeepsNested (encode live) (encode desired)
    (encode (keepNestedDefaults live desired))
  again : keepNestedDefaults (keepNestedDefaults live desired) desired =
    keepNestedDefaults live desired

lemma Mergeable.reads (h : Mergeable α) (live desired : α) :
    decode ((encode live).keepNestedDefaults (encode desired)) =
      some (keepNestedDefaults live desired) := by
  obtain ⟨both, hboth⟩ := h.exists_encode live desired
  rw [keepNestedDefaults, ← hboth, decode_encode h.wellNamed, Option.getD_some]

lemma Mergeable.keepsNested (h : Mergeable α) (live desired : α) :
    Json.KeepsNested (encode live) (encode desired)
      (encode (keepNestedDefaults live desired)) where
  keys := by
    rw [h.encode_keepNestedDefaults]
    refine (congrArg (fun doc : Json => doc.members.map Prod.fst)
      (Json.keepNestedDefaults_obj _ _)).trans ?_
    exact List.map_map
  plain key field hfield hlive := by
    rw [h.get?_keepNestedDefaults, hfield]
    cases hold : (encode live).get? key with
    | none => rfl
    | some old => exact congrArg some ((Json.keepMember_some _ _).trans (if_neg (hlive old hold)))
  nested key old field hold hfield holdObject hfieldObject := by
    have hnullFree := (shape α).nullFree_encode h.nullFree (toVal desired)
    refine ⟨Json.merge old field, ?_, Json.laidOver_merge old
      (Json.ordered_of_get? (ordered_encode desired) hfield)
      (Json.nullFree_of_get? hnullFree hfield)⟩
    rw [h.get?_keepNestedDefaults, hfield, hold]
    exact congrArg some
      ((Json.keepMember_some _ _).trans (if_pos ⟨holdObject, hfieldObject⟩))

lemma Mergeable.keepsExactly (h : Mergeable α) (live desired : α) : KeepsExactly live desired :=
  ⟨h.reads live desired, h.keepsNested live desired, h.keepNestedDefaults_idem live desired⟩

end Record

namespace Kube

/-- **Nested defaults are kept exactly** of volumes, claims and containers. -/
theorem nestedDefaults_kept :
    (∀ live desired : Volume, Record.KeepsExactly live desired) ∧
    (∀ live desired : PersistentVolumeClaim, Record.KeepsExactly live desired) ∧
    ∀ live desired : Container, Record.KeepsExactly live desired :=
  ⟨mergeable_volume.keepsExactly, mergeable_claim.keepsExactly, mergeable_container.keepsExactly⟩

end Kube

end PgOperator
