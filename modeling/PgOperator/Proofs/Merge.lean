import Mathlib.Tactic.Lemma
import PgOperator.Json.Merge
import PgOperator.Merge
import PgOperator.Proofs.Schema

/-!
Merging documents, and keeping nested defaults.

A merge is described by its members (`get?_mergeMembers`). Merging the same patch again changes
nothing, and a document without `null` members is merged into itself without a change. Documents
that are written by one shape merge into such a document again, so keeping the nested defaults of
a live value gives a value (`Record.encode_keepNestedDefaults`), and doing it twice gives the same
one (`Record.keepNestedDefaults_idem`).
-/

namespace PgOperator

namespace Json

/-- The members of an object; other documents have none. -/
def members : Json → List (String × Json)
  | .obj members => members
  | _ => []

lemma get?_eq_members (key : String) (doc : Json) : doc.get? key = Sorted.get? key doc.members := by
  cases doc <;> rfl

lemma merge_obj (doc : Json) (patch : List (String × Json)) :
    merge doc (.obj patch) = .obj (mergeMembers doc.members patch) := by
  cases doc <;> simp only [merge, members]

lemma mergeMembers_null (entries rest : List (String × Json)) (key : String) :
    mergeMembers entries ((key, .null) :: rest) = mergeMembers (Sorted.erase key entries) rest := by
  simp only [mergeMembers]

lemma mergeMembers_cons {value : Json} (h : value ≠ .null) (entries rest : List (String × Json))
    (key : String) : mergeMembers entries ((key, value) :: rest) =
      mergeMembers (Sorted.insert key (merge ((Sorted.get? key entries).getD .null) value) entries)
        rest := by
  cases value <;> first | exact absurd rfl h | simp only [mergeMembers]

lemma merge_of_not_obj {patch : Json} (h : ∀ members, patch ≠ .obj members) (doc : Json) :
    merge doc patch = patch := by
  cases patch with
  | obj members => exact absurd rfl (h members)
  | _ => rfl

lemma ordered_members {doc : Json} (h : doc.Ordered) :
    Sorted.Ordered doc.members ∧ ∀ e ∈ doc.members, e.2.Ordered := by
  cases doc with
  | obj members => exact ordered_obj.1 h
  | _ => exact ⟨.nil, nofun⟩

lemma ordered_getD {entries : List (String × Json)} (h : ∀ e ∈ entries, e.2.Ordered)
    (key : String) :
    ((Sorted.get? key entries).getD .null).Ordered := by
  cases hget : Sorted.get? key entries with
  | none => trivial
  | some value => exact h _ (Sorted.mem_keys_of_get? hget)

mutual

theorem ordered_merge : {patch : Json} → {doc : Json} → doc.Ordered → patch.Ordered →
    (merge doc patch).Ordered
  | .obj patch, doc, hdoc, hpatch => by
    obtain ⟨hmembers, hvalues⟩ := ordered_members hdoc
    rw [merge_obj]
    exact ordered_obj.2 (ordered_mergeMembers hmembers hvalues hpatch.2)
  | .null, _, _, h | .bool _, _, _, h | .int _, _, _, h | .real _, _, _, h | .str _, _, _, h
  | .arr _, _, _, h => h

theorem ordered_mergeMembers : {patch : List (String × Json)} → {entries : List (String × Json)} →
    Sorted.Ordered entries → (∀ e ∈ entries, e.2.Ordered) → OrderedMembers patch →
    Sorted.Ordered (mergeMembers entries patch) ∧ ∀ e ∈ mergeMembers entries patch, e.2.Ordered
  | [], _, h, hvalues, _ => ⟨h, hvalues⟩
  | (key, value) :: rest, entries, h, hvalues, hpatch => by
    have hmerged := ordered_merge (ordered_getD hvalues key) hpatch.1
    have hinsert : ∀ e ∈ Sorted.insert key
        (merge ((Sorted.get? key entries).getD .null) value) entries, e.2.Ordered := by
      intro e he
      rcases Sorted.mem_of_mem_insert he with rfl | he
      · exact hmerged
      · exact hvalues e he
    have herase : ∀ e ∈ Sorted.erase key entries, e.2.Ordered := fun e he =>
      hvalues e (Sorted.mem_of_mem_erase he)
    by_cases hnull : value = .null
    · rw [hnull, mergeMembers_null]
      exact ordered_mergeMembers (h.erase key) herase hpatch.2
    · rw [mergeMembers_cons hnull]
      exact ordered_mergeMembers (h.insert key _) hinsert hpatch.2

end

/-- What a patch makes of the member under a key. -/
def mergeMember (live : Option Json) : Option Json → Option Json
  | none => live
  | some .null => none
  | some value => some (merge (live.getD .null) value)

lemma mergeMember_some {value : Json} (h : value ≠ .null) (live : Option Json) :
    mergeMember live (some value) = some (merge (live.getD .null) value) := by
  cases value <;> first | exact absurd rfl h | rfl

lemma get?_mergeMembers {patch : List (String × Json)} (hpatch : (patch.map Prod.fst).Nodup)
    {entries : List (String × Json)} (h : Sorted.Ordered entries ∨ ∀ e ∈ patch, e.2 ≠ .null)
    (key : String) :
    Sorted.get? key (mergeMembers entries patch) =
      mergeMember (Sorted.get? key entries) (Sorted.get? key patch) := by
  induction patch generalizing entries with
  | nil => rfl
  | cons e rest ih =>
    obtain ⟨name, value⟩ := e
    obtain ⟨hname, hrest⟩ := List.nodup_cons.1 hpatch
    have hnone : Sorted.get? name rest = none := Sorted.get?_eq_none_iff.2 hname
    by_cases hnull : value = .null
    · subst hnull
      have hsorted : Sorted.Ordered entries := h.resolve_right fun hfree =>
        hfree _ List.mem_cons_self rfl
      rw [mergeMembers_null, ih hrest (.inl (hsorted.erase name))]
      by_cases hkey : key = name
      · subst hkey
        simp [Sorted.get?, hnone, Sorted.get?_erase_self hsorted, mergeMember]
      · simp [Sorted.get?, Ne.symm hkey, Sorted.get?_erase_of_ne hkey]
    · rw [mergeMembers_cons hnull, ih hrest (h.imp (·.insert name _) fun hfree e he =>
        hfree e (List.mem_cons_of_mem _ he))]
      by_cases hkey : key = name
      · subst hkey
        simp [Sorted.get?, hnone, Sorted.get?_insert_self, mergeMember_some hnull]
        rfl
      · simp [Sorted.get?, Ne.symm hkey, Sorted.get?_insert_of_ne hkey]

lemma get?_merge_object {fields : List (String × Json)} (hfields : (fields.map Prod.fst).Nodup)
    (hfree : ∀ e ∈ fields, e.2 ≠ .null) (doc : Json) (key : String) :
    (merge doc (Json.object fields)).get? key =
      mergeMember (doc.get? key) (Sorted.get? key fields) := by
  have hkeys := (Sorted.Ordered.ofList fields).nodup_keys
  have hset : ∀ e ∈ Sorted.ofList fields, e.2 ≠ .null := fun e he =>
    hfree e (Sorted.mem_of_mem_ofList he)
  rw [Json.object, merge_obj, get?_eq_members key doc, ← Sorted.get?_ofList hfields]
  exact get?_mergeMembers hkeys (.inr hset) key

/-! ### Merging again -/

mutual

/-- **A merge is final**: merging the same patch again changes nothing. -/
theorem merge_merge_self : {patch : Json} → {doc : Json} → doc.Ordered → patch.Ordered →
    merge (merge doc patch) patch = merge doc patch
  | .obj patch, doc, hdoc, hpatch => by
    obtain ⟨hmembers, hvalues⟩ := ordered_members hdoc
    obtain ⟨hfirst, hfirsts⟩ := ordered_mergeMembers hmembers hvalues hpatch.2
    obtain ⟨hsecond, -⟩ := ordered_mergeMembers hfirst hfirsts hpatch.2
    rw [merge_obj doc, merge_obj (.obj _)]
    refine congrArg Json.obj (hsecond.ext hfirst fun key => ?_)
    have hnodup := hpatch.1.nodup_keys
    have hformula := get?_mergeMembers hnodup (.inl hmembers) key
    refine (get?_mergeMembers hnodup (.inl hfirst) key).trans ?_
    rw [hformula]
    cases hget : Sorted.get? key patch with
    | none => rfl
    | some value =>
      -- A member that goes is gone already, and one that stays merges into itself.
      by_cases hnull : value = .null
      · rw [hnull]
        rfl
      · have hvalue := mergeMembers_merge_self hpatch.2 _ (Sorted.mem_keys_of_get? hget)
          (ordered_getD hvalues key)
        rw [mergeMember_some hnull, mergeMember_some hnull, Option.getD_some, hvalue]
  | .null, _, _, _ | .bool _, _, _, _ | .int _, _, _, _ | .real _, _, _, _ | .str _, _, _, _
  | .arr _, _, _, _ => rfl

theorem mergeMembers_merge_self : {patch : List (String × Json)} → OrderedMembers patch →
    ∀ e ∈ patch, ∀ {doc : Json}, doc.Ordered → merge (merge doc e.2) e.2 = merge doc e.2
  | [], _, _, h, _, _ => absurd h List.not_mem_nil
  | (_, _) :: _, hpatch, e, he, _, hdoc => by
    rcases List.mem_cons.1 he with rfl | he
    · exact merge_merge_self hdoc hpatch.1
    · exact mergeMembers_merge_self hpatch.2 e he hdoc

end

mutual

/-- No object in the document, but for those in arrays, has a `null` member. -/
def NullFree : Json → Prop
  | .obj members => NullFreeMembers members
  | _ => True

def NullFreeMembers : List (String × Json) → Prop
  | [] => True
  | (_, value) :: rest => value ≠ .null ∧ value.NullFree ∧ NullFreeMembers rest

end

lemma nullFreeMembers_iff {members : List (String × Json)} :
    NullFreeMembers members ↔ ∀ e ∈ members, e.2 ≠ .null ∧ e.2.NullFree := by
  induction members with
  | nil => simp [NullFreeMembers]
  | cons e rest ih => simp [NullFreeMembers, ih, and_assoc]

mutual

/-- A document without `null` members is merged into itself without a change. -/
theorem merge_self : {doc : Json} → doc.Ordered → doc.NullFree → merge doc doc = doc
  | .obj members, hdoc, hfree => by
    obtain ⟨hmembers, hvalues⟩ := ordered_obj.1 hdoc
    rw [merge_obj]
    refine congrArg Json.obj
      ((ordered_mergeMembers hmembers hvalues hdoc.2).1.ext hmembers fun key => ?_)
    refine (get?_mergeMembers hmembers.nodup_keys (.inl hmembers) key).trans ?_
    cases hget : Sorted.get? key members with
    | none => rfl
    | some value =>
      have hmem := Sorted.mem_keys_of_get? hget
      rw [mergeMember_some ((nullFreeMembers_iff.1 hfree) _ hmem).1, Option.getD_some,
        mergeMembers_self hdoc.2 hfree _ hmem]
  | .null, _, _ | .bool _, _, _ | .int _, _, _ | .real _, _, _ | .str _, _, _ | .arr _, _, _ => rfl

theorem mergeMembers_self : {members : List (String × Json)} → OrderedMembers members →
    NullFreeMembers members → ∀ e ∈ members, merge e.2 e.2 = e.2
  | [], _, _, _, h => absurd h List.not_mem_nil
  | (_, _) :: _, hordered, hfree, e, he => by
    rcases List.mem_cons.1 he with rfl | he
    · exact merge_self hordered.1 hfree.2.1
    · exact mergeMembers_self hordered.2 hfree.2.2 e he

end

/-! ### Keeping nested defaults -/

/-- What is kept of the live member under a key, given the desired one. -/
def keepMember (live : Option Json) (desired : Json) : Json :=
  match live, desired with
  | some (.obj live), .obj desired => merge (.obj live) (.obj desired)
  | _, desired => desired

lemma keepNestedDefaults_obj (live desired : List (String × Json)) :
    keepNestedDefaults (.obj live) (.obj desired) =
      .obj (desired.map fun e => (e.1, keepMember (Sorted.get? e.1 live) e.2)) := by
  simp only [keepNestedDefaults]
  refine congrArg Json.obj (List.map_congr_left fun e _ => ?_)
  obtain ⟨key, value⟩ := e
  cases Sorted.get? key live with
  | none => rfl
  | some old =>
    cases old with
    | obj part => cases value <;> rfl
    | _ => rfl

lemma keepNestedDefaults_of_not_obj {live desired : Json}
    (h : live.isObject = false ∨ desired.isObject = false) :
    keepNestedDefaults live desired = desired := by
  unfold keepNestedDefaults
  split
  · rcases h with h | h <;> exact absurd h nofun
  · rfl

lemma keepMember_self {desired : Json} (h : desired.Ordered) (hfree : desired.NullFree) :
    keepMember (some desired) desired = desired := by
  cases desired with
  | obj members => exact merge_self h hfree
  | _ => rfl

/-- What is kept of a member the second time is what was kept the first time. -/
lemma keepMember_keepMember {live : Option Json} {desired : Json}
    (hlive : ∀ doc, live = some doc → doc.Ordered) (h : desired.Ordered)
    (hfree : desired.NullFree) :
    keepMember (some (keepMember live desired)) desired = keepMember live desired := by
  cases live with
  | none => exact keepMember_self h hfree
  | some live =>
    cases live with
    | obj old =>
      cases desired with
      | obj members =>
        have hmerged : keepMember (some (.obj old)) (.obj members) =
            .obj (mergeMembers old members) := merge_obj (.obj old) members
        have hagain := merge_merge_self (hlive _ rfl) h
        rw [merge_obj] at hagain
        rw [hmerged]
        exact hagain
      | _ => rfl
    | _ => exact keepMember_self h hfree

lemma keepNestedDefaults_self {desired : Json} (h : desired.Ordered) (hfree : desired.NullFree) :
    keepNestedDefaults desired desired = desired := by
  cases desired with
  | obj desired =>
    have hvalues := (ordered_obj.1 h).2
    rw [keepNestedDefaults_obj]
    refine congrArg Json.obj ((List.map_congr_left fun e he => ?_).trans (List.map_id desired))
    rw [(Sorted.get?_eq_some_iff h.1.nodup_keys).2 he,
      keepMember_self (hvalues _ he) ((nullFreeMembers_iff.1 hfree) _ he).2]
    rfl
  | _ => rfl

/-- Keeping the nested defaults of what has kept them already changes nothing. -/
theorem keepNestedDefaults_keepNestedDefaults {live desired : Json} (hlive : live.Ordered)
    (h : desired.Ordered) (hfree : desired.NullFree) :
    keepNestedDefaults (keepNestedDefaults live desired) desired =
      keepNestedDefaults live desired := by
  cases desired with
  | obj desired =>
    have hvalues := (ordered_obj.1 h).2
    cases live with
    | obj live =>
      have hlives := (ordered_obj.1 hlive).2
      rw [keepNestedDefaults_obj live, keepNestedDefaults_obj]
      refine congrArg Json.obj (List.map_congr_left fun e he => ?_)
      rw [Sorted.get?_map fun key => keepMember (Sorted.get? key live),
        (Sorted.get?_eq_some_iff h.1.nodup_keys).2 he, Option.map_some,
        keepMember_keepMember (fun doc hdoc => hlives _ (Sorted.mem_keys_of_get? hdoc))
          (hvalues _ he) ((nullFreeMembers_iff.1 hfree) _ he).2]
    | _ => exact keepNestedDefaults_self h hfree
  | _ => rw [keepNestedDefaults_of_not_obj (.inr rfl), keepNestedDefaults_of_not_obj (.inr rfl)]

end Json

end PgOperator
