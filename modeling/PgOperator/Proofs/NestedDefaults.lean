import Mathlib.Tactic.Lemma
import PgOperator.Proofs.Merge

/-!
Keeping nested defaults of values.

Two documents written by one shape merge into a document that the shape writes, field by field:
`Combination.Closed` says this of one way of putting two members together. So keeping the nested
defaults of a live value gives a value whose written form is what was kept of the documents, and
keeping them again changes nothing.
-/

namespace PgOperator

/-! ### Shapes whose documents can be put together -/

/-- Whether a field of a value that has it is always written. -/
def Presence.shown : Presence → Bool
  | .defaulted _ hidden => !hidden
  | _ => true

mutual

/-- Whether all fields that have values are written, at whatever depth. -/
def Shape.shown : Shape → Bool
  | .list _ => true
  | .dict item | .hidden item => item.shown
  | .record _ fields => fields.names.Nodup ∧ fields.shown
  | _ => true

def Fields.shown : Fields → Bool
  | .nil => true
  | .const _ _ _ rest => rest.shown
  | .field _ presence shape rest => presence.shown && shape.shown && rest.shown

end

mutual

/-- Whether no document of the shape has a `null` member, but within arrays. -/
def Shape.nullFree : Shape → Bool
  | .free => false
  | .dict item | .hidden item => item.nullFree
  | .record _ fields => fields.nullFree
  | _ => true

def Fields.nullFree : Fields → Bool
  | .nil => true
  | .const _ _ _ rest => rest.nullFree
  | .field _ _ shape rest => shape.nullFree && rest.nullFree

end

lemma Presence.mem_encode {α : Type} {write : α → Json} {name : String} {presence : Presence}
    {value : presence.Val α} {e : String × Json} (h : e ∈ presence.encode write name value) :
    ∃ part, e.2 = write part := by
  cases presence with
  | optional =>
    cases value with
    | none => exact absurd h List.not_mem_nil
    | some part => exact ⟨part, by rw [List.mem_singleton.1 h]⟩
  | defaulted document hidden =>
    rw [encode] at h
    split at h
    · exact absurd h List.not_mem_nil
    · exact ⟨value, by rw [List.mem_singleton.1 h]⟩
  | _ => exact ⟨value, by rw [List.mem_singleton.1 h]⟩

mutual

theorem Shape.nullFree_encode : (shape : Shape) → shape.nullFree = true → (value : shape.Val) →
    (shape.encode value).NullFree
  | .text, _, _ | .flag, _, _ | .int32, _, _ | .int64, _, _ | .instant, _, _ | .choice _ _, _, _
  | .list _, _, _ => trivial
  | .intOrText, _, .int _ | .intOrText, _, .text _ => trivial
  | .free, h, _ => absurd h nofun
  | .dict item, h, dict => by
    refine Json.nullFreeMembers_iff.2 fun e he => ?_
    obtain ⟨entry, -, rfl⟩ := List.mem_map.1 he
    exact ⟨item.encode_ne_null entry.2, item.nullFree_encode h entry.2⟩
  | .record _ fields, h, value =>
    Json.nullFreeMembers_iff.2 fun e he =>
      fields.nullFree_encode h value e (Sorted.mem_of_mem_ofList he)
  | .hidden shape, h, value => shape.nullFree_encode h value

theorem Fields.nullFree_encode : (fields : Fields) → fields.nullFree = true → (value : fields.Val) →
    ∀ e ∈ fields.encode value, e.2 ≠ .null ∧ e.2.NullFree
  | .nil, _, _ => by simp [Fields.encode]
  | .const _ _ _ rest, h, value => by
    simpa [Fields.encode, Json.NullFree] using rest.nullFree_encode h value
  | .field _ presence shape rest, h, value => by
    obtain ⟨hshape, hrest⟩ := Bool.and_eq_true_iff.1 h
    intro e he
    rcases List.mem_append.1 he with he | he
    · obtain ⟨part, hpart⟩ := presence.mem_encode he
      rw [hpart]
      exact ⟨shape.encode_ne_null part, shape.nullFree_encode hshape part⟩
    · exact rest.nullFree_encode hrest value.2 e he

end

/-! ### Putting members together -/

/-- A way to put a live member and a desired one together. Without a desired member either the
live one stays or there is none. -/
structure Combination where
  apply : Option Json → Option Json → Option Json
  without : (∀ live, apply live none = live) ∨ ∀ live, apply live none = none
  text : ∀ live text, apply live (some (.str text)) = some (.str text)

namespace Combination

/-- Merging the desired member into the live one. -/
def merging : Combination where
  apply := Json.mergeMember
  without := .inl fun _ => rfl
  text := fun _ _ => rfl

/-- Keeping the nested defaults of the live member. -/
def keeping : Combination where
  apply live desired := desired.map (Json.keepMember live)
  without := .inr fun _ => rfl
  text live text := by cases live with
    | none => rfl
    | some doc => cases doc <;> rfl

/-- Written values are put together to a written value. -/
def Closed {α : Type} (g : Combination) (write : α → Json) : Prop :=
  ∀ (live : Option α) desired, ∃ both,
    g.apply (live.map write) (some (write desired)) = some (write both)

end Combination

lemma Presence.get?_encode {α : Type} {write : α → Json} (name : String) (presence : Presence)
    (value : presence.Val α) :
    ∃ part : Option α, Sorted.get? name (presence.encode write name value) = part.map write := by
  cases presence with
  | optional =>
    cases value with
    | none => exact ⟨none, rfl⟩
    | some part => exact ⟨some part, if_pos rfl⟩
  | defaulted document hidden =>
    rw [encode]
    split
    · exact ⟨none, rfl⟩
    · exact ⟨some value, if_pos rfl⟩
  | _ => exact ⟨some value, if_pos rfl⟩

lemma Presence.exists_encode {α : Type} {write : α → Json} {g : Combination} (hg : g.Closed write)
    (name : String) {presence : Presence} (hshown : presence.shown = true)
    (live : Option (presence.Val α)) (desired : presence.Val α) :
    ∃ both, Sorted.get? name (presence.encode write name both) =
      g.apply (live.bind fun live => Sorted.get? name (presence.encode write name live))
        (Sorted.get? name (presence.encode write name desired)) := by
  -- What is live is a written part or nothing, so that both sides come from values of the shape.
  have hlive : ∃ part : Option α, (live.bind fun live =>
      Sorted.get? name (presence.encode write name live)) = part.map write := by
    cases live with
    | none => exact ⟨none, rfl⟩
    | some live => exact presence.get?_encode name live
  obtain ⟨part, hpart⟩ := hlive
  rw [hpart]
  have hself : ∀ value, Sorted.get? name [(name, write value)] = some (write value) := fun _ =>
    if_pos rfl
  cases presence with
  | optional =>
    cases desired with
    | none =>
      rcases g.without with h | h
      · refine ⟨part, .trans ?_ (h _).symm⟩
        cases part with
        | none => rfl
        | some part => exact hself part
      · exact ⟨none, (h _).symm⟩
    | some desired =>
      obtain ⟨both, hboth⟩ := hg part desired
      exact ⟨some both, (hself both).trans (hboth.symm.trans (congrArg _ (hself desired).symm))⟩
  | defaulted document hidden =>
    obtain rfl : hidden = false := by simpa [shown] using hshown
    obtain ⟨both, hboth⟩ := hg part desired
    exact ⟨both, (hself both).trans (hboth.symm.trans (congrArg _ (hself desired).symm))⟩
  | _ =>
    obtain ⟨both, hboth⟩ := hg part desired
    exact ⟨both, (hself both).trans (hboth.symm.trans (congrArg _ (hself desired).symm))⟩

/-- Whether the values of every field are put together to one of the field's values. -/
def Fields.Closed (g : Combination) : Fields → Prop
  | .nil => True
  | .const _ _ _ rest => rest.Closed g
  | .field _ presence shape rest => presence.shown = true ∧ g.Closed shape.encode ∧ rest.Closed g

lemma Combination.apply_none_none (g : Combination) : g.apply none none = none := by
  rcases g.without with h | h <;> exact h none

/-- A record of which two written forms are put together, member by member, is written as the
result. -/
theorem Fields.exists_encode {g : Combination} : (fields : Fields) → fields.names.Nodup →
    fields.Closed g → (live : Option fields.Val) → (desired : fields.Val) →
    ∃ both, ∀ name, Sorted.get? name (fields.encode both) =
      g.apply (live.bind fun live => Sorted.get? name (fields.encode live))
        (Sorted.get? name (fields.encode desired))
  | .nil, _, _, live, _ => ⟨(), fun name => by
    cases live <;> exact g.apply_none_none.symm⟩
  | .const name text _ rest, hnames, hg, live, desired => by
    obtain ⟨both, hboth⟩ := rest.exists_encode (List.nodup_cons.1 hnames).2 hg live desired
    refine ⟨both, fun key => ?_⟩
    by_cases hkey : name = key
    · simp only [Fields.encode, Sorted.get?, if_pos hkey, g.text]
    · simpa only [Fields.encode, Sorted.get?, if_neg hkey] using hboth key
  | .field name presence shape rest, hnames, hg, live, desired => by
    obtain ⟨hname, hrest⟩ := List.nodup_cons.1 hnames
    obtain ⟨first, hfirst⟩ :=
      presence.exists_encode hg.2.1 name hg.1 (live.map Prod.fst) desired.1
    obtain ⟨others, hothers⟩ := rest.exists_encode hrest hg.2.2 (live.map Prod.snd) desired.2
    refine ⟨(first, others), fun key => ?_⟩
    simp only [Fields.encode, Sorted.get?_append]
    by_cases hkey : key = name
    · subst hkey
      simp only [rest.get?_encode_of_not_mem hname, Option.or_none, hfirst]
      cases live <;> rfl
    · simp only [presence.get?_encode_of_ne hkey, Option.none_or, hothers]
      cases live <;> rfl

/-! ### Merging what a shape has written -/

lemma Combination.merging_apply {value : Json} (h : value ≠ .null) (live : Option Json) :
    merging.apply live (some value) = some (Json.merge (live.getD .null) value) :=
  Json.mergeMember_some h live

lemma Combination.closed_merging_of_not_obj {shape : Shape}
    (h : ∀ value, (shape.encode value).isObject = false) : merging.Closed shape.encode := by
  intro live desired
  refine ⟨desired, ?_⟩
  rw [merging_apply (shape.encode_ne_null desired), Json.merge_of_not_obj]
  intro members heq
  have := h desired
  rw [heq] at this
  exact absurd this nofun

lemma exists_dict_merge {α : Type} {write : α → Json} (hnull : ∀ value, write value ≠ .null)
    (hclosed : Combination.merging.Closed write) (desired : List (String × α)) (live : Dict α) :
    ∃ both : Dict α, both.entries.map (fun e => (e.1, write e.2)) =
      Json.mergeMembers (live.entries.map fun e => (e.1, write e.2))
        (desired.map fun e => (e.1, write e.2)) := by
  induction desired generalizing live with
  | nil => exact ⟨live, rfl⟩
  | cons e rest ih =>
    obtain ⟨value, hvalue⟩ := hclosed (live.get? e.1) e.2
    rw [Combination.merging_apply (hnull _)] at hvalue
    obtain ⟨both, hboth⟩ := ih (live.insert e.1 value)
    refine ⟨both, hboth.trans ?_⟩
    rw [List.map_cons, Json.mergeMembers_cons (hnull _), Sorted.get?_map fun _ => write]
    show _ = Json.mergeMembers (Sorted.insert e.1
      (Json.merge (((live.get? e.1).map write).getD .null) (write e.2)) _) _
    rw [Option.some.inj hvalue, Sorted.insert_map]
    rfl

lemma closed_merging_free : Combination.merging.Closed (Shape.encode .free) := by
  intro live desired
  have hlive : ((live.map (Shape.encode .free)).getD .null).Ordered := by
    cases live with
    | none => trivial
    | some live => exact Shape.ordered_encode .free live
  refine ⟨⟨Json.merge ((live.map (Shape.encode .free)).getD .null) desired.1, ?_,
    Json.ordered_merge hlive desired.2.2⟩, Combination.merging_apply desired.2.1 _⟩
  obtain ⟨doc, hnull, -⟩ := desired
  cases doc with
  | obj members =>
    rw [Json.merge_obj]
    exact nofun
  | null => exact absurd rfl hnull
  | _ => exact nofun

/-- Merging a written record into a written one gives a written one. -/
lemma closed_merging_record {fields : Fields} (hnames : fields.names.Nodup)
    (h : fields.Closed Combination.merging) (heading : Heading) :
    Combination.merging.Closed (Shape.encode (.record heading fields)) := by
  intro live desired
  obtain ⟨both, hboth⟩ := fields.exists_encode hnames h live desired
  refine ⟨both, (Combination.merging_apply
    (Shape.encode_ne_null (.record heading fields) desired) _).trans (congrArg some ?_)⟩
  -- Both sides are objects in order with the same members.
  have hordered : Sorted.Ordered (((live.map (Shape.encode (.record heading fields))).getD
      .null).members) := by
    cases live with
    | none => exact .nil
    | some live => exact Sorted.Ordered.ofList _
  have hvalues : ∀ e ∈ ((live.map (Shape.encode (.record heading fields))).getD .null).members,
      e.2.Ordered := by
    cases live with
    | none => exact nofun
    | some live =>
      exact (Json.ordered_obj.1 (Shape.ordered_encode (.record heading fields) live)).2
  have hdesired := Shape.ordered_encode (.record heading fields) desired
  refine (Json.merge_obj _ _).trans (congrArg Json.obj ?_)
  refine (Json.ordered_mergeMembers hordered hvalues hdesired.2).1.ext (Sorted.Ordered.ofList _)
    fun key => ?_
  rw [Json.get?_mergeMembers (Sorted.Ordered.ofList _).nodup_keys (.inl hordered)]
  have hmember : Sorted.get? key
      ((live.map (Shape.encode (.record heading fields))).getD .null).members =
        live.bind fun live => Sorted.get? key (fields.encode live) := by
    cases live with
    | none => rfl
    | some live => exact fields.get?_object_encode hnames live key
  rw [hmember]
  exact .trans (congrArg _ (fields.get?_object_encode hnames desired key))
    ((hboth key).symm.trans (fields.get?_object_encode hnames both key).symm)

mutual

theorem Shape.closed_merging : (shape : Shape) → shape.shown = true →
    Combination.merging.Closed shape.encode
  | .text, _ => Combination.closed_merging_of_not_obj fun _ => rfl
  | .flag, _ => Combination.closed_merging_of_not_obj fun _ => rfl
  | .int32, _ => Combination.closed_merging_of_not_obj fun _ => rfl
  | .int64, _ => Combination.closed_merging_of_not_obj fun _ => rfl
  | .instant, _ => Combination.closed_merging_of_not_obj fun _ => rfl
  | .choice _ _, _ => Combination.closed_merging_of_not_obj fun _ => rfl
  | .list _, _ => Combination.closed_merging_of_not_obj fun _ => rfl
  | .intOrText, _ => Combination.closed_merging_of_not_obj fun
    | .int _ => rfl
    | .text _ => rfl
  | .free, _ => closed_merging_free
  | .dict item, h => by
    intro live desired
    obtain ⟨both, hboth⟩ := exists_dict_merge item.encode_ne_null (item.closed_merging h)
      desired.entries (live.getD .empty)
    refine ⟨both, (Combination.merging_apply (Shape.encode_ne_null (.dict item) desired) _).trans
      (congrArg some ?_)⟩
    refine (Json.merge_obj _ _).trans (congrArg Json.obj (.trans ?_ hboth.symm))
    cases live <;> rfl
  | .record heading fields, h => by
    have h : decide (fields.names.Nodup ∧ fields.shown = true) = true := h
    obtain ⟨hnames, hfields⟩ := of_decide_eq_true h
    exact closed_merging_record hnames (fields.closed_merging hfields) heading
  | .hidden shape, h => shape.closed_merging h

theorem Fields.closed_merging : (fields : Fields) → fields.shown = true →
    fields.Closed Combination.merging
  | .nil, _ => trivial
  | .const _ _ _ rest, h => rest.closed_merging h
  | .field _ presence shape rest, h => by
    obtain ⟨hfirst, hrest⟩ := Bool.and_eq_true_iff.1 h
    obtain ⟨hpresence, hshape⟩ := Bool.and_eq_true_iff.1 hfirst
    exact ⟨hpresence, shape.closed_merging hshape, rest.closed_merging hrest⟩

end

/-! ### Keeping the nested defaults of values -/

lemma Json.keepMember_some (live desired : Json) : keepMember (some live) desired =
    if live.isObject ∧ desired.isObject then merge live desired else desired := by
  cases live with
  | obj members => cases desired <;> rfl
  | _ => rfl

lemma Shape.closed_keeping {shape : Shape} (h : shape.shown = true) :
    Combination.keeping.Closed shape.encode := by
  intro live desired
  cases live with
  | none => exact ⟨desired, rfl⟩
  | some live =>
    have hkept : Combination.keeping.apply ((some live).map shape.encode)
        (some (shape.encode desired)) =
          some (Json.keepMember (some (shape.encode live)) (shape.encode desired)) := rfl
    rw [hkept, Json.keepMember_some]
    split
    · obtain ⟨both, hboth⟩ := shape.closed_merging h (some live) desired
      rw [Combination.merging_apply (shape.encode_ne_null desired)] at hboth
      exact ⟨both, hboth⟩
    · exact ⟨desired, rfl⟩

lemma Fields.closed_keeping : (fields : Fields) → fields.shown = true →
    fields.Closed Combination.keeping
  | .nil, _ => trivial
  | .const _ _ _ rest, h => rest.closed_keeping h
  | .field _ presence shape rest, h => by
    obtain ⟨hfirst, hrest⟩ := Bool.and_eq_true_iff.1 h
    obtain ⟨hpresence, hshape⟩ := Bool.and_eq_true_iff.1 hfirst
    exact ⟨hpresence, Shape.closed_keeping hshape, rest.closed_keeping hrest⟩

/-- A structure of which written forms can be put together. -/
structure Record.Mergeable (α : Type) [Record α] : Prop where
  wellNamed : (Record.shape α).wellNamed = true
  shown : (Record.shape α).shown = true
  nullFree : (Record.shape α).nullFree = true

namespace Record

variable {α : Type} [Record α]

lemma Mergeable.exists_encode (h : Mergeable α) (live desired : α) :
    ∃ both : α, encode both = (encode live).keepNestedDefaults (encode desired) := by
  have hshown : decide ((fields α).names.Nodup ∧ (fields α).shown = true) = true := h.shown
  obtain ⟨hnames, hfields⟩ := of_decide_eq_true hshown
  obtain ⟨both, hboth⟩ := (fields α).exists_encode hnames ((fields α).closed_keeping hfields)
    (some (toVal live)) (toVal desired)
  refine ⟨ofVal both, ?_⟩
  refine .trans ?_ (Json.keepNestedDefaults_obj _ _).symm
  rw [encode, toVal_ofVal]
  refine congrArg Json.obj ((Sorted.Ordered.ofList _).ext ((Sorted.Ordered.ofList _).map
    fun key => Json.keepMember (Sorted.get? key _)) fun key => ?_)
  rw [Sorted.get?_map fun key => Json.keepMember (Sorted.get? key _)]
  have hlive := (fields α).get?_object_encode hnames (toVal live) key
  have hdesired := (fields α).get?_object_encode hnames (toVal desired) key
  refine (((fields α).get?_object_encode hnames both key).trans (hboth key)).trans ?_
  show ((Sorted.get? key _).map (Json.keepMember (Sorted.get? key _))) = _
  rw [← hlive, ← hdesired]
  rfl

/-- The written form of what is kept is what is kept of the written forms. -/
theorem Mergeable.encode_keepNestedDefaults (h : Mergeable α) (live desired : α) :
    encode (keepNestedDefaults live desired) =
      (encode live).keepNestedDefaults (encode desired) := by
  obtain ⟨both, hboth⟩ := h.exists_encode live desired
  rw [keepNestedDefaults, ← hboth, decode_encode h.wellNamed, Option.getD_some, encode_whole]

lemma Mergeable.whole_keepNestedDefaults (h : Mergeable α) (live desired : α) :
    Whole (keepNestedDefaults live desired) := by
  obtain ⟨both, hboth⟩ := h.exists_encode live desired
  rw [keepNestedDefaults, ← hboth, decode_encode h.wellNamed, Option.getD_some]
  exact whole_whole h.wellNamed both

/-- **What was kept stays**: keeping the nested defaults of the result changes nothing. -/
theorem Mergeable.keepNestedDefaults_idem (h : Mergeable α) (live desired : α) :
    keepNestedDefaults (keepNestedDefaults live desired) desired =
      keepNestedDefaults live desired := by
  refine eq_of_encode_eq h.wellNamed (h.whole_keepNestedDefaults _ _)
    (h.whole_keepNestedDefaults _ _) ?_
  rw [h.encode_keepNestedDefaults, h.encode_keepNestedDefaults]
  exact Json.keepNestedDefaults_keepNestedDefaults (ordered_encode live) (ordered_encode desired)
    ((shape α).nullFree_encode h.nullFree (toVal desired))

/-- A value has its own nested defaults already. -/
theorem Mergeable.keepNestedDefaults_self (h : Mergeable α) {desired : α} (hw : Whole desired) :
    keepNestedDefaults desired desired = desired := by
  refine eq_of_encode_eq h.wellNamed (h.whole_keepNestedDefaults _ _) hw ?_
  rw [h.encode_keepNestedDefaults]
  exact Json.keepNestedDefaults_self (ordered_encode desired)
    ((shape α).nullFree_encode h.nullFree (toVal desired))

end Record

end PgOperator
