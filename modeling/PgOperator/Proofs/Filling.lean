import Mathlib.Data.List.Forall2
import Mathlib.Tactic.Lemma
import PgOperator.Proofs.Volumes

/-!
Filling in fields that are unset.

A value is `Filled` by another one that has the same fields set, and perhaps more. The document of
the filled value `Extends` the other one, and whatever could be merged into the one without a change
can be merged into the other one without a change (`Json.Extends.merge_eq`). So where top-level
fields stay as they are, nested defaults may be filled in between two merges
(`Record.Mergeable.keepNestedDefaults_filled`).
-/

namespace PgOperator

/-- What is set stays, and what is not set may be. -/
def Fills {α : Type} (old new : Option α) : Prop := ∀ value, old = some value → new = some value

lemma Fills.refl {α : Type} (value : Option α) : Fills value value := fun _ h => h

lemma Fills.or_eq {α : Type} {old new desired : Option α} (h : Fills old new)
    (heq : desired.or old = old) : desired.or new = new := by
  cases desired with
  | none => rfl
  | some value => exact (h value heq.symm).symm

lemma fills_or {α : Type} (value default : Option α) : Fills value (value.or default) := by
  rintro part rfl
  rfl

lemma exists_of_rel_some {α β : Type} {R : α → β → Prop} {a : α} {other : Option β}
    (h : Option.Rel R (some a) other) : ∃ b, other = some b ∧ R a b := by
  cases h with
  | some h => exact ⟨_, rfl, h⟩

section Rel

variable {α : Type} {R : α → α → Prop} {f : α → α}

lemma rel_map (h : ∀ x, R x (f x)) : (value : Option α) → Option.Rel R value (value.map f)
  | none => .none
  | some x => .some (h x)

lemma forall₂_map (h : ∀ x, R x (f x)) (items : List α) : List.Forall₂ R items (items.map f) :=
  List.forall₂_map_right_iff.2 (List.forall₂_same.2 fun x _ => h x)

end Rel

/-! ### Documents -/

namespace Json

/-- The document with further members, at whatever depth of objects. -/
inductive Extends : Json → Json → Prop
  | refl (doc : Json) : Extends doc doc
  | obj {old new : List (String × Json)}
    (keys : ∀ key, Sorted.get? key new = none → Sorted.get? key old = none)
    (members : ∀ key value value', Sorted.get? key old = some value →
      Sorted.get? key new = some value' → Extends value value') :
    Extends (.obj old) (.obj new)

/-- **Further members stay**: what merges into a document without a change merges without a change
into every document that has all its members. -/
theorem Extends.merge_eq {old new patch : Json} (h : Extends old new) (hold : old.Ordered)
    (hnew : new.Ordered) (hpatch : patch.Ordered) (hfree : patch.NullFree)
    (heq : merge old patch = old) : merge new patch = new := by
  -- On the depth of the extension: a member of the patch is there in the old document already.
  induction h generalizing patch with
  | refl doc => exact heq
  | @obj old new keys members ih =>
    cases patch with
    | obj fields =>
      obtain ⟨holds, holdValues⟩ := ordered_obj.1 hold
      obtain ⟨hnews, hnewValues⟩ := ordered_obj.1 hnew
      obtain ⟨hfields, hfieldValues⟩ := ordered_obj.1 hpatch
      rw [merge_obj] at heq ⊢
      refine congrArg Json.obj
        ((ordered_mergeMembers hnews hnewValues hpatch.2).1.ext hnews fun key => ?_)
      have hmember := get?_mergeMembers hfields.nodup_keys (.inl holds) key
      rw [show mergeMembers old fields = old from Json.obj.inj heq] at hmember
      refine (get?_mergeMembers hfields.nodup_keys (.inl hnews) key).trans ?_
      cases hget : Sorted.get? key fields with
      | none => rfl
      | some value =>
        have hmem := Sorted.mem_keys_of_get? hget
        have hvalue := nullFreeMembers_iff.1 hfree _ hmem
        rw [hget, mergeMember_some hvalue.1] at hmember
        cases hgetNew : Sorted.get? key new with
        | none => simp [keys key hgetNew] at hmember
        | some value' =>
          cases hgetOld : Sorted.get? key old with
          | none => simp [hgetOld] at hmember
          | some part =>
            rw [hgetOld, Option.getD_some] at hmember
            have hpart := ih key part value' hgetOld hgetNew
              (holdValues _ (Sorted.mem_keys_of_get? hgetOld))
              (hnewValues _ (Sorted.mem_keys_of_get? hgetNew)) (hfieldValues _ hmem) hvalue.2
              (Option.some.inj hmember).symm
            exact (mergeMember_some hvalue.1 _).trans (congrArg some hpart)
    | _ => exact absurd heq nofun

lemma Extends.keepMember_eq {old new desired : Json} (h : Extends old new) (hold : old.Ordered)
    (hnew : new.Ordered) (hdesired : desired.Ordered) (hfree : desired.NullFree)
    (heq : keepMember (some old) desired = old) : keepMember (some new) desired = new := by
  cases h with
  | refl => exact heq
  | @obj old new keys members =>
    cases desired with
    | obj fields => exact (Extends.obj keys members).merge_eq hold hnew hdesired hfree heq
    | _ => exact absurd heq nofun

/-- A member that has kept what it could of the live one still has if it is extended. -/
lemma map_keepMember_of_rel {old new desired : Option Json} (h : Option.Rel Extends old new)
    (hold : ∀ doc, old = some doc → doc.Ordered) (hnew : ∀ doc, new = some doc → doc.Ordered)
    (hdesired : ∀ doc, desired = some doc → doc.Ordered ∧ doc.NullFree)
    (heq : old = desired.map (keepMember old)) : new = desired.map (keepMember new) := by
  cases h with
  | none => exact heq
  | @some old new h =>
    cases desired with
    | none => exact absurd heq nofun
    | some desired =>
      obtain ⟨hordered, hfree⟩ := hdesired desired rfl
      exact congrArg Option.some (h.keepMember_eq (hold old rfl) (hnew new rfl) hordered hfree
        (Option.some.inj heq).symm).symm

end Json

/-! ### Values of a shape -/

/-- The field is filled: the part that is there stays or is filled, and one may be put in. -/
def Presence.Filled {α : Type} (filled : α → α → Prop) :
    (presence : Presence) → presence.Val α → presence.Val α → Prop
  | .optional, old, new => ∀ part, old = some part → ∃ part', new = some part' ∧ filled part part'
  | .lenient, old, new | .strict, old, new | .nullable, old, new | .defaulted _ _, old, new =>
    filled old new

mutual

/-- The value with fields of it set that were not, at whatever depth of records. -/
def Shape.Filled : (shape : Shape) → shape.Val → shape.Val → Prop
  | .record _ fields, old, new => fields.Filled old new
  | .hidden shape, old, new => shape.Filled old new
  | .text, old, new | .flag, old, new | .int32, old, new | .int64, old, new | .instant, old, new
  | .intOrText, old, new | .free, old, new | .choice _ _, old, new | .list _, old, new
  | .dict _, old, new => new = old

def Fields.Filled : (fields : Fields) → fields.Val → fields.Val → Prop
  | .nil, _, _ => True
  | .const _ _ _ rest, old, new => rest.Filled old new
  | .field _ presence shape rest, old, new =>
    presence.Filled shape.Filled old.1 new.1 ∧ rest.Filled old.2 new.2

end

/-- A field that is there just if it was, and is filled then. -/
def Presence.FilledWithin {α : Type} (filled : α → α → Prop) :
    (presence : Presence) → presence.Val α → presence.Val α → Prop
  | .optional, old, new => Option.Rel filled old new
  | .lenient, old, new | .strict, old, new | .nullable, old, new | .defaulted _ _, old, new =>
    filled old new

/-- The fields that are there are filled, but no further ones are there. -/
def Fields.FilledWithin : (fields : Fields) → fields.Val → fields.Val → Prop
  | .nil, _, _ => True
  | .const _ _ _ rest, old, new => rest.FilledWithin old new
  | .field _ presence shape rest, old, new =>
    presence.FilledWithin shape.Filled old.1 new.1 ∧ rest.FilledWithin old.2 new.2

lemma Presence.filled_refl {α : Type} {filled : α → α → Prop} (h : ∀ part, filled part part)
    (presence : Presence) (value : presence.Val α) : presence.Filled filled value value := by
  cases presence with
  | optional => exact fun part hpart => ⟨part, hpart, h part⟩
  | _ => exact h value

mutual

lemma Shape.filled_refl : (shape : Shape) → (value : shape.Val) → shape.Filled value value
  | .record _ fields, value => fields.filled_refl value
  | .hidden shape, value => shape.filled_refl value
  | .text, _ | .flag, _ | .int32, _ | .int64, _ | .instant, _ | .intOrText, _ | .free, _
  | .choice _ _, _ | .list _, _ | .dict _, _ => by simp only [Shape.Filled]

lemma Fields.filled_refl : (fields : Fields) → (value : fields.Val) → fields.Filled value value
  | .nil, _ => trivial
  | .const _ _ _ rest, value => rest.filled_refl value
  | .field _ presence shape rest, value =>
    ⟨presence.filled_refl shape.filled_refl value.1, rest.filled_refl value.2⟩

end

lemma Fields.filledWithin_refl : (fields : Fields) → (value : fields.Val) →
    fields.FilledWithin value value
  | .nil, _ => trivial
  | .const _ _ _ rest, value => rest.filledWithin_refl value
  | .field _ presence shape rest, value => by
    refine ⟨?_, rest.filledWithin_refl value.2⟩
    cases presence with
    | optional =>
      obtain ⟨first, -⟩ := value
      cases first with
      | none => exact .none
      | some part => exact .some (shape.filled_refl part)
    | _ => exact shape.filled_refl value.1

/-! ### Their documents -/

lemma Presence.extends_encode {α : Type} {write : α → Json} {filled : α → α → Prop}
    (h : ∀ part part', filled part part' → (write part).Extends (write part')) (name : String)
    {presence : Presence} (hshown : presence.shown = true) {old new : presence.Val α}
    (hfilled : presence.Filled filled old new) {value : Json}
    (hget : Sorted.get? name (presence.encode write name old) = some value) :
    ∃ value', Sorted.get? name (presence.encode write name new) = some value' ∧
      value.Extends value' := by
  have hself : ∀ part, Sorted.get? name [(name, write part)] = some (write part) := fun _ =>
    if_pos rfl
  cases presence with
  | optional =>
    cases old with
    | none => exact absurd hget nofun
    | some part =>
      obtain ⟨part', rfl, hpart⟩ := hfilled part rfl
      obtain rfl := Option.some.inj ((hself part).symm.trans hget)
      exact ⟨_, hself part', h _ _ hpart⟩
  | defaulted document hidden =>
    obtain rfl : hidden = false := by simpa [shown] using hshown
    obtain rfl := Option.some.inj ((hself old).symm.trans hget)
    exact ⟨_, hself new, h _ _ hfilled⟩
  | _ =>
    obtain rfl := Option.some.inj ((hself old).symm.trans hget)
    exact ⟨_, hself new, h _ _ hfilled⟩

lemma Presence.rel_encode {α : Type} {write : α → Json} {filled : α → α → Prop}
    (h : ∀ part part', filled part part' → (write part).Extends (write part')) (name : String)
    {presence : Presence} (hshown : presence.shown = true) {old new : presence.Val α}
    (hfilled : presence.FilledWithin filled old new) :
    Option.Rel Json.Extends (Sorted.get? name (presence.encode write name old))
      (Sorted.get? name (presence.encode write name new)) := by
  have hself : ∀ part, Sorted.get? name [(name, write part)] = some (write part) := fun _ =>
    if_pos rfl
  cases presence with
  | optional =>
    cases hfilled with
    | none => exact .none
    | some hpart =>
      simp only [encode, hself]
      exact .some (h _ _ hpart)
  | defaulted document hidden =>
    obtain rfl : hidden = false := by simpa [shown] using hshown
    simp only [encode, Bool.false_eq_true, false_and, if_false, hself]
    exact .some (h _ _ hfilled)
  | _ =>
    simp only [encode, hself]
    exact .some (h _ _ hfilled)

lemma Fields.extends_object {fields : Fields} (hnames : fields.names.Nodup) {old new : fields.Val}
    (h : ∀ key value, Sorted.get? key (fields.encode old) = some value →
      ∃ value', Sorted.get? key (fields.encode new) = some value' ∧ value.Extends value') :
    (Json.object (fields.encode old)).Extends (Json.object (fields.encode new)) := by
  have hget (value : fields.Val) (key : String) :
      Sorted.get? key (Sorted.ofList (fields.encode value)) =
        Sorted.get? key (fields.encode value) := fields.get?_object_encode hnames value key
  refine .obj (fun key hnone => ?_) fun key value value' hvalue hvalue' => ?_
  · rw [hget] at hnone ⊢
    cases hold : Sorted.get? key (fields.encode old) with
    | none => rfl
    | some value =>
      obtain ⟨value', hvalue', -⟩ := h key value hold
      exact absurd (hnone.symm.trans hvalue') nofun
  · rw [hget] at hvalue hvalue'
    obtain ⟨found, hfound, hextends⟩ := h key value hvalue
    exact Option.some.inj (hfound.symm.trans hvalue') ▸ hextends

mutual

/-- The document of a filled value has all members that the one before has. -/
theorem Shape.extends_encode : (shape : Shape) → shape.shown = true → {old new : shape.Val} →
    shape.Filled old new → (shape.encode old).Extends (shape.encode new)
  | .record _ fields, h, old, new, hfilled => by
    have h : decide (fields.names.Nodup ∧ fields.shown = true) = true := h
    obtain ⟨hnames, hfields⟩ := of_decide_eq_true h
    exact fields.extends_object hnames (fields.extends_encode hnames hfields hfilled)
  | .hidden shape, h, _, _, hfilled => shape.extends_encode h hfilled
  | .text, _, _, _, h | .flag, _, _, _, h | .int32, _, _, _, h | .int64, _, _, _, h
  | .instant, _, _, _, h | .intOrText, _, _, _, h | .free, _, _, _, h | .choice _ _, _, _, _, h
  | .list _, _, _, _, h | .dict _, _, _, _, h => by
    simp only [Shape.Filled] at h
    exact h ▸ .refl _

theorem Fields.extends_encode : (fields : Fields) → fields.names.Nodup → fields.shown = true →
    {old new : fields.Val} → fields.Filled old new →
    ∀ key value, Sorted.get? key (fields.encode old) = some value →
      ∃ value', Sorted.get? key (fields.encode new) = some value' ∧ value.Extends value'
  | .nil, _, _, _, _, _ => fun _ _ hget => absurd hget nofun
  | .const name _ _ rest, hnames, hshown, old, new, hfilled => by
    intro key value hget
    have hrest := rest.extends_encode (List.nodup_cons.1 hnames).2 hshown hfilled key value
    by_cases hkey : name = key
    · simp only [Fields.encode, Sorted.get?, if_pos hkey] at hget ⊢
      exact ⟨value, hget, .refl value⟩
    · simp only [Fields.encode, Sorted.get?, if_neg hkey] at hget ⊢
      exact hrest hget
  -- The name of a field is not one of the later fields, so its member is looked up alone.
  | .field name presence shape rest, hnames, hshown, old, new, hfilled => by
    obtain ⟨hname, hrest⟩ := List.nodup_cons.1 hnames
    obtain ⟨hfirst, hrestShown⟩ := Bool.and_eq_true_iff.1 hshown
    obtain ⟨hpresence, hshape⟩ := Bool.and_eq_true_iff.1 hfirst
    intro key value hget
    simp only [Fields.encode, Sorted.get?_append] at hget ⊢
    by_cases hkey : key = name
    · subst hkey
      simp only [rest.get?_encode_of_not_mem hname, Option.or_none] at hget ⊢
      have hparts : ∀ part part', shape.Filled part part' →
          (shape.encode part).Extends (shape.encode part') :=
        fun _ _ => shape.extends_encode hshape
      exact presence.extends_encode hparts key hpresence hfilled.1 hget
    · simp only [presence.get?_encode_of_ne hkey, Option.none_or] at hget ⊢
      exact rest.extends_encode hrest hrestShown hfilled.2 key value hget

end

/-- Fields that are there just if they were are written just if they were. -/
theorem Fields.rel_encode : (fields : Fields) → fields.names.Nodup → fields.shown = true →
    {old new : fields.Val} → fields.FilledWithin old new →
    ∀ key, Option.Rel Json.Extends (Sorted.get? key (fields.encode old))
      (Sorted.get? key (fields.encode new))
  | .nil, _, _, _, _, _ => fun _ => .none
  | .const name _ _ rest, hnames, hshown, old, new, hfilled => by
    intro key
    have hrest := rest.rel_encode (List.nodup_cons.1 hnames).2 hshown hfilled key
    by_cases hkey : name = key
    · simp only [Fields.encode, Sorted.get?, if_pos hkey]
      exact .some (.refl _)
    · simpa only [Fields.encode, Sorted.get?, if_neg hkey] using hrest
  | .field name presence shape rest, hnames, hshown, old, new, hfilled => by
    obtain ⟨hname, hrest⟩ := List.nodup_cons.1 hnames
    obtain ⟨hfirst, hrestShown⟩ := Bool.and_eq_true_iff.1 hshown
    obtain ⟨hpresence, hshape⟩ := Bool.and_eq_true_iff.1 hfirst
    intro key
    simp only [Fields.encode, Sorted.get?_append]
    by_cases hkey : key = name
    · subst hkey
      simp only [rest.get?_encode_of_not_mem hname, Option.or_none]
      have hparts : ∀ part part', shape.Filled part part' →
          (shape.encode part).Extends (shape.encode part') :=
        fun _ _ => shape.extends_encode hshape
      exact presence.rel_encode hparts key hpresence hfilled.1
    · simp only [presence.get?_encode_of_ne hkey, Option.none_or]
      exact rest.rel_encode hrest hrestShown hfilled.2 key

/-! ### Records -/

namespace Record

variable {α : Type} [Record α]

/-- The fields that are set are filled, but no further ones are set. -/
def FilledWithin (old new : α) : Prop := (fields α).FilledWithin (toVal old) (toVal new)

lemma filledWithin_refl (value : α) : FilledWithin value value :=
  (fields α).filledWithin_refl (toVal value)

lemma Mergeable.rel_encode (h : Mergeable α) {old new : α} (hfilled : FilledWithin old new)
    (key : String) :
    Option.Rel Json.Extends ((encode old).get? key) ((encode new).get? key) := by
  have hshown : decide ((fields α).names.Nodup ∧ (fields α).shown = true) = true := h.shown
  obtain ⟨hnames, hfields⟩ := of_decide_eq_true hshown
  have hget (value : α) : (encode value).get? key =
      Sorted.get? key ((fields α).encode (toVal value)) :=
    (fields α).get?_object_encode hnames (toVal value) key
  rw [hget, hget]
  exact (fields α).rel_encode hnames hfields hfilled key

lemma Mergeable.keepNestedDefaults_eq_iff (h : Mergeable α) {live desired value : α}
    (hwhole : Whole value) : keepNestedDefaults live desired = value ↔
      ∀ key, (encode value).get? key =
        ((encode desired).get? key).map (Json.keepMember ((encode live).get? key)) := by
  constructor
  · rintro rfl key
    exact h.get?_keepNestedDefaults live desired key
  · intro hmembers
    refine eq_of_encode_eq h.wellNamed (h.whole_keepNestedDefaults _ _) hwhole ?_
    have hkept := ordered_encode (keepNestedDefaults live desired)
    refine congrArg Json.obj ((Json.ordered_obj.1 hkept).1.ext
      (Json.ordered_obj.1 (ordered_encode value)).1 fun key => ?_)
    exact (h.get?_keepNestedDefaults live desired key).trans (hmembers key).symm

lemma ordered_get? (value : α) {key : String} {doc : Json}
    (h : (encode value).get? key = some doc) : doc.Ordered :=
  (Json.ordered_obj.1 (ordered_encode value)).2 _ (Sorted.mem_keys_of_get? h)

lemma Mergeable.nullFree_get? (h : Mergeable α) (value : α) {key : String} {doc : Json}
    (hget : (encode value).get? key = some doc) : doc.NullFree :=
  (Json.nullFreeMembers_iff.1 ((shape α).nullFree_encode h.nullFree (toVal value)) _
    (Sorted.mem_keys_of_get? hget)).2

/-- **Filled defaults are kept**: what has kept the nested defaults of a live value still has them
after more of them have been filled in. -/
theorem Mergeable.keepNestedDefaults_filled (h : Mergeable α) {desired old new : α}
    (hfilled : FilledWithin old new) (hnew : Whole new)
    (heq : keepNestedDefaults old desired = old) : keepNestedDefaults new desired = new := by
  have hold : Whole old := heq ▸ h.whole_keepNestedDefaults old desired
  rw [h.keepNestedDefaults_eq_iff hold] at heq
  rw [h.keepNestedDefaults_eq_iff hnew]
  intro key
  exact Json.map_keepMember_of_rel (h.rel_encode hfilled key) (fun _ => ordered_get? old)
    (fun _ => ordered_get? new) (fun _ hget => ⟨ordered_get? desired hget,
      h.nullFree_get? desired hget⟩) (heq key)

end Record

/-! ### Fields that may all be left out -/

/-- Whether every field may be left out. -/
def Fields.optional : Fields → Bool
  | .nil => true
  | .field _ .optional _ rest => rest.optional
  | .const _ _ _ _ | .field _ _ _ _ => false

lemma Fields.encode_zero : (fields : Fields) → fields.optional = true →
    fields.encode fields.zero = []
  | .nil, _ => rfl
  | .field _ .optional _ rest, h => rest.encode_zero h

lemma Fields.eq_zero_of_get? : (fields : Fields) → fields.optional = true → (value : fields.Val) →
    (∀ key ∈ fields.names, Sorted.get? key (fields.encode value) = none) → value = fields.zero
  | .nil, _, _, _ => rfl
  | .field name .optional shape rest, h, (first, others), hget => by
    have hsplit : ∀ key ∈ name :: rest.names,
        Sorted.get? key (Presence.optional.encode shape.encode name first) = none ∧
          Sorted.get? key (rest.encode others) = none := fun key hkey => by
      have hnone := hget key hkey
      rwa [Fields.encode, Sorted.get?_append, Option.or_eq_none_iff] at hnone
    have hothers := rest.eq_zero_of_get? h others fun key hkey =>
      (hsplit key (List.mem_cons_of_mem _ hkey)).2
    cases first with
    | none => exact congrArg (Prod.mk none) hothers
    | some part =>
      have hpart := (hsplit name List.mem_cons_self).1
      simp [Presence.encode, Sorted.get?] at hpart

lemma Fields.eq_zero_of_filledWithin : (fields : Fields) → fields.optional = true →
    (value : fields.Val) → fields.FilledWithin fields.zero value → value = fields.zero
  | .nil, _, _, _ => rfl
  | .field _ .optional _ rest, h, (first, others), hfilled => by
    have hothers := rest.eq_zero_of_filledWithin h others hfilled.2
    cases first with
    | none => exact congrArg (Prod.mk none) hothers
    | some part => exact nomatch hfilled.1

end PgOperator
