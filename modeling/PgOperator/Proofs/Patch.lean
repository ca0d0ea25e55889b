import Mathlib.Tactic.Lemma
import PgOperator.Json.Patch
import PgOperator.Proofs.Digits

/-!
The difference of two documents, carried out.

`Leads ops a b` says that the operations turn `a` into `b`. The operations that `diff` lists lead
from the first document to the second one, and where both documents agree under a key, none of
them touches that key, whatever document they are carried out on. The text of an operation's path
spells that path (`Pointer.ofText?_text`).
-/

namespace PgOperator.Json

/-- The operations turn the first document into the second one. -/
def Leads (ops : Patch) (before after : Json) : Prop :=
  ops.foldlM Operation.carryOut before = some after

lemma applyFrom_eq_ok_iff {i : Nat} {ops : Patch} {before after : Json} :
    Patch.applyFrom i ops before = .ok after ↔ Leads ops before after := by
  induction ops generalizing i before with
  | nil => simp [Patch.applyFrom, Leads]
  | cons op rest ih =>
    rw [Patch.applyFrom, Leads, List.foldlM_cons]
    cases op.carryOut before with
    | none => simp
    | some doc => exact ih

lemma apply_eq_ok_iff {ops : Patch} {before after : Json} :
    ops.apply before = .ok after ↔ Leads ops before after := applyFrom_eq_ok_iff

namespace Leads

variable {ops more : Patch} {op : Operation} {a b c : Json}

lemma nil (doc : Json) : Leads [] doc doc := rfl

@[simp] lemma nil_iff : Leads [] a b ↔ a = b := by simp [Leads]

lemma cons_iff : Leads (op :: ops) a c ↔ ∃ b, Operation.carryOut a op = some b ∧ Leads ops b c := by
  simp [Leads, Option.bind_eq_some_iff]

lemma append (h : Leads ops a b) (hmore : Leads more b c) : Leads (ops ++ more) a c := by
  rw [Leads, List.foldlM_append, show ops.foldlM Operation.carryOut a = some b from h]
  exact hmore

lemma singleton (h : Operation.carryOut a op = some b) : Leads [op] a b :=
  cons_iff.2 ⟨b, h, nil b⟩

end Leads

/-! ### Operations below a key or an index -/

namespace Operation

/-- Whether the operation stays one on the same document when it is moved below a token: adding
or removing the document itself would become a change of what contains it. -/
def Stays : Operation → Prop
  | .add path _ | .remove path => path ≠ []
  | .replace _ _ => True

lemma stays_below (token : String) (op : Operation) : (op.below token).Stays := by
  cases op <;> simp [below, Stays]

lemma carryOut_below {op : Operation} (hop : op.Stays) (token : String) (doc : Json) :
    carryOut doc (op.below token) = within token (carryOut · op) doc := by
  cases op with
  | add path value =>
    cases path with
    | nil => exact absurd rfl hop
    | cons next rest => cases doc <;> rfl
  | remove path =>
    cases path with
    | nil => exact absurd rfl hop
    | cons next rest => cases doc <;> rfl
  | replace path value => rfl

end Operation

namespace Leads

variable {ops : Patch} {old new : Json}

lemma below_obj (hops : ∀ op ∈ ops, op.Stays) (h : Leads ops old new) {token : String}
    {members : List (String × Json)} (hmembers : Sorted.Ordered members)
    (hget : Sorted.get? token members = some old) :
    Leads (ops.map (.below token)) (.obj members) (.obj (Sorted.insert token new members)) := by
  induction ops generalizing old members with
  | nil =>
    obtain rfl := nil_iff.1 h
    rw [List.map_nil, nil_iff, Sorted.insert_of_get? hmembers hget]
  | cons op rest ih =>
    obtain ⟨mid, hmid, hrest⟩ := cons_iff.1 h
    have hstep : Operation.carryOut (.obj members) (op.below token) =
        some (.obj (Sorted.insert token mid members)) := by
      rw [Operation.carryOut_below (hops op List.mem_cons_self)]
      simp [Operation.within, hget, hmid]
    have hthen := ih (fun op hop => hops op (List.mem_cons_of_mem _ hop)) hrest
      (hmembers.insert token mid) (Sorted.get?_insert_self token mid members)
    rw [Sorted.insert_insert hmembers] at hthen
    exact cons_iff.2 ⟨_, hstep, hthen⟩

lemma below_arr (hops : ∀ op ∈ ops, op.Stays) (h : Leads ops old new) {i : Nat}
    {items : List Json} (hget : items[i]? = some old) :
    Leads (ops.map (.below (toString i))) (.arr items) (.arr (items.set i new)) := by
  induction ops generalizing old items with
  | nil =>
    obtain rfl := nil_iff.1 h
    obtain ⟨hi, rfl⟩ := List.getElem?_eq_some_iff.1 hget
    rw [List.map_nil, nil_iff, List.set_getElem_self]
  | cons op rest ih =>
    obtain ⟨mid, hmid, hrest⟩ := cons_iff.1 h
    obtain ⟨hi, -⟩ := List.getElem?_eq_some_iff.1 hget
    have hstep : Operation.carryOut (.arr items) (op.below (toString i)) =
        some (.arr (items.set i mid)) := by
      rw [Operation.carryOut_below (hops op List.mem_cons_self)]
      simp [Operation.within, hget, hmid]
    have hthen := ih (fun op hop => hops op (List.mem_cons_of_mem _ hop)) hrest
      (List.getElem?_set_self hi)
    rw [List.set_set] at hthen
    exact cons_iff.2 ⟨_, hstep, hthen⟩

end Leads

/-! ### The operations of a difference -/

lemma mem_diffMembers {before after : List (String × Json)} {op : Operation}
    (h : op ∈ diffMembers before after) :
    ∃ key value, (key, value) ∈ after ∧
      ((∃ old inner, Sorted.get? key before = some old ∧ inner ∈ diff old value ∧
        op = inner.below key) ∨
      (Sorted.get? key before = none ∧ op = .add [key] value)) := by
  induction after with
  | nil => simp [diffMembers] at h
  | cons e rest ih =>
    rcases List.mem_append.1 h with h | h
    · refine ⟨e.1, e.2, List.mem_cons_self, ?_⟩
      cases hget : Sorted.get? e.1 before with
      | none =>
        simp only [hget, List.mem_singleton] at h
        exact .inr ⟨rfl, h⟩
      | some old =>
        simp only [hget, List.mem_map] at h
        obtain ⟨inner, hinner, rfl⟩ := h
        exact .inl ⟨old, inner, rfl, hinner, rfl⟩
    · obtain ⟨key, value, hmem, hop⟩ := ih h
      exact ⟨key, value, List.mem_cons_of_mem _ hmem, hop⟩

lemma stays_diff (before after : Json) : ∀ op ∈ diff before after, op.Stays := by
  have hitems : ∀ after i before, ∀ op ∈ diffItems i before after, op.Stays := by
    intro after
    induction after with
    | nil => simp [diffItems, Operation.Stays]
    | cons value rest ih =>
      intro i before op hop
      cases before with
      | nil =>
        rcases List.mem_cons.1 hop with rfl | hop
        · exact List.cons_ne_nil _ _
        · exact ih _ _ op hop
      | cons old before =>
        rcases List.mem_append.1 hop with hop | hop
        · obtain ⟨inner, -, rfl⟩ := List.mem_map.1 hop
          exact Operation.stays_below _ _
        · exact ih _ _ op hop
  intro op hop
  cases after with
  | obj after =>
    cases before with
    | obj before =>
      rcases List.mem_append.1 hop with hop | hop
      · obtain ⟨key, value, -, ⟨old, inner, -, -, rfl⟩ | ⟨-, rfl⟩⟩ := mem_diffMembers hop
        · exact Operation.stays_below _ _
        · exact List.cons_ne_nil _ _
      · obtain ⟨e, -, rfl⟩ := List.mem_map.1 hop
        exact List.cons_ne_nil _ _
    | _ => simp_all [diff, Operation.Stays]
  | arr after =>
    cases before with
    | arr before => exact hitems _ _ _ op hop
    | _ => simp_all [diff, Operation.Stays]
  | _ =>
    simp only [diff] at hop
    split at hop <;> simp_all [Operation.Stays]

lemma leads_removals {keys : List String} (hkeys : keys.Nodup) {members : List (String × Json)}
    (hmembers : Sorted.Ordered members) (hmem : ∀ key ∈ keys, (Sorted.get? key members).isSome) :
    Leads (keys.map fun key => .remove [key]) (.obj members)
      (.obj (keys.foldl (fun acc key => Sorted.erase key acc) members)) := by
  induction keys generalizing members with
  | nil => exact .nil _
  | cons key rest ih =>
    obtain ⟨hkey, hrest⟩ := List.nodup_cons.1 hkeys
    obtain ⟨value, hvalue⟩ := Option.isSome_iff_exists.1 (hmem key List.mem_cons_self)
    refine Leads.cons_iff.2 ⟨.obj (Sorted.erase key members), ?_, ih hrest (hmembers.erase key) ?_⟩
    · simp [Operation.carryOut, Operation.removeAt, hvalue]
    · intro other hother
      have hne : other ≠ key := fun heq => hkey (heq ▸ hother)
      rw [Sorted.get?_erase_of_ne hne]
      exact hmem other (List.mem_cons_of_mem _ hother)

lemma get?_foldl_erase {keys : List String} {members : List (String × Json)}
    (hmembers : Sorted.Ordered members) (key : String) :
    Sorted.get? key (keys.foldl (fun acc key => Sorted.erase key acc) members) =
      if key ∈ keys then none else Sorted.get? key members := by
  induction keys generalizing members with
  | nil => simp
  | cons first rest ih =>
    rw [List.foldl_cons, ih (hmembers.erase first)]
    by_cases hrest : key ∈ rest
    · simp [hrest]
    · by_cases hfirst : key = first
      · simp [hfirst, Sorted.get?_erase_self hmembers]
      · simp [hrest, hfirst, Sorted.get?_erase_of_ne hfirst]

lemma ordered_foldl_erase {keys : List String} {members : List (String × Json)}
    (hmembers : Sorted.Ordered members) :
    Sorted.Ordered (keys.foldl (fun acc key => Sorted.erase key acc) members) := by
  induction keys generalizing members with
  | nil => exact hmembers
  | cons first rest ih => exact ih (hmembers.erase first)

lemma removals_leave {before after : List (String × Json)} (hbefore : Sorted.Ordered before)
    (hafter : Sorted.Ordered after) :
    ((before.filter fun e => (Sorted.get? e.1 after).isNone).map Prod.fst).foldl
      (fun acc key => Sorted.erase key acc) (Sorted.insertAll after before) = after := by
  have hmid : Sorted.Ordered (Sorted.insertAll after before) := hbefore.insertAll
  refine (ordered_foldl_erase hmid).ext hafter fun key => ?_
  rw [get?_foldl_erase hmid, Sorted.get?_insertAll hafter.nodup_keys]
  split
  · rename_i hkey
    obtain ⟨e, he, rfl⟩ := List.mem_map.1 hkey
    exact (Option.isNone_iff_eq_none.1 (List.mem_filter.1 he).2).symm
  · rename_i hkey
    cases hget : Sorted.get? key after with
    | some value => rfl
    | none =>
      -- A member of the first document alone would be among those that are taken out.
      cases hold : Sorted.get? key before with
      | none => rfl
      | some old =>
        refine absurd (List.mem_map.2 ⟨(key, old), ?_, rfl⟩) hkey
        exact List.mem_filter.2 ⟨Sorted.mem_keys_of_get? hold, by simp [hget]⟩

mutual

/-- **The difference leads there**: the operations that `diff` lists turn the first document into
the second one. -/
theorem leads_diff : {before after : Json} → before.Ordered → after.Ordered →
    Leads (diff before after) before after
  | before, .obj after, hbefore, hafter => by
    cases before with
    | obj before =>
      obtain ⟨hb, hbs⟩ := ordered_obj.1 hbefore
      have hmembers := leads_diffMembers hb hbs hafter.1.nodup_keys hafter.2 hb fun _ _ => rfl
      -- Once all members of the second document are there, those that only the first one had go.
      have hremovals : Leads ((before.filter fun e => (Sorted.get? e.1 after).isNone).map
          fun e => .remove [e.1]) (.obj (Sorted.insertAll after before)) (.obj after) := by
        have hsub : ((before.filter fun e => (Sorted.get? e.1 after).isNone).map
            Prod.fst).Nodup := hb.nodup_keys.sublist (List.filter_sublist.map _)
        have hmid : Sorted.Ordered (Sorted.insertAll after before) := hb.insertAll
        have := leads_removals hsub hmid ?_
        · rwa [removals_leave hb hafter.1, List.map_map] at this
        · intro key hkey
          obtain ⟨e, he, rfl⟩ := List.mem_map.1 hkey
          have hget := (Sorted.get?_eq_some_iff hb.nodup_keys).2 (List.mem_filter.1 he).1
          rw [Sorted.get?_insertAll hafter.1.nodup_keys, hget]
          cases Sorted.get? e.1 after <;> rfl
      exact hmembers.append hremovals
    | _ => exact Leads.singleton rfl
  | before, .arr after, hbefore, hafter => by
    cases before with
    | arr before =>
      have := leads_diffItems [] (ordered_arr.1 hbefore) hafter
      simpa [diff] using this
    | _ => exact Leads.singleton rfl
  | before, .null, _, _ | before, .bool _, _, _ | before, .int _, _, _ | before, .real _, _, _
  | before, .str _, _, _ => by
    simp only [diff]
    split
    · rename_i heq
      exact Leads.nil_iff.2 heq
    · exact Leads.singleton rfl

theorem leads_diffMembers : {before after : List (String × Json)} → Sorted.Ordered before →
    (∀ e ∈ before, e.2.Ordered) → (after.map Prod.fst).Nodup → OrderedMembers after →
    {members : List (String × Json)} → Sorted.Ordered members →
    (∀ key ∈ after.map Prod.fst, Sorted.get? key members = Sorted.get? key before) →
    Leads (diffMembers before after) (.obj members) (.obj (Sorted.insertAll after members))
  | _, [], _, _, _, _, _, _, _ => Leads.nil _
  | before, (key, value) :: rest, hb, hbs, hnodup, hafter, members, hm, hsame => by
    obtain ⟨hkey, hrest⟩ := List.nodup_cons.1 hnodup
    have hsame' : ∀ other ∈ rest.map Prod.fst,
        Sorted.get? other (Sorted.insert key value members) = Sorted.get? other before := by
      intro other hother
      have hne : other ≠ key := fun heq => hkey (heq ▸ hother)
      rw [Sorted.get?_insert_of_ne hne]
      exact hsame other (List.mem_cons_of_mem _ hother)
    have hthen := leads_diffMembers hb hbs hrest hafter.2 (hm.insert key value) hsame'
    have hget := hsame key List.mem_cons_self
    refine Leads.append ?_ hthen
    cases hold : Sorted.get? key before with
    | none => exact Leads.singleton rfl
    | some old =>
      have hlead := leads_diff (hbs _ (Sorted.mem_keys_of_get? hold)) hafter.1
      exact hlead.below_obj (stays_diff old value) hm (hget.trans hold)

theorem leads_diffItems : (pre : List Json) → {before after : List Json} →
    (∀ item ∈ before, item.Ordered) → OrderedItems after →
    Leads (diffItems pre.length before after) (.arr (pre ++ before)) (.arr (pre ++ after))
  | _, [], [], _, _ => Leads.nil _
  | pre, _ :: before, [], hb, _ => by
    refine Leads.cons_iff.2 ⟨.arr (pre ++ before), ?_, ?_⟩
    · simp [Operation.carryOut, Operation.removeAt, List.eraseIdx_append_of_length_le]
    · have hnil : OrderedItems [] := trivial
      exact leads_diffItems pre (fun item h => hb item (List.mem_cons_of_mem _ h)) hnil
  | pre, [], value :: rest, hb, hafter => by
    have hthen := leads_diffItems (pre ++ [value]) hb hafter.2
    refine Leads.cons_iff.2 ⟨.arr (pre ++ [value]), ?_, ?_⟩
    · have := toString_ne_dash pre.length
      simp_all [Operation.carryOut, Operation.addAt]
    · simpa using hthen
  -- Both lists go on: the item is changed in its place and joins the ones in front.
  | pre, old :: before, value :: rest, hb, hafter => by
    have hthen := leads_diffItems (pre ++ [value])
      (fun item h => hb item (List.mem_cons_of_mem _ h)) hafter.2
    have hlead := leads_diff (hb old List.mem_cons_self) hafter.1
    have hget : (pre ++ old :: before)[pre.length]? = some old := by simp
    have hitem := hlead.below_arr (stays_diff old value) hget
    refine Leads.append (b := .arr (pre ++ value :: before)) ?_ ?_
    · simpa using hitem
    · simpa using hthen

end

/-- Carrying out the difference of two documents gives the second one. -/
theorem apply_diff {before after : Json} (hbefore : before.Ordered) (hafter : after.Ordered) :
    (diff before after).apply before = .ok after :=
  apply_eq_ok_iff.2 (leads_diff hbefore hafter)

/-! ### What a difference leaves alone -/

mutual

/-- A document does not differ from itself. -/
theorem diff_self : {doc : Json} → doc.Ordered → diff doc doc = []
  | .obj members, h => by
    obtain ⟨hm, hms⟩ := ordered_obj.1 h
    have hget : ∀ e ∈ members, Sorted.get? e.1 members = some e.2 := fun e he =>
      (Sorted.get?_eq_some_iff hm.nodup_keys).2 he
    simp only [diff, diffMembers_self h.2 hget, List.nil_append, List.map_eq_nil_iff,
      List.filter_eq_nil_iff]
    intro e he
    simp [hget e he]
  | .arr items, h => by
    simp only [diff, diffItems_self h]
  | .null, _ | .bool _, _ | .int _, _ | .real _, _ | .str _, _ => by simp [diff]

theorem diffMembers_self : {before after : List (String × Json)} → OrderedMembers after →
    (∀ e ∈ after, Sorted.get? e.1 before = some e.2) → diffMembers before after = []
  | _, [], _, _ => rfl
  | before, (key, value) :: rest, h, hget => by
    have hrest := diffMembers_self h.2 fun e he => hget e (List.mem_cons_of_mem _ he)
    have hkey := hget (key, value) List.mem_cons_self
    simp only [diffMembers, hkey, hrest, diff_self h.1, List.map_nil, List.append_nil]

theorem diffItems_self : {items : List Json} → OrderedItems items → {i : Nat} →
    diffItems i items items = []
  | [], _, _ => rfl
  | item :: rest, h, i => by
    simp only [diffItems, diff_self h.1, diffItems_self h.2, List.map_nil, List.append_nil]

end

namespace Operation

/-- The operation changes neither what stands under `inner` in the member `outer`, nor a place
that contains it. -/
def Spares (outer inner : String) (op : Operation) : Prop :=
  ∃ key rest, op.path = key :: rest ∧
    (key = outer → ∃ next more, rest = next :: more ∧ next ≠ inner)

lemma path_below (token : String) (op : Operation) : (op.below token).path = token :: op.path := by
  cases op <;> rfl

lemma exists_below {op : Operation} {key next : String} {more : Pointer}
    (h : op.path = key :: next :: more) :
    ∃ inner : Operation, inner.path = next :: more ∧ inner.Stays ∧ op = inner.below key := by
  cases op with
  | add path value =>
    obtain rfl : path = key :: next :: more := h
    exact ⟨.add (next :: more) value, rfl, List.cons_ne_nil _ _, rfl⟩
  | remove path =>
    obtain rfl : path = key :: next :: more := h
    exact ⟨.remove (next :: more), rfl, List.cons_ne_nil _ _, rfl⟩
  | replace path value =>
    obtain rfl : path = key :: next :: more := h
    exact ⟨.replace (next :: more) value, rfl, trivial, rfl⟩

lemma getD_within {key other : String} {change : Json → Option Json} {doc after : Json}
    (hne : other ≠ key) (h : within key change doc = some after) :
    after.getD other = doc.getD other := by
  cases doc with
  | obj members =>
    simp only [within, Option.bind_eq_bind, Option.bind_eq_some_iff] at h
    obtain ⟨old, -, new, -, h⟩ := h
    obtain rfl := Option.some.inj h
    simp [getD, get?, Sorted.get?_insert_of_ne hne]
  | arr items =>
    simp only [within, Option.bind_eq_bind, Option.bind_eq_some_iff] at h
    obtain ⟨i, -, old, -, new, -, h⟩ := h
    obtain rfl := Option.some.inj h
    rfl
  | _ => exact absurd h.symm (Option.some_ne_none _)

lemma get?_within {key : String} {change : Json → Option Json} {doc after : Json}
    (hkey : Pointer.index? key = none) (h : within key change doc = some after) :
    ∃ old new, doc.get? key = some old ∧ change old = some new ∧ after.get? key = some new := by
  cases doc with
  | obj members =>
    simp only [within, Option.bind_eq_bind, Option.bind_eq_some_iff] at h
    obtain ⟨old, hold, new, hnew, h⟩ := h
    obtain rfl := Option.some.inj h
    exact ⟨old, new, hold, hnew, Sorted.get?_insert_self key new members⟩
  | arr items =>
    simp only [within, Option.bind_eq_bind, hkey, Option.bind_none] at h
    exact absurd h.symm (Option.some_ne_none _)
  | _ => exact absurd h.symm (Option.some_ne_none _)

lemma getD_carryOut {op : Operation} {key other : String} {rest : Pointer} {doc after : Json}
    (hpath : op.path = key :: rest) (hne : other ≠ key) (h : carryOut doc op = some after) :
    after.getD other = doc.getD other := by
  -- An operation with a longer path is one of a part; the others put in or take out the member.
  cases rest with
  | cons next more =>
    obtain ⟨inner, -, hstays, rfl⟩ := exists_below hpath
    rw [carryOut_below hstays] at h
    exact getD_within hne h
  | nil =>
    cases op with
    | add path value =>
      obtain rfl : path = [key] := hpath
      cases doc with
      | obj members =>
        obtain rfl := Option.some.inj h
        simp [getD, get?, Sorted.get?_insert_of_ne hne]
      | arr items =>
        simp only [carryOut, addAt] at h
        split at h
        · obtain rfl := Option.some.inj h
          rfl
        · obtain ⟨i, -, h⟩ := Option.bind_eq_some_iff.1 h
          split at h
          · obtain rfl := Option.some.inj h
            rfl
          · exact absurd h.symm (Option.some_ne_none _)
      | _ => exact absurd h.symm (Option.some_ne_none _)
    | remove path =>
      obtain rfl : path = [key] := hpath
      cases doc with
      | obj members =>
        obtain ⟨old, -, h⟩ := Option.bind_eq_some_iff.1 h
        obtain rfl := Option.some.inj h
        simp [getD, get?, Sorted.get?_erase_of_ne hne]
      | arr items =>
        obtain ⟨i, -, h⟩ := Option.bind_eq_some_iff.1 h
        split at h
        · obtain rfl := Option.some.inj h
          rfl
        · exact absurd h.symm (Option.some_ne_none _)
      | _ => exact absurd h.symm (Option.some_ne_none _)
    | replace path value =>
      obtain rfl : path = [key] := hpath
      exact getD_within hne h

/-- **A spared member stays**, on whatever document the operation is carried out. -/
theorem getD_getD_carryOut {outer inner : String} {op : Operation} {doc after : Json}
    (hop : op.Spares outer inner) (h : carryOut doc op = some after) :
    (after.getD outer).getD inner = (doc.getD outer).getD inner := by
  obtain ⟨key, rest, hpath, hspare⟩ := hop
  by_cases hkey : key = outer
  · subst hkey
    obtain ⟨next, more, rfl, hne⟩ := hspare rfl
    obtain ⟨part, hpart, hstays, rfl⟩ := exists_below hpath
    rw [carryOut_below hstays] at h
    cases doc with
    | obj members =>
      simp only [within, Option.bind_eq_bind, Option.bind_eq_some_iff] at h
      obtain ⟨old, hold, new, hnew, h⟩ := h
      obtain rfl := Option.some.inj h
      have := getD_carryOut hpart (Ne.symm hne) hnew
      simpa [getD, get?, Sorted.get?_insert_self, hold] using this
    | arr items =>
      simp only [within, Option.bind_eq_bind, Option.bind_eq_some_iff] at h
      obtain ⟨i, -, old, -, new, -, h⟩ := h
      obtain rfl := Option.some.inj h
      rfl
    | _ => exact absurd h.symm (Option.some_ne_none _)
  · rw [getD_carryOut hpath (Ne.symm hkey) h]

end Operation

/-- Operations that all spare a member lead to a document with the same one. -/
lemma Leads.getD_getD {outer inner : String} {ops : Patch} {before after : Json}
    (hops : ∀ op ∈ ops, op.Spares outer inner) (h : Leads ops before after) :
    (after.getD outer).getD inner = (before.getD outer).getD inner := by
  induction ops generalizing before with
  | nil => rw [nil_iff.1 h]
  | cons op rest ih =>
    obtain ⟨mid, hmid, hrest⟩ := cons_iff.1 h
    rw [ih (fun op hop => hops op (List.mem_cons_of_mem _ hop)) hrest,
      Operation.getD_getD_carryOut (hops op List.mem_cons_self) hmid]

/-- Where two objects agree under a key, no operation of their difference is about that key. -/
lemma path_diff_obj {before after : List (String × Json)} (hafter : (obj after).Ordered)
    {key : String} (hsame : Sorted.get? key before = Sorted.get? key after) {op : Operation}
    (hop : op ∈ diff (.obj before) (.obj after)) :
    ∃ other rest, op.path = other :: rest ∧ other ≠ key := by
  obtain ⟨ha, has⟩ := ordered_obj.1 hafter
  rcases List.mem_append.1 hop with hop | hop
  · obtain ⟨k, value, hmem, ⟨old, inner, hold, hinner, rfl⟩ | ⟨hnone, rfl⟩⟩ := mem_diffMembers hop
    · refine ⟨k, inner.path, Operation.path_below _ _, ?_⟩
      rintro rfl
      have := hsame.symm.trans hold
      rw [(Sorted.get?_eq_some_iff ha.nodup_keys).2 hmem] at this
      obtain rfl := Option.some.inj this
      rw [diff_self (has _ hmem)] at hinner
      exact absurd hinner List.not_mem_nil
    · refine ⟨k, [], rfl, ?_⟩
      rintro rfl
      have := hsame.symm.trans hnone
      rw [(Sorted.get?_eq_some_iff ha.nodup_keys).2 hmem] at this
      exact absurd this nofun
  · obtain ⟨e, he, rfl⟩ := List.mem_map.1 hop
    obtain ⟨he, hnone⟩ := List.mem_filter.1 he
    refine ⟨e.1, [], rfl, ?_⟩
    rintro rfl
    have hold := hsame.trans (Option.isNone_iff_eq_none.1 hnone)
    exact Sorted.get?_eq_none_iff.1 hold (List.mem_map_of_mem he)

/-- **Agreement is spared**: where the members `outer` of two objects are objects that agree under
`inner`, the operations of the difference leave that place alone. -/
theorem spares_diff {before after beforePart afterPart : List (String × Json)}
    (hafter : (obj after).Ordered) {outer inner : String}
    (hb : Sorted.get? outer before = some (.obj beforePart))
    (ha : Sorted.get? outer after = some (.obj afterPart))
    (hsame : Sorted.get? inner beforePart = Sorted.get? inner afterPart) :
    ∀ op ∈ diff (.obj before) (.obj after), op.Spares outer inner := by
  intro op hop
  have hnodup := (ordered_obj.1 hafter).1.nodup_keys
  rcases List.mem_append.1 hop with hop | hop
  · obtain ⟨k, value, hmem, ⟨old, part, hold, hpart, rfl⟩ | ⟨hnone, rfl⟩⟩ := mem_diffMembers hop
    · refine ⟨k, part.path, Operation.path_below _ _, ?_⟩
      rintro rfl
      obtain rfl := Option.some.inj (hold.symm.trans hb)
      obtain rfl := Option.some.inj (((Sorted.get?_eq_some_iff hnodup).2 hmem).symm.trans ha)
      obtain ⟨next, more, hpath, hne⟩ :=
        path_diff_obj ((ordered_obj.1 hafter).2 _ hmem) hsame hpart
      exact ⟨next, more, hpath, hne⟩
    · refine ⟨k, [], rfl, ?_⟩
      rintro rfl
      exact absurd (hnone.symm.trans hb) nofun
  · obtain ⟨e, he, rfl⟩ := List.mem_map.1 hop
    obtain ⟨he, hnone⟩ := List.mem_filter.1 he
    refine ⟨e.1, [], rfl, ?_⟩
    rintro rfl
    rw [ha] at hnone
    exact absurd hnone nofun

/-! ### Pointers as texts -/

namespace Pointer

lemma slash_not_mem_escape (cs : List Char) : '/' ∉ escape cs := by
  fun_induction escape cs with
  | case1 => exact List.not_mem_nil
  | case2 rest ih => simpa using ih
  | case3 rest ih => simpa using ih
  | case4 c rest hne1 hne2 ih => simpa using ⟨fun h => hne2 h.symm, ih⟩

lemma toList_text_cons (token : String) (rest : Pointer) : (text (token :: rest)).toList =
    '/' :: ['/'].intercalate ((token :: rest).map fun token => escape token.toList) := by
  have hstep (token : String) (rest : Pointer) : (text (token :: rest)).toList =
      '/' :: escape token.toList ++ (text rest).toList := by
    simp [text, String.toList_join]
  induction rest generalizing token with
  | nil => simp [text]
  | cons next more ih => simp [hstep token, ih, List.intercalate_cons_cons]

/-- The text of a pointer spells that pointer, whatever its tokens are. -/
theorem ofText?_text (pointer : Pointer) : ofText? pointer.text = some pointer := by
  cases pointer with
  | nil => rfl
  | cons token rest =>
    have hslash : ∀ cs ∈ (token :: rest).map fun token => escape token.toList, '/' ∉ cs := by
      intro cs hcs
      obtain ⟨token, -, rfl⟩ := List.mem_map.1 hcs
      exact slash_not_mem_escape token.toList
    simp only [ofText?, toList_text_cons, List.splitOn_intercalate '/' hslash nofun, List.map_map]
    simp [Function.comp_def, unescape_escape]

end Pointer

end PgOperator.Json
