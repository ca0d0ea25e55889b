import Mathlib.Tactic.Lemma
import PgOperator.Proofs.Patch

/-!
The difference of two documents, carried out on a third one.

A patch that was made for one document may meet another one. `admits` says from the documents alone
whether all of its operations find their places there: each member or item that differs has to be
there still and to have a place for its own changes, each one that goes has to be there, and a list
that grows or shrinks has to be as long as it was. The operations can be carried out exactly then
(`admits_iff`).
-/

namespace PgOperator.Json

mutual

/-- Whether a document has a place for each of the changes that turn `before` into `after`. Where an
object has become something else, or a list, what matters is whether the operations can be carried
out: the keys of one may happen to be indices of the other. -/
def admits (doc before : Json) : (after : Json) → Bool
  | .obj after =>
    match before, doc with
    | .obj before, .obj members =>
      admitsMembers members before after &&
        before.all fun e =>
          (Sorted.get? e.1 after).isSome || (Sorted.get? e.1 members).isSome
    | .obj before, doc => ((diff (.obj before) (.obj after)).foldlM Operation.carryOut doc).isSome
    | _, _ => true
  | .arr after =>
    match before, doc with
    | .arr before, .arr items =>
      admitsItems items before after &&
        (before.length = after.length || before.length ≤ items.length)
    | .arr before, doc => ((diff (.arr before) (.arr after)).foldlM Operation.carryOut doc).isSome
    | _, _ => true
  | _ => true
termination_by structural after => after

def admitsMembers (members before : List (String × Json)) : (after : List (String × Json)) → Bool
  | [] => true
  | (key, value) :: rest =>
    (match Sorted.get? key before with
      | some old => old = value || (Sorted.get? key members).any fun part => admits part old value
      | none => true) && admitsMembers members before rest
termination_by structural after => after

def admitsItems (items before : List Json) : (after : List Json) → Bool
  | [] => true
  | value :: rest =>
    match before with
    | [] => true
    | old :: before =>
      (old = value || items.head?.any fun part => admits part old value) &&
        admitsItems items.tail before rest
termination_by structural after => after

end


/-! ### Documents that take a list of operations -/

/-- The operations can be carried out on the document, one after the other. -/
def Takes (ops : Patch) (doc : Json) : Prop := ∃ patched, Leads ops doc patched

namespace Takes

variable {ops more : Patch} {op : Operation} {doc : Json}

lemma nil (doc : Json) : Takes [] doc := ⟨doc, .nil doc⟩

lemma cons_iff :
    Takes (op :: ops) doc ↔ ∃ mid, Operation.carryOut doc op = some mid ∧ Takes ops mid := by
  constructor
  · rintro ⟨patched, h⟩
    obtain ⟨mid, hmid, hrest⟩ := Leads.cons_iff.1 h
    exact ⟨mid, hmid, patched, hrest⟩
  · rintro ⟨mid, hmid, patched, hrest⟩
    exact ⟨patched, Leads.cons_iff.2 ⟨mid, hmid, hrest⟩⟩

lemma append_iff : Takes (ops ++ more) doc ↔ ∃ mid, Leads ops doc mid ∧ Takes more mid := by
  constructor
  · rintro ⟨patched, h⟩
    rw [Leads, List.foldlM_append] at h
    obtain ⟨mid, hmid, hmore⟩ := Option.bind_eq_some_iff.1 h
    exact ⟨mid, hmid, patched, hmore⟩
  · rintro ⟨mid, hmid, patched, hmore⟩
    exact ⟨patched, hmid.append hmore⟩

lemma isSome_iff : (ops.foldlM Operation.carryOut doc).isSome = true ↔ Takes ops doc :=
  Option.isSome_iff_exists

end Takes

/-! ### Members of an object -/

lemma Operation.exists_members {op : Operation} {key : String} {rest : Pointer}
    {members : List (String × Json)} {after : Json} (hpath : op.path = key :: rest)
    (h : carryOut (.obj members) op = some after) :
    ∃ members', after = .obj members' ∧
      ∀ other, other ≠ key → Sorted.get? other members' = Sorted.get? other members := by
  have hinsert (value : Json) : ∀ other, other ≠ key →
      Sorted.get? other (Sorted.insert key value members) = Sorted.get? other members :=
    fun other hne => Sorted.get?_insert_of_ne hne value members
  have hwithin {change : Json → Option Json} (h : within key change (.obj members) = some after) :
      ∃ members', after = .obj members' ∧
        ∀ other, other ≠ key → Sorted.get? other members' = Sorted.get? other members := by
    simp only [within, Option.bind_eq_bind, Option.bind_eq_some_iff] at h
    obtain ⟨old, -, new, -, h⟩ := h
    exact ⟨_, (Option.some.inj h).symm, hinsert new⟩
  cases rest with
  | cons next more =>
    obtain ⟨inner, -, hstays, rfl⟩ := exists_below hpath
    rw [carryOut_below hstays] at h
    exact hwithin h
  | nil =>
    cases op with
    | add path value =>
      obtain rfl : path = [key] := hpath
      exact ⟨_, (Option.some.inj h).symm, hinsert value⟩
    | remove path =>
      obtain rfl : path = [key] := hpath
      obtain ⟨old, -, h⟩ := Option.bind_eq_some_iff.1 h
      exact ⟨_, (Option.some.inj h).symm, fun other hne => Sorted.get?_erase_of_ne hne members⟩
    | replace path value =>
      obtain rfl : path = [key] := hpath
      exact hwithin h

lemma Leads.exists_members (keys : List String) {ops : Patch} {members : List (String × Json)}
    {after : Json} (hops : ∀ op ∈ ops, ∃ key rest, op.path = key :: rest ∧ key ∈ keys)
    (h : Leads ops (.obj members) after) :
    ∃ members', after = .obj members' ∧
      ∀ other, other ∉ keys → Sorted.get? other members' = Sorted.get? other members := by
  induction ops generalizing members with
  | nil => exact ⟨members, (nil_iff.1 h).symm, fun _ _ => rfl⟩
  | cons op rest ih =>
    obtain ⟨hop, hrest⟩ := List.forall_mem_cons.1 hops
    obtain ⟨key, path, hpath, hkey⟩ := hop
    obtain ⟨mid, hmid, hthen⟩ := cons_iff.1 h
    obtain ⟨members', rfl, hsame⟩ := Operation.exists_members hpath hmid
    obtain ⟨members'', rfl, hsame'⟩ := ih hrest hthen
    refine ⟨members'', rfl, fun other hother => (hsame' other hother).trans (hsame other ?_)⟩
    rintro rfl
    exact hother hkey

lemma takes_below_obj {ops : Patch} (hops : ∀ op ∈ ops, op.Stays) {key : String}
    {members : List (String × Json)} :
    Takes (ops.map (.below key)) (.obj members) ↔
      ops = [] ∨ ∃ part, Sorted.get? key members = some part ∧ Takes ops part := by
  induction ops generalizing members with
  | nil => simp [Takes.nil]
  | cons op rest ih =>
    obtain ⟨hop, hrest⟩ := List.forall_mem_cons.1 hops
    rw [List.map_cons, Takes.cons_iff, Operation.carryOut_below hop]
    simp only [Operation.within, Option.bind_eq_bind, Option.bind_eq_some_iff, reduceCtorEq,
      false_or]
    constructor
    · rintro ⟨mid, ⟨part, hpart, new, hnew, hmid⟩, htakes⟩
      obtain rfl := Option.some.inj hmid
      refine ⟨part, hpart, Takes.cons_iff.2 ⟨new, hnew, ?_⟩⟩
      rcases (ih hrest).1 htakes with rfl | ⟨part', hpart', htakes⟩
      · exact .nil new
      · rw [Sorted.get?_insert_self] at hpart'
        exact Option.some.inj hpart' ▸ htakes
    · rintro ⟨part, hpart, htakes⟩
      obtain ⟨new, hnew, htakes⟩ := Takes.cons_iff.1 htakes
      exact ⟨_, ⟨part, hpart, new, hnew, rfl⟩,
        (ih hrest).2 (.inr ⟨new, Sorted.get?_insert_self key new members, htakes⟩)⟩

lemma takes_removals {keys : List String} (hkeys : keys.Nodup) (members : List (String × Json)) :
    Takes (keys.map fun key => .remove [key]) (.obj members) ↔
      ∀ key ∈ keys, (Sorted.get? key members).isSome = true := by
  induction keys generalizing members with
  | nil => simp [Takes.nil]
  | cons key rest ih =>
    obtain ⟨hkey, hrest⟩ := List.nodup_cons.1 hkeys
    have hsame : (∀ other ∈ rest, (Sorted.get? other (Sorted.erase key members)).isSome = true) ↔
        ∀ other ∈ rest, (Sorted.get? other members).isSome = true := by
      refine forall₂_congr fun other hother => ?_
      have hne : other ≠ key := fun heq => hkey (heq ▸ hother)
      rw [Sorted.get?_erase_of_ne hne]
    rw [List.map_cons, Takes.cons_iff, List.forall_mem_cons, ← hsame, ← ih hrest]
    cases hget : Sorted.get? key members <;>
      simp [Operation.carryOut, Operation.removeAt, hget]

/-! ### Items of a list -/

lemma takes_below_arr {ops : Patch} (hops : ∀ op ∈ ops, op.Stays) {i : Nat} {items : List Json} :
    Takes (ops.map (.below (toString i))) (.arr items) ↔
      ops = [] ∨ ∃ part, items[i]? = some part ∧ Takes ops part := by
  induction ops generalizing items with
  | nil => simp [Takes.nil]
  | cons op rest ih =>
    obtain ⟨hop, hrest⟩ := List.forall_mem_cons.1 hops
    rw [List.map_cons, Takes.cons_iff, Operation.carryOut_below hop]
    simp only [Operation.within, Option.bind_eq_bind, Option.bind_eq_some_iff, reduceCtorEq,
      false_or, toString, index?_repr, Option.some.injEq, exists_eq_left']
    constructor
    · rintro ⟨mid, ⟨part, hpart, new, hnew, hmid⟩, htakes⟩
      obtain rfl := Option.some.inj hmid
      refine ⟨part, hpart, Takes.cons_iff.2 ⟨new, hnew, ?_⟩⟩
      rcases (ih hrest).1 htakes with rfl | ⟨part', hpart', htakes⟩
      · exact .nil new
      · rw [List.getElem?_set_self (List.getElem?_eq_some_iff.1 hpart).1] at hpart'
        exact Option.some.inj hpart' ▸ htakes
    · rintro ⟨part, hpart, htakes⟩
      obtain ⟨new, hnew, htakes⟩ := Takes.cons_iff.1 htakes
      exact ⟨_, ⟨part, hpart, new, hnew, rfl⟩, (ih hrest).2
        (.inr ⟨new, List.getElem?_set_self (List.getElem?_eq_some_iff.1 hpart).1, htakes⟩)⟩

lemma Leads.exists_items {ops : Patch} (hops : ∀ op ∈ ops, op.Stays) {i : Nat} {items : List Json}
    {after : Json} (h : Leads (ops.map (.below (toString i))) (.arr items) after) :
    ∃ items', after = .arr items' ∧ items'.length = items.length ∧
      items'.drop (i + 1) = items.drop (i + 1) := by
  induction ops generalizing items with
  | nil => exact ⟨items, (nil_iff.1 h).symm, rfl, rfl⟩
  | cons op rest ih =>
    obtain ⟨hop, hrest⟩ := List.forall_mem_cons.1 hops
    obtain ⟨mid, hmid, hthen⟩ := cons_iff.1 h
    rw [Operation.carryOut_below hop] at hmid
    simp only [Operation.within, Option.bind_eq_bind, Option.bind_eq_some_iff, toString,
      index?_repr, Option.some.injEq, exists_eq_left'] at hmid
    obtain ⟨part, -, new, -, hmid⟩ := hmid
    obtain rfl := Option.some.inj hmid
    obtain ⟨items', rfl, hlength, hdrop⟩ := ih hrest hthen
    refine ⟨items', rfl, hlength.trans List.length_set, hdrop.trans ?_⟩
    exact List.drop_set_of_lt (Nat.lt_succ_self i)

lemma takes_shrinking {i : Nat} {surplus items : List Json} :
    Takes (surplus.map fun _ => .remove [toString i]) (.arr items) ↔
      surplus = [] ∨ i + surplus.length ≤ items.length := by
  induction surplus generalizing items with
  | nil => simp [Takes.nil]
  | cons first rest ih =>
    rw [List.map_cons, Takes.cons_iff]
    simp only [Operation.carryOut, Operation.removeAt, Option.bind_eq_bind, toString, index?_repr,
      Option.bind_some, reduceCtorEq, false_or, List.length_cons]
    by_cases hi : i < items.length
    · simp only [if_pos hi, Option.some.injEq, exists_eq_left']
      refine ih.trans ?_
      rw [List.length_eraseIdx_of_lt hi]
      cases rest with
      | nil => simp; omega
      | cons next more => simp; omega
    · simp only [if_neg hi, reduceCtorEq, false_and, exists_false, false_iff]
      omega

/-! ### Documents that take a difference -/

lemma diff_eq_nil_iff {before after : Json} (hbefore : before.Ordered) (hafter : after.Ordered) :
    diff before after = [] ↔ before = after := by
  constructor
  · intro hnil
    have hleads := leads_diff hbefore hafter
    rwa [hnil, Leads.nil_iff] at hleads
  · rintro rfl
    exact diff_self hafter

lemma mem_keys_diffMembers {before after : List (String × Json)} {op : Operation}
    (h : op ∈ diffMembers before after) :
    ∃ key rest, op.path = key :: rest ∧ key ∈ after.map Prod.fst := by
  obtain ⟨key, value, hmem, ⟨old, inner, -, -, rfl⟩ | ⟨-, rfl⟩⟩ := mem_diffMembers h
  · exact ⟨key, _, Operation.path_below key inner, List.mem_map_of_mem hmem⟩
  · exact ⟨key, [], rfl, List.mem_map_of_mem hmem⟩

lemma takes_surplus {before after members members' : List (String × Json)}
    (hbefore : Sorted.Ordered before)
    (hsame : ∀ key, key ∉ after.map Prod.fst →
      Sorted.get? key members' = Sorted.get? key members) :
    (before.all fun e => (Sorted.get? e.1 after).isSome || (Sorted.get? e.1 members).isSome) =
        true ↔
      Takes ((before.filter fun e => (Sorted.get? e.1 after).isNone).map fun e => .remove [e.1])
        (.obj members') := by
  have hkeys : ((before.filter fun e => (Sorted.get? e.1 after).isNone).map Prod.fst).Nodup :=
    hbefore.nodup_keys.sublist (List.filter_sublist.map _)
  have htakes := takes_removals hkeys members'
  rw [List.map_map] at htakes
  refine Iff.trans ?_ htakes.symm
  simp only [List.all_eq_true, List.forall_mem_map, List.mem_filter, and_imp]
  refine forall₂_congr fun e he => ?_
  cases hget : Sorted.get? e.1 after with
  | some value => simp
  | none => simp [hsame e.1 (Sorted.get?_eq_none_iff.1 hget)]

mutual

/-- **A document takes a difference** if and only if it has a place for each of the changes. -/
theorem admits_iff : {doc before after : Json} → before.Ordered → after.Ordered →
    (admits doc before after = true ↔ Takes (diff before after) doc)
  | doc, before, .obj after, hbefore, hafter => by
    cases before with
    | obj before =>
      cases doc with
      | obj members =>
        obtain ⟨hb, hbs⟩ := ordered_obj.1 hbefore
        have hkeep : ∀ key ∈ after.map Prod.fst,
            Sorted.get? key members = Sorted.get? key members := fun _ _ => rfl
        have hmembers := admitsMembers_iff hbs hafter.1.nodup_keys hafter.2 hkeep
        rw [diff, Takes.append_iff, admits, Bool.and_eq_true, hmembers]
        -- Changes of members come first; they leave the members that go as they were.
        refine exists_and_right.symm.trans (exists_congr fun mid => and_congr_right fun hmid => ?_)
        obtain ⟨members', rfl, hsame⟩ := hmid.exists_members _ fun op => mem_keys_diffMembers
        exact takes_surplus hb hsame
      | _ => exact Takes.isSome_iff
    | _ => exact iff_of_true rfl ⟨_, Leads.singleton rfl⟩
  | doc, before, .arr after, hbefore, hafter => by
    cases before with
    | arr before =>
      cases doc with
      | arr items =>
        have hitems := admitsItems_iff (ordered_arr.1 hbefore) hafter 0 items
        simpa [admits, diff] using hitems
      | _ => exact Takes.isSome_iff
    | _ => exact iff_of_true rfl ⟨_, Leads.singleton rfl⟩
  | doc, before, .null, _, _ | doc, before, .bool _, _, _ | doc, before, .int _, _, _
  | doc, before, .real _, _, _ | doc, before, .str _, _, _ => by
    refine iff_of_true rfl ?_
    simp only [diff]
    split
    · exact .nil doc
    · exact ⟨_, Leads.singleton rfl⟩
termination_by structural _ _ after => after

theorem admitsMembers_iff : {before after : List (String × Json)} →
    (∀ e ∈ before, e.2.Ordered) → (after.map Prod.fst).Nodup → OrderedMembers after →
    {members current : List (String × Json)} →
    (∀ key ∈ after.map Prod.fst, Sorted.get? key current = Sorted.get? key members) →
    (admitsMembers members before after = true ↔ Takes (diffMembers before after) (.obj current))
  | _, [], _, _, _, _, current, _ => iff_of_true rfl (.nil (.obj current))
  | before, (key, value) :: rest, hbs, hnodup, hafter, members, current, hsame => by
    obtain ⟨hkey, hrest⟩ := List.nodup_cons.1 hnodup
    have hfirst : (match Sorted.get? key before with
        | some old => old = value || (Sorted.get? key members).any fun part => admits part old value
        | none => true) = true ↔
          Takes (match Sorted.get? key before with
            | some old => (diff old value).map (.below key)
            | none => [.add [key] value]) (.obj current) := by
      cases hold : Sorted.get? key before with
      | none => exact iff_of_true rfl ⟨_, Leads.singleton rfl⟩
      | some old =>
        have holdOrdered := hbs _ (Sorted.mem_keys_of_get? hold)
        simp only [Bool.or_eq_true, decide_eq_true_eq, Option.any_eq_true]
        rw [takes_below_obj (stays_diff old value), diff_eq_nil_iff holdOrdered hafter.1,
          hsame key List.mem_cons_self]
        exact or_congr_right (exists_congr fun part => and_congr_right fun _ =>
          admits_iff holdOrdered hafter.1)
    rw [admitsMembers, diffMembers, Bool.and_eq_true, Takes.append_iff, hfirst]
    refine exists_and_right.symm.trans (exists_congr fun mid => and_congr_right fun hmid => ?_)
    -- What the first operations leave has the other members still.
    obtain ⟨current', rfl, hothers⟩ := hmid.exists_members [key] fun op hop => by
      revert hop
      cases Sorted.get? key before with
      | none =>
        intro hop
        exact ⟨key, [], by rw [List.mem_singleton.1 hop]; rfl, List.mem_singleton.2 rfl⟩
      | some old =>
        intro hop
        obtain ⟨inner, -, rfl⟩ := List.mem_map.1 hop
        exact ⟨key, _, Operation.path_below key inner, List.mem_singleton.2 rfl⟩
    refine admitsMembers_iff hbs hrest hafter.2 fun other hother => ?_
    have hne : other ∉ [key] := fun hmem => hkey (List.mem_singleton.1 hmem ▸ hother)
    exact (hothers other hne).trans (hsame other (List.mem_cons_of_mem _ hother))
termination_by structural _ after => after

theorem admitsItems_iff : {before after : List Json} → (∀ item ∈ before, item.Ordered) →
    OrderedItems after → (i : Nat) → (items : List Json) →
    (admitsItems (items.drop i) before after = true ∧
        (before.length = after.length ∨ i + before.length ≤ items.length) ↔
      Takes (diffItems i before after) (.arr items))
  | before, [], _, _, i, items => by
    rw [diffItems, takes_shrinking, ← List.length_eq_zero_iff]
    exact and_iff_right rfl
  | [], value :: rest, _, hafter, i, items => by
    have hadd : Operation.carryOut (.arr items) (.add [toString i] value) =
        if i ≤ items.length then some (.arr (items.insertIdx i value)) else none := by
      have := toString_ne_dash i
      simp_all [Operation.carryOut, Operation.addAt]
    rw [diffItems, Takes.cons_iff, hadd]
    by_cases hi : i ≤ items.length
    · have hthen := admitsItems_iff (List.forall_mem_nil _) hafter.2 (i + 1)
        (items.insertIdx i value)
      have hlength : i + 1 ≤ (items.insertIdx i value).length := by
        rw [List.length_insertIdx_of_le_length hi]
        omega
      rw [if_pos hi]
      refine iff_of_true ⟨rfl, .inr hi⟩ ⟨_, rfl, hthen.1 ⟨?_, .inr hlength⟩⟩
      cases rest <;> rfl
    · rw [if_neg hi]
      refine iff_of_false (fun h => ?_) ?_
      · have := h.2
        simp at this
        omega
      · rintro ⟨_, h, -⟩
        cases h
  | old :: before, value :: rest, hbs, hafter, i, items => by
    obtain ⟨hold, hbefore⟩ := List.forall_mem_cons.1 hbs
    have hfirst : (old = value ∨ (items.drop i).head?.any (fun part => admits part old value)) ↔
        Takes ((diff old value).map (.below (toString i))) (.arr items) := by
      rw [takes_below_arr (stays_diff old value), diff_eq_nil_iff hold hafter.1,
        List.head?_drop, Option.any_eq_true]
      exact or_congr_right (exists_congr fun part => and_congr_right fun _ =>
        admits_iff hold hafter.1)
    rw [diffItems, Takes.append_iff, admitsItems, Bool.and_eq_true, Bool.or_eq_true,
      decide_eq_true_eq, hfirst, and_assoc]
    refine exists_and_right.symm.trans (exists_congr fun mid => and_congr_right fun hmid => ?_)
    -- Changes within an item leave the number of items, and those behind it.
    obtain ⟨items', rfl, hlength, hdrop⟩ := hmid.exists_items (stays_diff old value)
    rw [← admitsItems_iff hbefore hafter.2, hlength, hdrop, List.tail_drop]
    simp only [List.length_cons]
    refine and_congr_right fun _ => ?_
    omega
termination_by structural _ after => after

end

/-! ### What does not matter -/

lemma admitsMembers_congr {members members' before after : List (String × Json)}
    (h : ∀ key old value, Sorted.get? key before = some old → (key, value) ∈ after → old ≠ value →
      ((Sorted.get? key members').any fun part => admits part old value) =
        (Sorted.get? key members).any fun part => admits part old value) :
    admitsMembers members' before after = admitsMembers members before after := by
  induction after with
  | nil => rfl
  | cons e rest ih =>
    obtain ⟨key, value⟩ := e
    have hrest := ih fun key old value hold hmem =>
      h key old value hold (List.mem_cons_of_mem _ hmem)
    rw [admitsMembers, admitsMembers, hrest]
    cases hold : Sorted.get? key before with
    | none => rfl
    | some old =>
      by_cases hne : old = value
      · simp [hne]
      · simp only [h key old value hold List.mem_cons_self hne]

lemma admits_obj_congr {members members' before after : List (String × Json)}
    (hparts : ∀ key old value, Sorted.get? key before = some old → (key, value) ∈ after →
      old ≠ value → ((Sorted.get? key members').any fun part => admits part old value) =
        (Sorted.get? key members).any fun part => admits part old value)
    (hkeys : ∀ key, (Sorted.get? key members').isSome = (Sorted.get? key members).isSome) :
    admits (.obj members') (.obj before) (.obj after) =
      admits (.obj members) (.obj before) (.obj after) := by
  simp only [admits, admitsMembers_congr hparts, hkeys]

lemma isSome_get?_insert {key : String} {members : List (String × Json)}
    (h : (Sorted.get? key members).isSome = true) (value : Json) (other : String) :
    (Sorted.get? other (Sorted.insert key value members)).isSome =
      (Sorted.get? other members).isSome := by
  by_cases hother : other = key
  · rw [hother, Sorted.get?_insert_self, h, Option.isSome_some]
  · rw [Sorted.get?_insert_of_ne hother]

/-- **Agreement does not matter**: where the members `outer` of two objects are objects that agree
under `inner`, a document may say anything in that place. -/
lemma admits_insert_insert {members part before after beforePart afterPart : List (String × Json)}
    (hafter : (obj after).Ordered) {outer inner : String}
    (hb : Sorted.get? outer before = some (.obj beforePart))
    (ha : Sorted.get? outer after = some (.obj afterPart))
    (hsame : Sorted.get? inner beforePart = Sorted.get? inner afterPart)
    (hpart : Sorted.get? outer members = some (.obj part))
    (hinner : (Sorted.get? inner part).isSome = true) (value : Json) :
    admits (.obj (Sorted.insert outer (.obj (Sorted.insert inner value part)) members))
        (.obj before) (.obj after) =
      admits (.obj members) (.obj before) (.obj after) := by
  obtain ⟨hordered, hparts⟩ := ordered_obj.1 hafter
  have hget {key : String} {value : Json} (h : (key, value) ∈ after) :
      Sorted.get? key after = some value := (Sorted.get?_eq_some_iff hordered.nodup_keys).2 h
  have hkeys : ∀ key old value, Sorted.get? key beforePart = some old → (key, value) ∈ afterPart →
      old ≠ value → key ≠ inner := by
    rintro key old new hold hmem hne rfl
    have hnodup := (ordered_obj.1 (hparts _ (Sorted.mem_keys_of_get? ha))).1.nodup_keys
    rw [hold, (Sorted.get?_eq_some_iff hnodup).2 hmem] at hsame
    exact hne (Option.some.inj hsame)
  refine admits_obj_congr (fun key old new hold hmem _ => ?_)
    (isSome_get?_insert (by rw [hpart]; rfl) _)
  by_cases hkey : key = outer
  · subst hkey
    obtain rfl := Option.some.inj (hb.symm.trans hold)
    obtain rfl := Option.some.inj (ha.symm.trans (hget hmem))
    rw [Sorted.get?_insert_self, hpart, Option.any_some, Option.any_some]
    refine admits_obj_congr (fun key old new hold hmem hne => ?_) (isSome_get?_insert hinner _)
    rw [Sorted.get?_insert_of_ne (hkeys key old new hold hmem hne)]
  · rw [Sorted.get?_insert_of_ne hkey]

end PgOperator.Json
