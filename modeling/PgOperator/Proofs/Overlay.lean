import Mathlib.Data.List.Basic
import Mathlib.Tactic.Lemma
import PgOperator.Proofs.Upsert

/-!
Which items a merged list holds.

The first item of a key has all new items of that key laid over it (`find?_foldl_lay`), so merging
changes nothing exactly if each of these items stays (`foldl_lay_eq_self_iff`). Items that replace
others are said outright: the list that comes out is the old one with the last new item of each key
in place, and behind it the last item of each new key (`upsertAll_eq_overlaid`).
-/

namespace PgOperator

variable {α κ : Type} [DecidableEq κ]
variable {key : α → κ} {combine : α → α → α} {items new : List α} {item : α}

/-! ### The first item of a key -/

lemma decide_key_comm (k : κ) : (fun x => decide (key x = k)) = fun x => decide (k = key x) :=
  funext fun _ => decide_eq_decide.2 eq_comm

/-- Lays an item over the one there is, if there is one. -/
def layOver (combine : α → α → α) (found : Option α) (item : α) : Option α :=
  some ((found.map (combine · item)).getD item)

lemma foldl_layOver_some (new : List α) (found : α) :
    new.foldl (layOver combine) (some found) = some (new.foldl combine found) := by
  induction new generalizing found with
  | nil => rfl
  | cons item rest ih => exact ih (combine found item)

lemma find?_foldl_lay (hnew : ∀ item ∈ new, KeepsKey key combine item) (k : κ) (items : List α) :
    (new.foldl (lay key combine) items).find? (fun x => key x = k) =
      (new.filter fun x => key x = k).foldl (layOver combine)
        (items.find? fun x => key x = k) := by
  induction new generalizing items with
  | nil => rfl
  | cons item rest ih =>
    obtain ⟨hitem, hrest⟩ := List.forall_mem_cons.1 hnew
    rw [List.foldl_cons, ih hrest]
    by_cases hk : key item = k
    · rw [List.filter_cons_of_pos (by simpa using hk), List.foldl_cons, ← hk,
        find?_lay_self hitem, layOver]
    · rw [List.filter_cons_of_neg (by simpa using hk), find?_lay_of_ne hitem (Ne.symm hk)]

/-- The keys that no old item has, each once, in the order in which they come first. -/
def newKeys (key : α → κ) (items new : List α) : List κ :=
  ((new.map key).filter fun k => k ∉ items.map key).eraseDups

lemma map_key_foldl_lay (hnew : ∀ item ∈ new, KeepsKey key combine item) (items : List α) :
    (new.foldl (lay key combine) items).map key = items.map key ++ newKeys key items new := by
  induction new generalizing items with
  | nil => simp [newKeys]
  | cons item rest ih =>
    obtain ⟨hitem, hrest⟩ := List.forall_mem_cons.1 hnew
    rw [List.foldl_cons, ih hrest, newKeys, newKeys, map_key_lay hitem, List.map_cons]
    by_cases hk : key item ∈ items.map key
    · rw [if_pos hk, List.filter_cons_of_neg (by simpa using hk)]
    · have hothers : (rest.map key).filter (fun k => k ∉ items.map key ++ [key item]) =
          ((rest.map key).filter fun k => k ∉ items.map key).filter fun k => !k == key item := by
        rw [List.filter_filter]
        refine List.filter_congr fun k _ => ?_
        by_cases hself : k = key item <;> simp [hself]
      rw [if_neg hk, List.filter_cons_of_pos (by simpa using hk), List.eraseDups_cons, hothers,
        List.append_assoc, List.singleton_append]

lemma filter_filter_key {k other : κ} (h : other ≠ k) (items : List α) :
    (items.filter fun x => ¬ other = key x).filter (fun x => key x = k) =
      items.filter fun x => key x = k := by
  rw [List.filter_filter]
  refine List.filter_congr fun x _ => ?_
  by_cases hx : key x = k <;> simp [hx, h]

lemma exists_find?_of_mem_keys {k : κ} (h : k ∈ items.map key) :
    ∃ found, items.find? (fun x => key x = k) = some found := by
  obtain ⟨x, hx, rfl⟩ := List.mem_map.1 h
  refine Option.isSome_iff_exists.1 (List.find?_isSome.2 ⟨x, hx, ?_⟩)
  exact decide_eq_true rfl

/-- Merging changes nothing if and only if for each new key there is an item which stays when the
new items of that key are laid over it. -/
theorem foldl_lay_eq_self_iff (hnew : ∀ item ∈ new, KeepsKey key combine item) :
    new.foldl (lay key combine) items = items ↔
      ∀ k ∈ new.map key, ∃ found, items.find? (fun x => key x = k) = some found ∧
        (new.filter fun x => key x = k).foldl combine found = found := by
  constructor
  · intro h k hk
    have hmem : k ∈ items.map key := h ▸ (mem_keys_foldl_lay hnew).2 (.inr hk)
    obtain ⟨found, hfound⟩ := exists_find?_of_mem_keys hmem
    have hstays := find?_foldl_lay hnew k items
    rw [h, hfound, foldl_layOver_some] at hstays
    exact ⟨found, hfound, (Option.some.inj hstays).symm⟩
  · intro h
    -- On the old items: the first one takes the new items of its key, the rest the other ones.
    induction items generalizing new with
    | nil =>
      cases new with
      | nil => rfl
      | cons item rest =>
        obtain ⟨found, hfound, -⟩ := h (key item) List.mem_cons_self
        exact absurd hfound nofun
    | cons x rest ih =>
      rw [foldl_lay_cons hnew, List.cons_eq_cons]
      constructor
      · by_cases hx : key x ∈ new.map key
        · obtain ⟨found, hfound, hstays⟩ := h (key x) hx
          obtain rfl : x = found := by simpa using hfound
          simpa only [eq_comm] using hstays
        · rw [(filter_key_of_not_mem hx).1, List.foldl_nil]
      · refine ih (fun item hitem => hnew item (List.mem_filter.1 hitem).1) fun k hk => ?_
        obtain ⟨item, hitem, rfl⟩ := List.mem_map.1 hk
        obtain ⟨hitem, hne⟩ := List.mem_filter.1 hitem
        have hne : key x ≠ key item := of_decide_eq_true hne
        obtain ⟨found, hfound, hstays⟩ := h (key item) (List.mem_map_of_mem hitem)
        refine ⟨found, by simpa [hne] using hfound, ?_⟩
        rw [filter_filter_key hne, hstays]

/-! ### Items that replace others -/

/-- New items change nothing if and only if the last one of each key is the first item of that key
already. -/
theorem upsertAll_eq_self_iff : upsertAll key items new = items ↔
    ∀ k last, new.findRev? (fun x => k = key x) = some last →
      items.find? (fun x => k = key x) = some last := by
  have hreplaced (k : κ) (found : α) :
      (new.filter fun x => k = key x).foldl (fun _ item => item) found =
        (new.findRev? fun x => k = key x).getD found := by
    rw [foldl_last, List.getLast?_filter, ← List.findRev?_eq_find?_reverse]
  refine (foldl_lay_eq_self_iff fun item _ => keepsKey_replace item).trans ?_
  simp only [decide_key_comm, hreplaced]
  constructor
  · intro h k last hlast
    obtain ⟨hmem, rfl⟩ := mem_of_findRev?_key hlast
    obtain ⟨found, hfound, hstays⟩ := h _ (List.mem_map_of_mem hmem)
    rw [hlast, Option.getD_some] at hstays
    rw [hfound, hstays]
  · intro h k hk
    obtain ⟨item, hitem, rfl⟩ := List.mem_map.1 hk
    obtain ⟨last, hlast⟩ := exists_findRev?_of_mem key hitem
    exact ⟨last, h _ last hlast, by rw [hlast, Option.getD_some]⟩

/-- The last item of each key, in the order in which the keys come first. -/
def lastOfEach (key : α → κ) (items : List α) : List α :=
  (items.map key).eraseDups.filterMap fun k => items.findRev? fun x => k = key x

/-- Items under others: each has its place, and the last item above of its key in it if there is
one; behind them there is the last item of each key that is above only. -/
def overlaid (key : α → κ) (below above : List α) : List α :=
  below.map (fun x => (above.findRev? fun y => key x = key y).getD x) ++
    lastOfEach key (above.filter fun y => key y ∉ below.map key)

lemma findRev?_append (p : α → Bool) (items more : List α) :
    (items ++ more).findRev? p = (more.findRev? p).or (items.findRev? p) := by
  simp only [List.findRev?_eq_find?_reverse, List.reverse_append, List.find?_append]

lemma findRev?_key_eq_none {k : κ} :
    items.findRev? (fun x => k = key x) = none ↔ k ∉ items.map key := by
  rw [List.findRev?_eq_find?_reverse, List.find?_eq_none, List.mem_map]
  simp only [List.mem_reverse, decide_eq_true_eq]
  exact ⟨fun h ⟨x, hx, heq⟩ => h x hx heq.symm, fun h x hx heq => h ⟨x, hx, heq.symm⟩⟩

lemma find?_key_eq_none {k : κ} :
    items.find? (fun x => k = key x) = none ↔ k ∉ items.map key := by
  rw [← findRev?_key_eq_none, List.findRev?_eq_find?_reverse, List.find?_eq_none,
    List.find?_eq_none]
  simp only [List.mem_reverse]

lemma findRev?_key_cons (k : κ) (x : α) (rest : List α) :
    (x :: rest).findRev? (fun y => k = key y) =
      (rest.findRev? fun y => k = key y).or (if k = key x then some x else none) := by
  have hx : [x].findRev? (fun y => k = key y) = if k = key x then some x else none := by
    rw [List.findRev?_eq_find?_reverse, List.reverse_singleton, find?_key_cons]
    rfl
  rw [← hx, ← findRev?_append]
  rfl

lemma lastOfEach_cons (x : α) (rest : List α) :
    lastOfEach key (x :: rest) = (rest.findRev? fun y => key x = key y).getD x ::
      lastOfEach key (rest.filter fun y => ¬ key x = key y) := by
  have hkeys : ((rest.map key).filter fun k => !k == key x) =
      (rest.filter fun y => ¬ key x = key y).map key := by
    rw [List.filter_map]
    refine congrArg _ (List.filter_congr fun y _ => ?_)
    by_cases hy : key x = key y
    · simp [hy]
    · simp [hy, Ne.symm hy]
  rw [lastOfEach, List.map_cons, List.eraseDups_cons, hkeys, List.filterMap_cons,
    findRev?_key_cons, if_pos rfl, Option.or_some]
  refine congrArg _ (List.filterMap_congr fun k hk => ?_)
  obtain ⟨y, hy, rfl⟩ := List.mem_map.1 (List.mem_eraseDups.1 hk)
  have hne : ¬ key x = key y := of_decide_eq_true (List.mem_filter.1 hy).2
  rw [findRev?_key_cons, findRev?_filter_key, if_neg (Ne.symm hne), if_neg (Ne.symm hne),
    Option.or_none]

lemma upsertAll_nil (key : α → κ) (new : List α) : upsertAll key [] new = lastOfEach key new := by
  -- Each key is taken out of the list where it comes first, so the recursion is on the length.
  cases new with
  | nil => rfl
  | cons item rest =>
    have hfirst : upsertAll key [] (item :: rest) = upsertAll key [item] rest := rfl
    rw [hfirst, upsertAll_cons, lastOfEach_cons, upsertAll_nil key (rest.filter _)]
termination_by new.length
decreasing_by exact Nat.lt_succ_of_le (List.length_filter_le _ _)

/-- **The list that comes out**, where no two old items have one key. -/
theorem upsertAll_eq_overlaid (hkeys : (items.map key).Nodup) (new : List α) :
    upsertAll key items new = overlaid key items new := by
  induction items generalizing new with
  | nil =>
    rw [upsertAll_nil, overlaid, List.filter_eq_self.2 fun x _ => by simp]
    rfl
  | cons x rest ih =>
    obtain ⟨hhead, htail⟩ := List.nodup_cons.1 hkeys
    have hplaces : rest.map (fun y =>
        ((new.filter fun z => ¬ key x = key z).findRev? fun z => key y = key z).getD y) =
          rest.map fun y => (new.findRev? fun z => key y = key z).getD y := by
      refine List.map_congr_left fun y hy => ?_
      have hne : key y ≠ key x := fun heq => hhead (heq ▸ List.mem_map_of_mem hy)
      rw [findRev?_filter_key, if_neg hne]
    have hothers : (new.filter fun z => ¬ key x = key z).filter (fun z => key z ∉ rest.map key) =
        new.filter fun z => key z ∉ (x :: rest).map key := by
      rw [List.filter_filter]
      refine List.filter_congr fun z _ => ?_
      by_cases hz : key x = key z
      · simp [hz]
      · simp [hz, Ne.symm hz]
    rw [upsertAll_cons, ih htail, overlaid, hplaces, hothers]
    rfl

example : overlaid (·.1) [("a", 1), ("b", 2)] [("c", 3), ("b", 4), ("c", 5)] =
    [("a", 1), ("b", 4), ("c", 5)] := by
  decide

lemma upsertAll_append (key : α → κ) (items new more : List α) :
    upsertAll key items (new ++ more) = upsertAll key (upsertAll key items new) more :=
  List.foldl_append

lemma upsert_upsert {first second : α} (h : key first = key second) (items : List α) :
    upsert key (upsert key items first) second = upsert key items second := by
  induction items with
  | nil => simp [upsert, upsertWith, h]
  | cons x rest ih =>
    by_cases hx : key x = key second
    · simp [upsert, upsertWith, h, hx]
    · simpa [upsert, upsertWith, h, hx] using ih

lemma find?_upsert (k : κ) (items : List α) (item : α) :
    (upsert key items item).find? (fun x => k = key x) =
      (if k = key item then some item else none).or (items.find? fun x => k = key x) := by
  rw [← decide_key_comm]
  by_cases hk : k = key item
  · subst hk
    rw [if_pos rfl, Option.some_or]
    refine (find?_lay_self (keepsKey_replace item) items).trans ?_
    cases items.find? fun x => key x = key item <;> rfl
  · rw [if_neg hk, Option.none_or]
    exact find?_lay_of_ne (keepsKey_replace item) hk items

lemma find?_upsertAll (k : κ) (items new : List α) :
    (upsertAll key items new).find? (fun x => k = key x) =
      (new.findRev? fun x => k = key x).or (items.find? fun x => k = key x) := by
  induction new generalizing items with
  | nil => rfl
  | cons item rest ih =>
    refine (ih (upsert key items item)).trans ?_
    rw [find?_upsert, findRev?_key_cons, Option.or_assoc]

/-- Merging the same items again changes nothing, even if they repeat keys. -/
theorem upsertAll_upsertAll_self (items new : List α) :
    upsertAll key (upsertAll key items new) new = upsertAll key items new := by
  refine upsertAll_eq_self_iff.2 fun k last hlast => ?_
  rw [find?_upsertAll, hlast, Option.some_or]

lemma filter_upsert (k : κ) (items : List α) (item : α) :
    (upsert key items item).filter (fun x => ¬ k = key x) =
      if k = key item then items.filter fun x => ¬ k = key x
      else upsert key (items.filter fun x => ¬ k = key x) item := by
  induction items with
  | nil => by_cases hk : k = key item <;> simp [upsert, upsertWith, hk]
  | cons x rest ih =>
    by_cases hx : key x = key item
    · by_cases hk : k = key item <;> simp [upsert, upsertWith, hx, hk]
    · have hrest : upsert key (x :: rest) item = x :: upsert key rest item := if_neg hx
      rw [hrest, List.filter_cons, List.filter_cons, ih]
      by_cases hk : k = key item
      · simp [hk]
      · by_cases hkx : k = key x
        · simp [hkx]
        · simp [hk, hkx, upsert, upsertWith, hx]

lemma filter_upsertAll (k : κ) (items new : List α) :
    (upsertAll key items new).filter (fun x => ¬ k = key x) =
      upsertAll key (items.filter fun x => ¬ k = key x) (new.filter fun x => ¬ k = key x) := by
  induction new generalizing items with
  | nil => rfl
  | cons item rest ih =>
    refine (ih (upsert key items item)).trans ?_
    rw [filter_upsert, List.filter_cons]
    by_cases hk : k = key item
    · simp [hk]
    · simp only [hk, if_false, not_false_eq_true, decide_true, if_true]
      rfl

lemma nodup_keys_upsertAll (hkeys : (items.map key).Nodup) (new : List α) :
    ((upsertAll key items new).map key).Nodup :=
  nodup_keys_foldl_lay (fun item _ => keepsKey_replace item) hkeys

lemma upsertAll_nil_eq_self (hkeys : (new.map key).Nodup) : upsertAll key [] new = new :=
  foldl_lay_nil (fun item _ => keepsKey_replace item) hkeys

lemma findRev?_eq_find? (hkeys : (items.map key).Nodup) (k : κ) :
    items.findRev? (fun x => k = key x) = items.find? fun x => k = key x := by
  have hself : (upsertAll key [] items).find? (fun x => k = key x) = _ := find?_upsertAll k [] items
  rw [upsertAll_nil_eq_self hkeys, List.find?_nil, Option.or_none] at hself
  exact hself.symm

/-- Items may be merged with each other before. -/
theorem upsertAll_upsertAll_nil (items new : List α) :
    upsertAll key items (upsertAll key [] new) = upsertAll key items new := by
  have hnone : (([] : List α).map key).Nodup := .nil
  induction items generalizing new with
  | nil => exact upsertAll_nil_eq_self (nodup_keys_upsertAll hnone new)
  | cons x rest ih =>
    rw [upsertAll_cons, upsertAll_cons, findRev?_eq_find? (nodup_keys_upsertAll hnone new),
      find?_upsertAll, List.find?_nil, Option.or_none, filter_upsertAll, List.filter_nil, ih]

end PgOperator
