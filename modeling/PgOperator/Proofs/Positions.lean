import Mathlib.Tactic.Lemma
import PgOperator.Merge
import PgOperator.Proofs.Overlay

/-!
Where the items of a merged list stand.

An old item stays in its position, and it stays what it is unless it is the first one of its key and
there is a new one of that key (`getElem?_foldl_upsert`). Together with the keys that come out, and
with what is found first under each of them, this tells which item stands where (`Upserts`), however
often keys repeat among the old items or the new ones.
-/

namespace PgOperator

variable {α κ : Type} [DecidableEq κ]
variable {key : α → κ} {items new : List α} {item x : α} {i : Nat}

lemma getElem?_upsert (hx : items[i]? = some x)
    (hother : key x ≠ key item ∨ key x ∈ (items.take i).map key) :
    (upsert key items item)[i]? = some x := by
  -- On the old items: an item is replaced only as the first one of the new item's key.
  induction items generalizing i with
  | nil => exact absurd hx nofun
  | cons y rest ih =>
    by_cases hy : key y = key item
    · have hresult : upsert key (y :: rest) item = item :: rest := if_pos hy
      rw [hresult]
      cases i with
      | zero =>
        obtain rfl : y = x := Option.some.inj hx
        exact (hother.elim (fun hne => hne hy) List.not_mem_nil).elim
      | succ i => exact hx
    · have hresult : upsert key (y :: rest) item = y :: upsert key rest item := if_neg hy
      rw [hresult]
      cases i with
      | zero => exact hx
      | succ i =>
        refine ih hx ?_
        rcases hother with hne | hearlier
        · exact .inl hne
        · rcases List.mem_cons.1 hearlier with heq | hearlier
          · exact .inl fun hitem => hy (heq ▸ hitem)
          · exact .inr hearlier

lemma upsert_of_not_mem (h : key item ∉ items.map key) :
    upsert key items item = items ++ [item] := by
  induction items with
  | nil => rfl
  | cons y rest ih =>
    obtain ⟨hy, hrest⟩ := List.ne_and_not_mem_of_not_mem_cons h
    have hresult : upsert key (y :: rest) item = y :: upsert key rest item := if_neg (Ne.symm hy)
    rw [hresult, ih hrest]
    rfl

lemma take_map_key_upsert (hi : i ≤ items.length) :
    ((upsert key items item).take i).map key = (items.take i).map key := by
  have hkeys : (upsert key items item).map key = _ := map_key_lay (keepsKey_replace item) items
  rw [List.map_take, List.map_take, hkeys]
  split
  · rfl
  · exact List.take_append_of_le_length (by simpa using hi)

/-- **Old items stay in their positions**, and those that are not the first ones of new keys stay
what they are. -/
lemma getElem?_foldl_upsert (hx : items[i]? = some x)
    (hother : key x ∉ new.map key ∨ key x ∈ (items.take i).map key) :
    (new.foldl (upsert key) items)[i]? = some x := by
  induction new generalizing items with
  | nil => exact hx
  | cons item rest ih =>
    have hi : i ≤ items.length := Nat.le_of_lt (List.getElem?_eq_some_iff.1 hx).1
    refine ih (getElem?_upsert hx ?_) ?_
    · exact hother.imp_left fun hnew heq => hnew (heq ▸ List.mem_cons_self)
    · rw [take_map_key_upsert hi]
      exact hother.imp_left fun hnew hrest => hnew (List.mem_cons_of_mem _ hrest)

/-- Merging puts new items in the place of the first old ones of their keys, and those of new keys
behind the old items. -/
structure Upserts (key : α → κ) (merge : List α → List α → List α) : Prop where
  /-- The old keys stand where they stood, and behind them each new key where it comes first. -/
  keys : ∀ items new, (merge items new).map key = items.map key ++ newKeys key items new
  /-- The first item of a new key is the last new one. -/
  first : ∀ items new, ∀ k ∈ new.map key,
    (merge items new).find? (fun x => k = key x) = new.findRev? fun x => k = key x
  /-- Items of other keys, and those behind the first one of their key, are left alone. -/
  others : ∀ items new i x, items[i]? = some x →
    key x ∉ new.map key ∨ key x ∈ (items.take i).map key → (merge items new)[i]? = some x
  nodup : ∀ items new, (items.map key).Nodup → ((merge items new).map key).Nodup
  again : ∀ items new, merge (merge items new) new = merge items new

lemma upserts_foldl (key : α → κ) : Upserts key fun items new => new.foldl (upsert key) items where
  keys items new := map_key_foldl_lay (fun item _ => keepsKey_replace item) items
  first items new k hk := by
    obtain ⟨item, hitem, rfl⟩ := List.mem_map.1 hk
    obtain ⟨last, hlast⟩ := exists_findRev?_of_mem key hitem
    have hfound : (new.foldl (upsert key) items).find? (fun x => key item = key x) = _ :=
      find?_upsertAll (key item) items new
    rw [hfound, hlast, Option.some_or]
  others items new i x := getElem?_foldl_upsert
  nodup items new hkeys := nodup_keys_upsertAll hkeys new
  again items new := upsertAll_upsertAll_self items new

/-- **Merging by key** puts in the last new item of each key, for the variables of a container and
for items and keys of any kind. -/
theorem upserts_by_key :
    Upserts (·.name) Kube.upsertEnv ∧
      ∀ {α κ : Type} [DecidableEq κ] (key : α → κ),
        Upserts key fun items new => new.foldl (upsert key) items :=
  ⟨upserts_foldl _, upserts_foldl⟩

example : [("b", 3), ("c", 4), ("b", 5)].foldl (upsert (·.1)) [("a", 1), ("b", 2), ("b", 0)] =
    [("a", 1), ("b", 5), ("b", 0), ("c", 4)] := by
  decide

end PgOperator
