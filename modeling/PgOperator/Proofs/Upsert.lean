import Mathlib.Tactic.Lemma
import PgOperator.Merge

/-!
Merging into keyed lists, and merging again.

`lay key combine` merges an item into the first one of its key. An item is `Laid` in a list where
merging it in changes nothing. Merging items of different keys leaves all of them laid, so that
merging them again changes nothing (`foldl_lay_foldl_lay`).
-/

namespace PgOperator

variable {α κ : Type} [DecidableEq κ]

abbrev lay (key : α → κ) (combine : α → α → α) (items : List α) (item : α) : List α :=
  upsertWith key (key item) (combine · item) item items

/-- The item keeps its key where it is laid over another one, and laying it over the result or
over itself changes nothing. -/
structure Lays (key : α → κ) (combine : α → α → α) (item : α) : Prop where
  key_combine : ∀ live, key live = key item → key (combine live item) = key item
  combine_combine : ∀ live, combine (combine live item) item = combine live item
  combine_self : combine item item = item

/-- The item keeps its key where it is laid over another one. -/
def KeepsKey (key : α → κ) (combine : α → α → α) (item : α) : Prop :=
  ∀ live, key live = key item → key (combine live item) = key item

/-- The first item of its key has the item laid over it already. -/
def Laid (key : α → κ) (combine : α → α → α) (items : List α) (item : α) : Prop :=
  ∃ found, items.find? (fun x => key x = key item) = some found ∧ combine found item = found

variable {key : α → κ} {combine : α → α → α} {items new : List α} {item : α}

lemma or_or_self {β : Type} (a b : Option β) : a.or (a.or b) = a.or b := by
  rw [← Option.or_assoc, Option.or_self]

/-! ### One item -/

omit [DecidableEq κ] in
lemma lays_replace (item : α) : Lays key (fun _ item => item) item :=
  ⟨fun _ _ => rfl, fun _ => rfl, rfl⟩

omit [DecidableEq κ] in
lemma Lays.keepsKey (h : Lays key combine item) : KeepsKey key combine item := h.key_combine

omit [DecidableEq κ] in
lemma keepsKey_replace (item : α) : KeepsKey key (fun _ item => item) item := fun _ _ => rfl

lemma find?_lay_self (h : KeepsKey key combine item) (items : List α) :
    (lay key combine items item).find? (fun x => key x = key item) =
      some (((items.find? fun x => key x = key item).map (combine · item)).getD item) := by
  induction items with
  | nil => simp [lay, upsertWith]
  | cons x rest ih =>
    by_cases hx : key x = key item
    · simp [lay, upsertWith, hx, h x hx]
    · simpa [lay, upsertWith, hx] using ih

lemma find?_lay_of_ne (h : KeepsKey key combine item) {target : κ} (hne : target ≠ key item)
    (items : List α) :
    (lay key combine items item).find? (fun x => key x = target) =
      items.find? fun x => key x = target := by
  induction items with
  | nil => simp [lay, upsertWith, Ne.symm hne]
  | cons x rest ih =>
    by_cases hx : key x = key item
    · simp [lay, upsertWith, hx, h x hx, Ne.symm hne]
    · by_cases ht : key x = target
      · simp [lay, upsertWith, ht, hne]
      · simpa [lay, upsertWith, hx, ht] using ih

lemma Laid.lay_eq (h : Laid key combine items item) : lay key combine items item = items := by
  induction items with
  | nil =>
    obtain ⟨found, hfound, -⟩ := h
    exact absurd hfound nofun
  | cons x rest ih =>
    obtain ⟨found, hfound, hcombine⟩ := h
    by_cases hx : key x = key item
    · obtain rfl : x = found := by simpa [hx] using hfound
      simp [lay, upsertWith, hx, hcombine]
    · have hrest : Laid key combine rest item := ⟨found, by simpa [hx] using hfound, hcombine⟩
      simpa [lay, upsertWith, hx] using ih hrest

lemma Lays.laid_lay (h : Lays key combine item) (items : List α) :
    Laid key combine (lay key combine items item) item := by
  refine ⟨_, find?_lay_self h.keepsKey items, ?_⟩
  cases items.find? fun x => key x = key item with
  | none => exact h.combine_self
  | some live => exact h.combine_combine live

lemma Laid.lay_of_ne {other : α} (h : Laid key combine items item) (hother : Lays key combine other)
    (hne : key item ≠ key other) : Laid key combine (lay key combine items other) item := by
  obtain ⟨found, hfound, hcombine⟩ := h
  exact ⟨found, (find?_lay_of_ne hother.keepsKey hne items).trans hfound, hcombine⟩

lemma Laid.filter {p : α → Bool} (h : Laid key combine items item)
    (hp : ∀ x, key x = key item → p x = true) : Laid key combine (items.filter p) item := by
  obtain ⟨found, hfound, hcombine⟩ := h
  refine ⟨found, ?_, hcombine⟩
  rw [List.find?_filter, ← hfound]
  congr 1
  funext x
  by_cases hx : key x = key item
  · simp [hx, hp x hx]
  · simp [hx]

/-! ### Several items -/

lemma foldl_lay_of_laid (h : ∀ item ∈ new, Laid key combine items item) :
    new.foldl (lay key combine) items = items := by
  induction new with
  | nil => rfl
  | cons item rest ih =>
    rw [List.foldl_cons, (h item List.mem_cons_self).lay_eq]
    exact ih fun other hother => h other (List.mem_cons_of_mem _ hother)

lemma Laid.foldl_lay (h : Laid key combine items item)
    (hnew : ∀ other ∈ new, Lays key combine other)
    (hne : ∀ other ∈ new, key item ≠ key other) :
    Laid key combine (new.foldl (lay key combine) items) item := by
  induction new generalizing items with
  | nil => exact h
  | cons other rest ih =>
    obtain ⟨hother, hrest⟩ := List.forall_mem_cons.1 hnew
    obtain ⟨hnother, hnrest⟩ := List.forall_mem_cons.1 hne
    exact ih (h.lay_of_ne hother hnother) hrest hnrest

/-- Items of different keys are all laid after they have been merged in. -/
lemma laid_foldl_lay (hnew : ∀ item ∈ new, Lays key combine item) (hkeys : (new.map key).Nodup)
    (items : List α) : ∀ item ∈ new, Laid key combine (new.foldl (lay key combine) items) item := by
  induction new generalizing items with
  | nil => exact nofun
  | cons first rest ih =>
    obtain ⟨hfirst, hrest⟩ := List.forall_mem_cons.1 hnew
    obtain ⟨hhead, htail⟩ := List.nodup_cons.1 hkeys
    refine List.forall_mem_cons.2 ⟨?_, ih hrest htail _⟩
    refine (hfirst.laid_lay items).foldl_lay hrest fun other hother heq => hhead ?_
    exact List.mem_map.2 ⟨other, hother, heq.symm⟩

/-- **Merging again changes nothing**, where the items have different keys. -/
theorem foldl_lay_foldl_lay (hnew : ∀ item ∈ new, Lays key combine item)
    (hkeys : (new.map key).Nodup) (items : List α) :
    new.foldl (lay key combine) (new.foldl (lay key combine) items) =
      new.foldl (lay key combine) items :=
  foldl_lay_of_laid (laid_foldl_lay hnew hkeys items)

lemma find?_key_of_mem (hkeys : (items.map key).Nodup) (h : item ∈ items) :
    items.find? (fun x => key x = key item) = some item := by
  induction items with
  | nil => exact absurd h List.not_mem_nil
  | cons x rest ih =>
    obtain ⟨hhead, htail⟩ := List.nodup_cons.1 hkeys
    rcases List.mem_cons.1 h with rfl | h
    · simp
    · have hx : key x ≠ key item := fun heq => hhead (heq ▸ List.mem_map_of_mem h)
      simpa [hx] using ih htail h

lemma foldl_lay_self (hnew : ∀ item ∈ new, Lays key combine item) (hkeys : (new.map key).Nodup) :
    new.foldl (lay key combine) new = new :=
  foldl_lay_of_laid fun item h => ⟨item, find?_key_of_mem hkeys h, (hnew item h).combine_self⟩

lemma mem_lay {x : α} (h : x ∈ lay key combine items item) :
    x ∈ items ∨ x = item ∨ ∃ live ∈ items, key live = key item ∧ x = combine live item := by
  induction items with
  | nil =>
    simp only [lay, upsertWith, List.mem_singleton] at h
    exact .inr (.inl h)
  | cons first rest ih =>
    rw [lay, upsertWith] at h
    split at h
    · rename_i hkey
      rcases List.mem_cons.1 h with rfl | h
      · exact .inr (.inr ⟨first, List.mem_cons_self, hkey, rfl⟩)
      · exact .inl (List.mem_cons_of_mem _ h)
    · rcases List.mem_cons.1 h with rfl | h
      · exact .inl List.mem_cons_self
      · rcases ih h with h | h | ⟨live, hlive, h⟩
        · exact .inl (List.mem_cons_of_mem _ h)
        · exact .inr (.inl h)
        · exact .inr (.inr ⟨live, List.mem_cons_of_mem _ hlive, h⟩)

lemma forall_mem_foldl_lay {P : α → Prop} (hitems : ∀ x ∈ items, P x) (hnew : ∀ item ∈ new, P item)
    (hcombine : ∀ live, P live → ∀ item ∈ new, P (combine live item)) :
    ∀ x ∈ new.foldl (lay key combine) items, P x := by
  induction new generalizing items with
  | nil => exact hitems
  | cons item rest ih =>
    obtain ⟨hitem, hrest⟩ := List.forall_mem_cons.1 hnew
    refine ih (fun x hx => ?_) hrest fun live hlive other hother =>
      hcombine live hlive other (List.mem_cons_of_mem _ hother)
    rcases mem_lay hx with hx | rfl | ⟨live, hlive, -, rfl⟩
    · exact hitems x hx
    · exact hitem
    · exact hcombine live (hitems live hlive) item List.mem_cons_self

/-! ### Keys -/

lemma map_key_lay (h : KeepsKey key combine item) (items : List α) :
    (lay key combine items item).map key =
      if key item ∈ items.map key then items.map key else items.map key ++ [key item] := by
  induction items with
  | nil => simp [lay, upsertWith]
  | cons x rest ih =>
    by_cases hx : key x = key item
    · simp [lay, upsertWith, hx, h x hx]
    · have hrest : (upsertWith key (key item) (combine · item) item rest).map key = _ := ih
      simp only [lay, upsertWith, if_neg hx, List.map_cons, hrest, List.mem_cons, Ne.symm hx,
        false_or]
      split <;> rfl

lemma nodup_keys_lay (h : KeepsKey key combine item) (hkeys : (items.map key).Nodup) :
    ((lay key combine items item).map key).Nodup := by
  rw [map_key_lay h]
  split
  · exact hkeys
  · rename_i hnew
    refine List.nodup_append.2 ⟨hkeys, List.pairwise_singleton _ _, fun k hk other hother heq => ?_⟩
    exact hnew (List.mem_singleton.1 hother ▸ heq ▸ hk)

lemma nodup_keys_foldl_lay (hnew : ∀ item ∈ new, KeepsKey key combine item)
    (hkeys : (items.map key).Nodup) : ((new.foldl (lay key combine) items).map key).Nodup := by
  induction new generalizing items with
  | nil => exact hkeys
  | cons item rest ih =>
    obtain ⟨hitem, hrest⟩ := List.forall_mem_cons.1 hnew
    exact ih hrest (nodup_keys_lay hitem hkeys)

lemma mem_keys_lay (h : KeepsKey key combine item) {k : κ} :
    k ∈ (lay key combine items item).map key ↔ k ∈ items.map key ∨ k = key item := by
  rw [map_key_lay h]
  split
  · rename_i hmem
    exact ⟨.inl, fun hk => hk.elim id fun heq => heq ▸ hmem⟩
  · rw [List.mem_append, List.mem_singleton]

lemma mem_keys_foldl_lay (hnew : ∀ item ∈ new, KeepsKey key combine item) {k : κ} :
    k ∈ (new.foldl (lay key combine) items).map key ↔ k ∈ items.map key ∨ k ∈ new.map key := by
  induction new generalizing items with
  | nil => simp
  | cons item rest ih =>
    obtain ⟨hitem, hrest⟩ := List.forall_mem_cons.1 hnew
    rw [List.foldl_cons, ih hrest, mem_keys_lay hitem, List.map_cons, List.mem_cons, or_assoc]

/-! ### Items that replace others -/

lemma find?_upsertAll_of_mem (hkeys : (new.map key).Nodup) (h : item ∈ new) :
    (upsertAll key items new).find? (fun x => key x = key item) = some item := by
  obtain ⟨found, hfound, hsame⟩ :=
    laid_foldl_lay (fun item _ => lays_replace item) hkeys items item h
  have hsame : item = found := hsame
  exact hfound.trans (congrArg some hsame.symm)

lemma mem_upsertAll_of_mem (hkeys : (new.map key).Nodup) (h : item ∈ new) :
    item ∈ upsertAll key items new :=
  List.mem_of_find?_eq_some (find?_upsertAll_of_mem hkeys h)

lemma mem_upsertAll_iff (hitems : (items.map key).Nodup) (hkeys : (new.map key).Nodup) :
    item ∈ upsertAll key items new ↔ item ∈ new ∨ item ∈ items ∧ key item ∉ new.map key := by
  constructor
  · intro h
    -- Of each key there is one item in the result: the new one, if there is any.
    by_cases hkey : key item ∈ new.map key
    · obtain ⟨other, hother, heq⟩ := List.mem_map.1 hkey
      have hresult : ((upsertAll key items new).map key).Nodup :=
        nodup_keys_foldl_lay (fun item _ => keepsKey_replace item) hitems
      have hfound := find?_key_of_mem hresult (mem_upsertAll_of_mem hkeys hother)
      rw [heq, find?_key_of_mem hresult h] at hfound
      exact .inl (Option.some.inj hfound ▸ hother)
    · have hsource : item ∈ items ∨ item ∈ new :=
        forall_mem_foldl_lay (P := fun x => x ∈ items ∨ x ∈ new) (fun _ => .inl) (fun _ => .inr)
          (fun _ _ _ => .inr) item h
      rcases hsource with hold | hnew
      · exact .inr ⟨hold, hkey⟩
      · exact .inl hnew
  · rintro (hnew | ⟨hold, hkey⟩)
    · exact mem_upsertAll_of_mem hkeys hnew
    · have hlaid : Laid key (fun _ item => item) items item :=
        ⟨item, find?_key_of_mem hitems hold, rfl⟩
      obtain ⟨found, hfound, hsame⟩ := hlaid.foldl_lay (fun other _ => lays_replace other)
        fun other hother heq => hkey (heq ▸ List.mem_map_of_mem hother)
      rw [show item = found from hsame]
      exact List.mem_of_find?_eq_some hfound

/-! ### The list that comes out -/

lemma foldl_lay_cons (hnew : ∀ item ∈ new, KeepsKey key combine item) (x : α) (rest : List α) :
    new.foldl (lay key combine) (x :: rest) =
      (new.filter fun item => key x = key item).foldl combine x ::
        (new.filter fun item => ¬ key x = key item).foldl (lay key combine) rest := by
  induction new generalizing x rest with
  | nil => rfl
  | cons item others ih =>
    obtain ⟨hitem, hothers⟩ := List.forall_mem_cons.1 hnew
    rw [List.foldl_cons, lay, upsertWith]
    by_cases hx : key x = key item
    · rw [if_pos hx, ih hothers]
      simp [hx, hitem x hx]
    · rw [if_neg hx, ih hothers]
      simp [hx]

lemma filter_key_of_not_mem {k : κ} (h : k ∉ items.map key) :
    items.filter (fun x => k = key x) = [] ∧ items.filter (fun x => ¬ k = key x) = items := by
  have hne : ∀ x ∈ items, ¬ k = key x := fun x hx heq => h (heq ▸ List.mem_map_of_mem hx)
  constructor
  · exact List.filter_eq_nil_iff.2 fun x hx => by simpa using hne x hx
  · exact List.filter_eq_self.2 fun x hx => by simpa using hne x hx

lemma foldl_lay_nil (hnew : ∀ item ∈ new, KeepsKey key combine item)
    (hkeys : (new.map key).Nodup) : new.foldl (lay key combine) [] = new := by
  induction new with
  | nil => rfl
  | cons item rest ih =>
    obtain ⟨hhead, htail⟩ := List.nodup_cons.1 hkeys
    obtain ⟨-, hrest⟩ := List.forall_mem_cons.1 hnew
    obtain ⟨hsame, hothers⟩ := filter_key_of_not_mem hhead
    rw [List.foldl_cons, lay, upsertWith, foldl_lay_cons hrest, hsame, hothers, ih hrest htail]
    rfl

lemma foldl_lay_map {f : α → α} (hf : ∀ x, key (f x) = key x)
    (hnew : ∀ item ∈ new, KeepsKey key combine item) (hkeys : (new.map key).Nodup) :
    new.foldl (lay key combine) (new.map f) = new.map fun item => combine (f item) item := by
  induction new with
  | nil => rfl
  | cons item rest ih =>
    obtain ⟨hhead, htail⟩ := List.nodup_cons.1 hkeys
    obtain ⟨hitem, hrest⟩ := List.forall_mem_cons.1 hnew
    obtain ⟨hsame, hothers⟩ := filter_key_of_not_mem hhead
    have hkey : key (combine (f item) item) = key item := hitem _ (hf item)
    rw [List.map_cons, List.map_cons, List.foldl_cons, lay, upsertWith, if_pos (hf item),
      foldl_lay_cons hrest, hkey, hsame, hothers, ih hrest htail]
    rfl

lemma foldl_last (items : List α) (x : α) :
    items.foldl (fun _ item => item) x = items.getLast?.getD x := by
  induction items generalizing x with
  | nil => rfl
  | cons item rest ih => rw [List.foldl_cons, ih, List.getLast?_cons, Option.getD_some]

lemma upsertAll_cons (key : α → κ) (x : α) (items new : List α) :
    upsertAll key (x :: items) new = (new.findRev? fun item => key x = key item).getD x ::
      upsertAll key items (new.filter fun item => ¬ key x = key item) := by
  refine (foldl_lay_cons (fun item _ => keepsKey_replace item) x items).trans ?_
  rw [foldl_last, List.getLast?_filter, ← List.findRev?_eq_find?_reverse]
  rfl

lemma findRev?_filter_key (k other : κ) (items : List α) :
    (items.filter fun x => ¬ other = key x).findRev? (fun x => k = key x) =
      if k = other then none else items.findRev? fun x => k = key x := by
  rw [List.findRev?_eq_find?_reverse, ← List.filter_reverse, List.find?_filter,
    List.findRev?_eq_find?_reverse]
  split
  · rename_i heq
    exact List.find?_eq_none.2 fun x _ => by simp [heq]
  · rename_i hne
    congr 1
    funext x
    by_cases hx : k = key x
    · simp [← hx, Ne.symm hne]
    · simp [hx]

lemma find?_key_cons (k : κ) (x : α) (rest : List α) :
    (x :: rest).find? (fun y => k = key y) =
      if k = key x then some x else rest.find? fun y => k = key y := by
  rw [List.find?_cons]
  by_cases hk : k = key x
  · simp [← hk]
  · simp [hk]

lemma exists_findRev?_of_mem (key : α → κ) (h : item ∈ new) :
    ∃ last, new.findRev? (fun x => key item = key x) = some last := by
  refine Option.isSome_iff_exists.1 ?_
  rw [List.findRev?_eq_find?_reverse, List.find?_isSome]
  exact ⟨item, List.mem_reverse.2 h, decide_eq_true rfl⟩

lemma mem_of_findRev?_key {k : κ} {last : α}
    (h : items.findRev? (fun x => k = key x) = some last) : last ∈ items ∧ k = key last := by
  rw [List.findRev?_eq_find?_reverse] at h
  have hkey := List.find?_some h
  exact ⟨List.mem_reverse.1 (List.mem_of_find?_eq_some h), of_decide_eq_true hkey⟩

end PgOperator
