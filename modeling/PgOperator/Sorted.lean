/-!
Association lists with string keys in increasing order, the one form in which a set of named
entries is kept. Keys compare by code points, which is also the byte order of their UTF-8 text.

`get?_insert_self` and `get?_insert_of_ne` say what an insertion does to a lookup,
`Ordered.insert` and `Ordered.erase` that order is kept, and `Ordered.ext` that two ordered lists
with the same lookups are equal.
-/

namespace PgOperator.Sorted

variable {α β : Type}

def get? (key : String) : List (String × α) → Option α
  | [] => none
  | (k, v) :: rest => if k = key then some v else get? key rest

/-- Puts a value under a key, replacing the one that was there. -/
def insert (key : String) (value : α) : List (String × α) → List (String × α)
  | [] => [(key, value)]
  | (k, v) :: rest =>
    if key < k then (key, value) :: (k, v) :: rest
    else if key = k then (key, value) :: rest
    else (k, v) :: insert key value rest

def erase (key : String) : List (String × α) → List (String × α)
  | [] => []
  | (k, v) :: rest => if k = key then rest else (k, v) :: erase key rest

/-- Puts entries in one after the other, a later one winning. -/
def insertAll (entries : List (String × α)) (into : List (String × α)) : List (String × α) :=
  entries.foldl (fun acc e => insert e.1 e.2 acc) into

/-- Entries of any order, brought into order, the last one of a key winning. -/
def ofList (entries : List (String × α)) : List (String × α) := insertAll entries []

/-- Keys strictly increase. -/
def Ordered (entries : List (String × α)) : Prop := entries.Pairwise fun a b => a.1 < b.1

instance (entries : List (String × α)) : Decidable (Ordered entries) :=
  inferInstanceAs (Decidable (List.Pairwise _ _))

theorem Ordered.nil : Ordered ([] : List (String × α)) := List.Pairwise.nil

theorem mem_keys_insert {key k : String} {value : α} {entries : List (String × α)} :
    k ∈ (insert key value entries).map Prod.fst → k = key ∨ k ∈ entries.map Prod.fst := by
  induction entries with
  | nil => simp [insert]
  | cons e rest ih => grind [insert]

theorem Ordered.insert {entries : List (String × α)} (h : Ordered entries) (key : String)
    (value : α) : Ordered (insert key value entries) := by
  induction entries with
  | nil => simp [Sorted.insert, Ordered]
  | cons e rest ih =>
    obtain ⟨hhead, htail⟩ := List.pairwise_cons.1 h
    unfold Sorted.insert
    split
    · rename_i hlt
      refine List.pairwise_cons.2 ⟨fun x hx => ?_, h⟩
      rcases List.mem_cons.1 hx with rfl | hx
      · exact hlt
      · exact String.lt_trans hlt (hhead x hx)
    · split
      · rename_i heq
        subst heq
        exact List.pairwise_cons.2 ⟨hhead, htail⟩
      · rename_i hnlt hne
        refine List.pairwise_cons.2 ⟨fun x hx => ?_, ih htail⟩
        rcases mem_keys_insert (List.mem_map_of_mem hx) with hk | hk
        · have hle := String.not_lt.1 hnlt
          rw [hk]
          exact Decidable.byContradiction fun hcon =>
            hne (String.le_antisymm (String.not_lt.1 hcon) hle)
        · obtain ⟨y, hy, hyx⟩ := List.mem_map.1 hk
          exact hyx ▸ hhead y hy

theorem Ordered.insertAll {entries into : List (String × α)} (h : Ordered into) :
    Ordered (insertAll entries into) := by
  induction entries generalizing into with
  | nil => exact h
  | cons e rest ih => exact ih (h.insert e.1 e.2)

theorem Ordered.ofList (entries : List (String × α)) : Ordered (ofList entries) :=
  Ordered.insertAll Ordered.nil

@[simp] theorem get?_nil (key : String) : get? key ([] : List (String × α)) = none := rfl

theorem get?_insert_self (key : String) (value : α) (entries : List (String × α)) :
    get? key (insert key value entries) = some value := by
  induction entries with
  | nil => simp [insert, get?]
  | cons e rest ih => grind [insert, get?]

theorem get?_insert_of_ne {key other : String} (h : other ≠ key) (value : α)
    (entries : List (String × α)) : get? other (insert key value entries) = get? other entries := by
  induction entries with
  | nil => simp [insert, get?, h.symm]
  | cons e rest ih => grind [insert, get?]

theorem get?_eq_none_of_lt {key : String} {entries : List (String × α)}
    (h : ∀ e ∈ entries, key < e.1) : get? key entries = none := by
  induction entries with
  | nil => rfl
  | cons e rest ih =>
    have hne : e.1 ≠ key := fun heq => String.lt_irrefl key (heq ▸ h e (by simp))
    simp [get?, hne, ih fun x hx => h x (by simp [hx])]

theorem mem_keys_of_get? {key : String} {value : α} {entries : List (String × α)}
    (h : get? key entries = some value) : (key, value) ∈ entries := by
  induction entries with
  | nil => simp at h
  | cons e rest ih => grind [get?]

theorem Ordered.erase {entries : List (String × α)} (h : Ordered entries) (key : String) :
    Ordered (erase key entries) := by
  induction entries with
  | nil => exact .nil
  | cons e rest ih =>
    obtain ⟨hhead, htail⟩ := List.pairwise_cons.1 h
    unfold Sorted.erase
    split
    · exact htail
    · refine List.pairwise_cons.2 ⟨fun x hx => hhead x ?_, ih htail⟩
      clear ih hhead htail h
      induction rest with
      | nil => exact hx
      | cons r rest ih => grind [Sorted.erase]

theorem mem_of_mem_insert {key : String} {value : α} {entries : List (String × α)}
    {e : String × α} (h : e ∈ insert key value entries) : e = (key, value) ∨ e ∈ entries := by
  induction entries with
  | nil => simpa [insert] using h
  | cons x rest ih => grind [insert]

theorem mem_of_mem_erase {key : String} {entries : List (String × α)} {e : String × α}
    (h : e ∈ erase key entries) : e ∈ entries := by
  induction entries with
  | nil => exact h
  | cons x rest ih => grind [erase]

theorem mem_of_mem_insertAll {entries into : List (String × α)} {e : String × α}
    (h : e ∈ insertAll entries into) : e ∈ entries ∨ e ∈ into := by
  induction entries generalizing into with
  | nil => exact .inr h
  | cons x rest ih =>
    rcases ih h with h | h
    · exact .inl (List.mem_cons_of_mem _ h)
    · rcases mem_of_mem_insert h with rfl | h
      · exact .inl List.mem_cons_self
      · exact .inr h

theorem mem_of_mem_ofList {entries : List (String × α)} {e : String × α}
    (h : e ∈ ofList entries) : e ∈ entries := by
  simpa using mem_of_mem_insertAll h

/-- Two ordered lists with the same lookups are equal. -/
theorem Ordered.ext {xs ys : List (String × α)} (hx : Ordered xs) (hy : Ordered ys)
    (h : ∀ key, get? key xs = get? key ys) : xs = ys := by
  induction xs generalizing ys with
  | nil =>
    cases ys with
    | nil => rfl
    | cons y ys => simpa [get?] using h y.1
  | cons x xs ih =>
    obtain ⟨hxhead, hxtail⟩ := List.pairwise_cons.1 hx
    cases ys with
    | nil => simpa [get?] using h x.1
    | cons y ys =>
      obtain ⟨hyhead, hytail⟩ := List.pairwise_cons.1 hy
      -- The smaller one of the first keys would be missing in the other list.
      have hkey : x.1 = y.1 := by
        refine String.le_antisymm (String.not_lt.1 fun hlt => ?_) (String.not_lt.1 fun hlt => ?_)
        · have := h y.1
          rw [@get?_eq_none_of_lt _ _ (x :: xs)] at this
          · simp [get?] at this
          · intro e he
            rcases List.mem_cons.1 he with rfl | he
            · exact hlt
            · exact String.lt_trans hlt (hxhead e he)
        · have := h x.1
          rw [@get?_eq_none_of_lt _ _ (y :: ys)] at this
          · simp [get?] at this
          · intro e he
            rcases List.mem_cons.1 he with rfl | he
            · exact hlt
            · exact String.lt_trans hlt (hyhead e he)
      have hval : x.2 = y.2 := by simpa [get?, hkey] using h x.1
      have hrest : xs = ys := by
        refine ih hxtail hytail fun key => ?_
        by_cases hk : x.1 = key
        · subst hk
          rw [get?_eq_none_of_lt hxhead, get?_eq_none_of_lt (hkey ▸ hyhead)]
        · have := h key
          simpa [get?, hk, hkey ▸ hk] using this
      rw [Prod.ext hkey hval, hrest]

theorem get?_eq_none_iff {key : String} {entries : List (String × α)} :
    get? key entries = none ↔ key ∉ entries.map Prod.fst := by
  induction entries with
  | nil => simp
  | cons e rest ih => by_cases h : e.1 = key <;> simp [get?, h, ih, eq_comm (a := key)]

theorem get?_eq_some_iff {entries : List (String × α)} (h : (entries.map Prod.fst).Nodup)
    {key : String} {value : α} : get? key entries = some value ↔ (key, value) ∈ entries := by
  induction entries with
  | nil => simp
  | cons e rest ih =>
    obtain ⟨hhead, htail⟩ := List.nodup_cons.1 h
    by_cases hk : e.1 = key
    · subst hk
      have hrest : (e.1, value) ∉ rest := fun hmem => hhead (List.mem_map.2 ⟨_, hmem, rfl⟩)
      simp [get?, hrest, Prod.ext_iff, eq_comm]
    · simp [get?, hk, ih htail, Prod.ext_iff, Ne.symm hk]

theorem get?_append (key : String) (xs ys : List (String × α)) :
    get? key (xs ++ ys) = (get? key xs).or (get? key ys) := by
  induction xs with
  | nil => rfl
  | cons e rest ih => by_cases h : e.1 = key <;> simp [get?, h, ih]

theorem get?_map (f : String → α → β) (key : String) (entries : List (String × α)) :
    get? key (entries.map fun e => (e.1, f e.1 e.2)) = (get? key entries).map (f key) := by
  induction entries with
  | nil => rfl
  | cons e rest ih =>
    by_cases h : e.1 = key
    · simp [get?, h]
    · simp [get?, h, ih]

/-- Whether entries are in order depends on their keys alone. -/
theorem Ordered.map {entries : List (String × α)} (h : Ordered entries) (f : String → α → β) :
    Ordered (entries.map fun e => (e.1, f e.1 e.2)) := List.pairwise_map.2 h

theorem insert_map (f : α → β) (key : String) (value : α) (entries : List (String × α)) :
    insert key (f value) (entries.map fun e => (e.1, f e.2)) =
      (insert key value entries).map fun e => (e.1, f e.2) := by
  induction entries with
  | nil => rfl
  | cons e rest ih => grind [insert]

/-- What stands under a key after entries of different keys have been put in. -/
theorem get?_insertAll {entries : List (String × α)} (h : (entries.map Prod.fst).Nodup)
    (key : String) (into : List (String × α)) :
    get? key (insertAll entries into) = (get? key entries).or (get? key into) := by
  induction entries generalizing into with
  | nil => rfl
  | cons e rest ih =>
    obtain ⟨hhead, htail⟩ := List.nodup_cons.1 h
    refine (ih htail (insert e.1 e.2 into)).trans ?_
    by_cases hk : e.1 = key
    · subst hk
      simp [get?, get?_eq_none_iff.2 hhead, get?_insert_self]
    · simp [get?, hk, get?_insert_of_ne (Ne.symm hk)]

theorem get?_ofList {entries : List (String × α)} (h : (entries.map Prod.fst).Nodup)
    (key : String) : get? key (ofList entries) = get? key entries := by
  rw [ofList, get?_insertAll h, get?_nil, Option.or_none]

theorem Ordered.nodup_keys {entries : List (String × α)} (h : Ordered entries) :
    (entries.map Prod.fst).Nodup := by
  refine List.pairwise_map.2 (h.imp ?_)
  rintro a b hlt heq
  exact String.lt_irrefl b.1 (heq ▸ hlt)

/-- Ordered entries put in one after the other are the entries themselves. -/
theorem ofList_of_ordered {entries : List (String × α)} (h : Ordered entries) :
    ofList entries = entries :=
  (Ordered.ofList entries).ext h (get?_ofList h.nodup_keys)

theorem get?_erase_self {entries : List (String × α)} (h : Ordered entries) (key : String) :
    get? key (erase key entries) = none := by
  induction entries with
  | nil => rfl
  | cons e rest ih =>
    obtain ⟨hhead, htail⟩ := List.pairwise_cons.1 h
    by_cases hk : e.1 = key
    · subst hk
      simpa [erase] using get?_eq_none_of_lt hhead
    · simpa [erase, hk, get?] using ih htail

theorem get?_erase_of_ne {key other : String} (h : other ≠ key) (entries : List (String × α)) :
    get? other (erase key entries) = get? other entries := by
  induction entries with
  | nil => rfl
  | cons e rest ih => grind [erase, get?]

/-- A value that is there already may be put in again. -/
theorem insert_of_get? {entries : List (String × α)} (h : Ordered entries) {key : String}
    {value : α} (hget : get? key entries = some value) : insert key value entries = entries := by
  refine (h.insert key value).ext h fun other => ?_
  by_cases hk : other = key
  · rw [hk, get?_insert_self, hget]
  · exact get?_insert_of_ne hk value entries

/-- Of two values put in under one key the later one counts. -/
theorem insert_insert {entries : List (String × α)} (h : Ordered entries) (key : String)
    (first second : α) :
    insert key second (insert key first entries) = insert key second entries := by
  refine ((h.insert key first).insert key second).ext (h.insert key second) fun other => ?_
  by_cases hk : other = key
  · rw [hk, get?_insert_self, get?_insert_self]
  · rw [get?_insert_of_ne hk, get?_insert_of_ne hk, get?_insert_of_ne hk]

end PgOperator.Sorted
