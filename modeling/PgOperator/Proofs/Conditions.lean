import Mathlib.Data.List.Induction
import Mathlib.Tactic.Lemma
import PgOperator.Database.Report
import PgOperator.Database.Identity
import PgOperator.Proofs.Positions

/-!
Lists of conditions as keyed lists.

A list of conditions is keyed by their types. Setting a condition puts it in the place of the first
one of its type, with the time that it has by what was there (`Condition.set_eq_upsert`). So types
that are different stay different, whatever is set, and with different types it makes no difference
whether the first condition of a type is asked or any of them (`Condition.wellFormed_after`).
-/

namespace PgOperator

namespace Condition

/-- When a condition has come to a status: as before if it had that status already, and otherwise
now. -/
def reachedAt (now status : String) : Option Condition → String
  | some old => if old.status = status then old.lastTransitionTime else now
  | none => now

lemma find?_upsert_self (conditions : List Condition) (c : Condition) :
    find? (upsert (·.type) conditions c) c.type = some c :=
  have hkeys : ([c].map Condition.type).Nodup := List.pairwise_singleton _ _
  find?_upsertAll_of_mem hkeys List.mem_cons_self

lemma upsert_eq_self {conditions : List Condition} {c : Condition}
    (h : find? conditions c.type = some c) : upsert (·.type) conditions c = conditions :=
  have hlaid : Laid (·.type) (fun _ item => item) conditions c := ⟨c, h, rfl⟩
  hlaid.lay_eq

/-- Setting a condition puts it in the place of the first one of its type. -/
lemma set_eq_upsert (type status reason message : String) (generation : Option Int64)
    (now : String) (conditions : List Condition) :
    set type status reason message generation now conditions = upsert (·.type) conditions
      ⟨type, status, reachedAt now status (find? conditions type), reason, message,
        generation⟩ := by
  induction conditions with
  | nil => rfl
  | cons old rest ih =>
    by_cases hold : old.type = type
    · have hfound : find? (old :: rest) type = some old :=
        List.find?_cons_of_pos (by simpa using hold)
      rw [hfound, set, if_pos hold, upsert, upsertWith, if_pos hold]
      subst hold
      rfl
    · have hfound : find? (old :: rest) type = find? rest type :=
        List.find?_cons_of_neg (by simpa using hold)
      rw [hfound, set, if_neg hold, upsert, upsertWith, if_neg hold, ih, upsert]

/-! ### One change -/

inductive Change where
  | set (type status reason message : String) (generation : Option Int64) (now : String)
  | setReady (succeeded : Bool) (reason message : String) (generation : Option Int64)
      (now : String)

namespace Change

def apply : Change → List Condition → List Condition
  | .set type status reason message generation now =>
    Condition.set type status reason message generation now
  | .setReady succeeded reason message generation now =>
    Condition.setReady succeeded reason message generation now

/-- The condition that a change makes where there is none of its type. -/
def fresh : Change → Condition
  | .set type status reason message generation now =>
    ⟨type, status, now, reason, message, generation⟩
  | .setReady succeeded reason message generation now =>
    ⟨ready, if succeeded then "True" else "False", now, reason, message, generation⟩

/-- The condition that a change makes over the first one of its type. -/
def replacing (change : Change) (old : Option Condition) : Condition :=
  { change.fresh with
    lastTransitionTime := reachedAt change.fresh.lastTransitionTime change.fresh.status old }

/-- What a change makes of a list of conditions. -/
structure Leads (change : Change) (before after : List Condition) : Prop where
  /-- Conditions keep their positions, and one of a new type is put behind them. -/
  types : after.map (·.type) = before.map (·.type) ++
    if change.fresh.type ∈ before.map (·.type) then [] else [change.fresh.type]
  others : ∀ (i : Nat) (old : Condition), before[i]? = some old → old.type ≠ change.fresh.type →
    after[i]? = some old
  /-- The time is that of the change only if the status is another one than before. -/
  updated : ∀ (i : Nat) (old : Condition), before[i]? = some old → old.type = change.fresh.type →
    after[i]? = some { change.fresh with
      lastTransitionTime := if old.status = change.fresh.status then old.lastTransitionTime
        else change.fresh.lastTransitionTime }
  created : change.fresh.type ∉ before.map (·.type) → after = before ++ [change.fresh]

lemma apply_eq_upsert (change : Change) (conditions : List Condition) :
    change.apply conditions =
      upsert (·.type) conditions (change.replacing (find? conditions change.fresh.type)) := by
  cases change with
  | set => exact set_eq_upsert ..
  | setReady => exact set_eq_upsert ..

lemma nodup_apply (change : Change) {conditions : List Condition}
    (h : (conditions.map (·.type)).Nodup) : ((change.apply conditions).map (·.type)).Nodup := by
  rw [apply_eq_upsert]
  exact nodup_keys_lay (keepsKey_replace _) h

lemma map_type_apply (change : Change) (conditions : List Condition) :
    (change.apply conditions).map (·.type) = conditions.map (·.type) ++
      if change.fresh.type ∈ conditions.map (·.type) then [] else [change.fresh.type] := by
  rw [apply_eq_upsert]
  refine (map_key_lay (keepsKey_replace _) conditions).trans ?_
  show (if change.fresh.type ∈ conditions.map (·.type) then conditions.map (·.type)
    else conditions.map (·.type) ++ [change.fresh.type]) = _
  split
  · exact (List.append_nil _).symm
  · rfl

lemma find?_apply (change : Change) (conditions : List Condition) :
    find? (change.apply conditions) change.fresh.type =
      some (change.replacing (find? conditions change.fresh.type)) := by
  rw [apply_eq_upsert]
  exact find?_upsert_self conditions (change.replacing _)

lemma leads_apply (change : Change) {conditions : List Condition}
    (h : (conditions.map (·.type)).Nodup) : change.Leads conditions (change.apply conditions) where
  types := change.map_type_apply conditions
  others i old hold hne := by
    rw [apply_eq_upsert]
    exact getElem?_upsert hold (.inl hne)
  updated i old hold htype := by
    have hmem : change.fresh.type ∈ conditions.map (·.type) :=
      htype ▸ List.mem_map_of_mem (List.mem_of_getElem? hold)
    have hfound : find? conditions change.fresh.type = some old :=
      htype ▸ find?_key_of_mem h (List.mem_of_getElem? hold)
    -- At the position there still is a condition of the type, and there is only one of it.
    have htypes : (change.apply conditions).map (·.type) = conditions.map (·.type) := by
      rw [map_type_apply, if_pos hmem, List.append_nil]
    have hposition : ((change.apply conditions)[i]?).map (·.type) = some change.fresh.type := by
      rw [← List.getElem?_map, htypes, List.getElem?_map, hold, ← htype]
      rfl
    obtain ⟨c, hc, hctype⟩ := Option.map_eq_some_iff.1 hposition
    have hself : find? (change.apply conditions) c.type = some c :=
      find?_key_of_mem (change.nodup_apply h) (List.mem_of_getElem? hc)
    rw [hctype, find?_apply, hfound] at hself
    rw [hc, ← Option.some.inj hself]
    rfl
  created hnew := by
    have hnone : find? conditions change.fresh.type = none := by
      refine List.find?_eq_none.2 fun c hc htype => hnew ?_
      exact of_decide_eq_true htype ▸ List.mem_map_of_mem hc
    rw [apply_eq_upsert, hnone]
    exact upsert_of_not_mem hnew

end Change

/-! ### Many changes -/

lemma isTrue_eq_any {conditions : List Condition} (h : (conditions.map (·.type)).Nodup)
    (type : String) :
    isTrue conditions type = conditions.any fun c => c.type = type ∧ c.status = "True" := by
  rw [Bool.eq_iff_iff, List.any_eq_true, isTrue]
  constructor
  · intro htrue
    split at htrue
    · rename_i c hc
      have hc : conditions.find? (fun c => c.type = type) = some c := hc
      have htype : c.type = type := by simpa using List.find?_some hc
      exact ⟨c, List.mem_of_find?_eq_some hc, by simpa [htype] using htrue⟩
    · cases htrue
  · rintro ⟨c, hc, htrue⟩
    obtain ⟨rfl, hstatus⟩ := of_decide_eq_true htrue
    rw [find?, find?_key_of_mem h hc]
    exact decide_eq_true hstatus

/-- With two conditions of one type it depends on who is asked. -/
example :
    let conditions : List Condition :=
      [{ type := "DataRestored", status := "False" }, { type := "DataRestored", status := "True" }]
    isTrue conditions "DataRestored" = false ∧
      ({ status := some { conditions } } : Postgres).isConditionTrue "DataRestored" = true := by
  decide

/-- No two conditions have one type, and it makes no difference whether the first one of a type is
asked or any of them. -/
structure WellFormed (conditions : List Condition) : Prop where
  nodup : (conditions.map (·.type)).Nodup
  isTrue_eq : ∀ (db : Postgres) (status : PostgresStatus) (type : String),
    isTrue conditions type =
      { db with status := some { status with conditions } : Postgres }.isConditionTrue type

lemma wellFormed_of_nodup {conditions : List Condition}
    (h : (conditions.map (·.type)).Nodup) : WellFormed conditions :=
  ⟨h, fun _ _ type => isTrue_eq_any h type⟩

def after (conditions : List Condition) (changes : List Change) : List Condition :=
  changes.foldl (fun conditions change => change.apply conditions) conditions

lemma after_concat (conditions : List Condition) (changes : List Change) (change : Change) :
    after conditions (changes ++ [change]) = change.apply (after conditions changes) :=
  List.foldl_concat ..

lemma nodup_after {conditions : List Condition} (h : (conditions.map (·.type)).Nodup)
    (changes : List Change) : ((after conditions changes).map (·.type)).Nodup := by
  induction changes using List.reverseRecOn with
  | nil => exact h
  | append_singleton earlier change ih =>
    rw [after_concat]
    exact change.nodup_apply ih

lemma map_type_prefix_after (conditions : List Condition) (changes : List Change) :
    conditions.map (·.type) <+: (after conditions changes).map (·.type) := by
  induction changes using List.reverseRecOn with
  | nil => exact List.prefix_rfl
  | append_singleton earlier change ih =>
    rw [after_concat, change.map_type_apply]
    exact ih.trans (List.prefix_append _ _)

/-- **Conditions stay well formed**, whatever changes are made. Each of them leaves the conditions
of other types alone and keeps all positions, and it moves a transition time only where it makes a
condition or changes its status. -/
theorem wellFormed_after {conditions : List Condition} (h : (conditions.map (·.type)).Nodup)
    (changes : List Change) :
    WellFormed (after conditions changes) ∧
      conditions.map (·.type) <+: (after conditions changes).map (·.type) ∧
      ∀ change : Change,
        change.Leads (after conditions changes) (after conditions (changes ++ [change])) := by
  have hnodup := nodup_after h changes
  refine ⟨wellFormed_of_nodup hnodup, map_type_prefix_after conditions changes, fun change => ?_⟩
  rw [after_concat]
  exact change.leads_apply hnodup

/-- The conditions of an instance that is being restored. -/
def restoring : List Condition :=
  [{ type := "DataRestored", status := "False", lastTransitionTime := "08:00" },
    { type := ready, status := "True", lastTransitionTime := "08:05" }]

/-- Its data have been restored, and it is archived from then on. -/
def restoration : List Change :=
  [.setReady true "Reconciled" "Last pass unchanged" (some 1) "09:00",
    .set "DataRestored" "True" "Restored" "" none "09:05",
    .set "Archived" "True" "Archiving" "" none "09:10"]

theorem wellFormed_after_restoration :
    (restoring.map (·.type)).Nodup ∧ WellFormed (after restoring restoration) ∧
      (after restoring restoration).map (fun c => (c.type, c.status, c.lastTransitionTime)) =
        [("DataRestored", "True", "09:05"), (ready, "True", "08:05"),
          ("Archived", "True", "09:10")] :=
  ⟨by decide, (wellFormed_after (by decide) restoration).1, by decide⟩

end Condition

end PgOperator
