import Mathlib.Tactic.Lemma
import PgOperator.Proofs.Convergence

/-!
Properties that a pass has if its steps have them.

That the first refusal ends a pass, that it tells nothing, that nothing but a disturbance stops it:
such a property is kept where one pass follows another, and what a pass does in between its objects
does not break it. It is `Closed`. Then it is enough to look at how an object is brought to its
state, and the services (`Closed.ensureServices`), the stateful set (`Closed.ensureStatefulSet`) and
a whole pass (`Closed.reconcile`) have the property.
-/

namespace PgOperator

open Kube

namespace Pass

/-! ### The two parts of a pass -/

section Parts

variable {db : Postgres} {version : PostgresVersion} {options : Options}

def ensureServices (db : Postgres) : Pass Outcome :=
  ensureGoverningService db >>= fun _ => ensureService db >>= fun _ => ensureStatsService db

lemma reconcile_eq : reconcile db version options =
    ensureServices db >>= fun _ => ensureStatefulSet db version options := by
  rw [ensureServices, bind_assoc]
  refine congrArg (ensureGoverningService db >>= ·) (funext fun _ => ?_)
  rw [bind_assoc]

end Parts

/-! ### Closed properties -/

/-- The property is kept where one pass follows another, and holds of what a pass does in between
its objects: it looks whether it has been cancelled, and it tells of a change. -/
structure Closed (P : ∀ {α : Type}, Pass α → Prop) : Prop where
  of_pure {α : Type} (value : α) : P (pure value : Pass α)
  bind {α β : Type} {p : Pass α} {q : α → Pass β} (hp : P p) (hq : ∀ value, P (q value)) :
    P (p >>= q)
  looked : P ensureNotCancelled
  told (db : Postgres) (what : String) (outcome : Outcome) : P (announce db what outcome)

namespace Closed

variable {P : ∀ {α : Type}, Pass α → Prop} {db : Postgres} {version : PostgresVersion}
  {options : Options}

lemma createOrPatch (h : Closed P) {kind : Kind} {id : ObjectId}
    {change : kind.Object → kind.Object} (hget : P (get kind id))
    (hcreate : ∀ object, P (create kind id.ns object)) (hpatch : ∀ ops, P (patch kind id ops)) :
    P (Pass.createOrPatch kind id change) := by
  refine h.bind hget fun found => ?_
  cases found with
  | none => exact h.bind (hcreate _) fun created => h.of_pure _
  | some current =>
    simp only
    split
    · exact h.of_pure _
    · split
      · exact h.of_pure _
      · exact h.bind (hpatch _) fun patched => h.of_pure _

lemma ensureNamedService (h : Closed P) {name what : String} {mutate : Service → Service}
    (hservice : P (Pass.createOrPatch .service ⟨db.ns, name⟩ mutate)) :
    P (Pass.ensureNamedService db name what mutate) := by
  rw [ensureNamedService_eq]
  exact h.bind h.looked fun _ => h.bind hservice fun v =>
    h.bind (h.told db what v.2) fun _ => h.of_pure v.2

lemma ensureServices (h : Closed P) (hservice : ∀ id {change : Service → Service},
      Kind.Steady .service change → P (Pass.createOrPatch .service id change)) (db : Postgres) :
    P (Pass.ensureServices db) := by
  have hmembers : P (ensureService db) := by
    refine h.bind (h.ensureNamedService (hservice _ (db.steady_databaseService .primary)))
      fun primary => ?_
    split
    · exact h.of_pure _
    · exact h.bind (h.ensureNamedService (hservice _ (db.steady_databaseService .standby)))
        fun _ => h.of_pure _
  have hnone : P (ensureNotCancelled >>= fun _ => pure .unchanged : Pass Outcome) :=
    h.bind h.looked fun _ => h.of_pure _
  have hstats : P (ensureStatsService db) := by
    unfold ensureStatsService
    split
    · split
      · exact h.ensureNamedService (hservice _ (db.steady_statsService _))
      · exact hnone
    · exact hnone
  exact h.bind (h.ensureNamedService (hservice _ db.steady_governingService)) fun _ =>
    h.bind hmembers fun _ => hstats

lemma settleIn (h : Closed P) (v : StatefulSet × Outcome)
    (hawait : P (awaitStatefulSet options v.1)) : P (Pass.settleIn db options v) := by
  unfold Pass.settleIn
  split
  · exact h.bind hawait fun _ => h.bind (h.told _ _ _) fun _ => h.looked
  · exact h.looked

lemma ensureDisruptionBudget (h : Closed P) (set : StatefulSet)
    (hbudget : ∀ id, P (Pass.createOrPatch .disruptionBudget id set.disruptionBudget)) :
    P (Pass.ensureDisruptionBudget set) :=
  h.bind (hbudget _) fun _ => h.of_pure _

lemma afterSet (h : Closed P) (v : StatefulSet × Outcome)
    (hawait : P (awaitStatefulSet options v.1))
    (hbudget : ∀ id, P (Pass.createOrPatch .disruptionBudget id v.1.disruptionBudget)) :
    P (Pass.settleIn db options v >>= fun _ => Pass.ensureDisruptionBudget v.1 >>= fun _ =>
      pure v.2) :=
  h.bind (h.settleIn v hawait) fun _ => h.bind (h.ensureDisruptionBudget v.1 hbudget) fun _ =>
    h.of_pure _

lemma ensureStatefulSet (h : Closed P) (hcheck : P (checkStatefulSet db))
    (hset : P (Pass.createOrPatch .statefulSet ⟨db.ns, db.name⟩ (db.statefulSet version options)))
    (hawait : ∀ set, P (awaitStatefulSet options set))
    (hbudget : ∀ id (set : StatefulSet),
      P (Pass.createOrPatch .disruptionBudget id set.disruptionBudget)) :
    P (Pass.ensureStatefulSet db version options) := by
  rw [ensureStatefulSet_eq]
  refine h.bind h.looked fun _ => h.bind (h.bind hcheck fun _ => hset) fun v => ?_
  exact h.afterSet v (hawait v.1) fun id => hbudget id v.1

/-- **A whole pass** has the property if each of its steps has it. -/
lemma reconcile (h : Closed P) (hservice : ∀ id {change : Service → Service},
      Kind.Steady .service change → P (Pass.createOrPatch .service id change))
    (hcheck : P (checkStatefulSet db))
    (hset : P (Pass.createOrPatch .statefulSet ⟨db.ns, db.name⟩ (db.statefulSet version options)))
    (hawait : ∀ set, P (awaitStatefulSet options set))
    (hbudget : ∀ id (set : StatefulSet),
      P (Pass.createOrPatch .disruptionBudget id set.disruptionBudget)) :
    P (Pass.reconcile db version options) := by
  rw [reconcile_eq]
  exact h.bind (h.ensureServices hservice db) fun _ =>
    h.ensureStatefulSet hcheck hset hawait hbudget

end Closed

end Pass

end PgOperator
