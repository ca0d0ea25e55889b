import Mathlib.Data.List.Induction
import Mathlib.Tactic.Lemma
import PgOperator.Proofs.Report

/-!
The status after a run of passes.

Each pass reports over what the passes before it have left. A report puts its own condition in the
place of the first one of its type and leaves the list as it is otherwise
(`Condition.set_eq_upsert`), so that after a run the list is still the first one, with the condition
of the last report in its place. The generation that has been seen is the one of the last pass that
succeeded, and reporting the same again changes nothing, however late (`Postgres.shows_reports`).
-/

namespace PgOperator

/-! ### One report -/

/-- What is reported of a pass: the generation that it was made for, how it went, and when. -/
structure PassReport where
  generation : Option Int64
  result : Except Error Outcome
  time : String

namespace PassReport

/-- Whether the pass brought all objects to their desired state. -/
def succeeded (report : PassReport) : Bool := report.result.isOk

/-- The reason that the condition gives, and its message. -/
def words (report : PassReport) : String × String :=
  match report.result with
  | .ok outcome => ("Reconciled", "Last pass " ++ outcome.text)
  | .error error => ("ReconcileFailed", error.message)

/-- The condition that is reported, over the one there is. -/
def condition (report : PassReport) (old : Option Condition) : Condition :=
  let status := if report.succeeded then "True" else "False"
  ⟨Condition.ready, status, Condition.reachedAt report.time status old, report.words.1,
    report.words.2, report.generation⟩

/-- What a report makes of a status. -/
structure Leads (report : PassReport) (before after : PostgresStatus) : Prop where
  phase : after.phase = some (if report.succeeded then "Ready" else "Failed")
  generation : after.observedGeneration =
    if report.succeeded then report.generation else before.observedGeneration
  conditions : after.conditions = upsert (·.type) before.conditions
    (report.condition (Condition.find? before.conditions Condition.ready))

variable {report : PassReport} {before after again : PostgresStatus}

lemma condition_again (report : PassReport) (old : Option Condition) (time : String) :
    { report with time : PassReport }.condition (some (report.condition old)) =
      report.condition old :=
  congrArg (fun reached => { report.condition old with lastTransitionTime := reached }) (if_pos rfl)

lemma Leads.eq_self (h : report.Leads before after) {time : String}
    (hagain : { report with time : PassReport }.Leads after again) : again = after := by
  have hphase : again.phase = after.phase := hagain.phase.trans h.phase.symm
  have hgeneration : again.observedGeneration = after.observedGeneration := by
    have hold := h.generation
    have hnew := hagain.generation
    by_cases hok : report.succeeded = true
    · rw [if_pos hok] at hold
      exact (hnew.trans (if_pos hok)).trans hold.symm
    · exact hnew.trans (if_neg hok)
  have hconditions : again.conditions = after.conditions := by
    have hfound : Condition.find? after.conditions Condition.ready =
        some (report.condition (Condition.find? before.conditions Condition.ready)) := by
      rw [h.conditions]
      exact Condition.find?_upsert_self _ (report.condition _)
    rw [hagain.conditions, hfound, condition_again]
    exact Condition.upsert_eq_self hfound
  obtain ⟨phase, generation, conditions⟩ := again
  obtain rfl : phase = after.phase := hphase
  obtain rfl : generation = after.observedGeneration := hgeneration
  obtain rfl : conditions = after.conditions := hconditions
  rfl

end PassReport

/-! ### A run of reports -/

namespace Postgres

/-- The status of an instance as it was read. -/
def reported (db : Postgres) : PostgresStatus := db.status.getD {}

/-- An instance of the generation that a pass was made for, after the report of the pass. -/
def afterReport (db : Postgres) (report : PassReport) : Postgres :=
  let current := { db with metadata := { db.metadata with generation := report.generation } }
  { current with status := some (current.report report.result report.time) }

def afterReports (db : Postgres) (reports : List PassReport) : Postgres :=
  reports.foldl afterReport db

lemma afterReports_append (db : Postgres) (earlier later : List PassReport) :
    db.afterReports (earlier ++ later) = (db.afterReports earlier).afterReports later :=
  List.foldl_append

lemma afterReports_concat (db : Postgres) (earlier : List PassReport) (last : PassReport) :
    db.afterReports (earlier ++ [last]) = (db.afterReports earlier).afterReport last :=
  afterReports_append db earlier [last]

lemma leads_report (db : Postgres) (report : PassReport) :
    report.Leads db.reported (db.afterReport report).reported := by
  obtain ⟨generation, result, time⟩ := report
  cases result <;> exact ⟨rfl, rfl, Condition.set_eq_upsert ..⟩

lemma afterReport_again (db : Postgres) (report : PassReport) (time : String) :
    (db.afterReport report).afterReport { report with time } = db.afterReport report := by
  have hsame : ((db.afterReport report).afterReport { report with time }).reported =
      (db.afterReport report).reported := (leads_report db report).eq_self (leads_report _ _)
  exact congrArg (fun status => { db.afterReport report with status := some status }) hsame

lemma observedGeneration_afterReports (db : Postgres) (reports : List PassReport) :
    (db.afterReports reports).reported.observedGeneration =
      ((reports.findRev? (·.succeeded)).map (·.generation)).getD
        db.reported.observedGeneration := by
  induction reports using List.reverseRecOn with
  | nil => rfl
  | append_singleton earlier last ih =>
    rw [afterReports_concat, (leads_report _ last).generation, ih, findRev?_append]
    by_cases hok : last.succeeded = true <;> simp [hok, List.findRev?]

/-- Of all reports the list of conditions shows the last one only. -/
lemma conditions_afterReports (db : Postgres) (earlier : List PassReport) (last : PassReport) :
    (db.afterReports (earlier ++ [last])).conditions = upsert (·.type) db.conditions
      (last.condition (Condition.find? (db.afterReports earlier).conditions Condition.ready)) := by
  induction earlier using List.reverseRecOn generalizing last with
  | nil => exact (leads_report db last).conditions
  | append_singleton earlier next ih =>
    rw [afterReports_concat db (earlier ++ [next])]
    let before := db.afterReports (earlier ++ [next])
    let c := last.condition (Condition.find? before.conditions Condition.ready)
    let d := next.condition (Condition.find? (db.afterReports earlier).conditions Condition.ready)
    have htype : d.type = c.type := rfl
    calc (before.afterReport last).conditions
        = upsert (·.type) before.conditions c := (leads_report before last).conditions
      _ = upsert (·.type) (upsert (·.type) db.conditions d) c := congrArg (upsert _ · c) (ih next)
      _ = upsert (·.type) db.conditions c := upsert_upsert htype _

/-- What the status shows after a run of passes: the phase and the condition say how the last one
went, the generation is that of the last success, and the other conditions are the first ones. The
same report made once more changes neither the status nor what the server stores. -/
structure Shows (db : Postgres) (earlier : List PassReport) (last : PassReport) : Prop where
  phase : (db.afterReports (earlier ++ [last])).reported.phase =
    some (if last.succeeded then "Ready" else "Failed")
  generation : (db.afterReports (earlier ++ [last])).reported.observedGeneration =
    (((earlier ++ [last]).findRev? (·.succeeded)).map (·.generation)).getD
      db.reported.observedGeneration
  conditions : ∃ c : Condition,
    Condition.find? (db.afterReports (earlier ++ [last])).conditions Condition.ready = some c ∧
    c.status = (if last.succeeded then "True" else "False") ∧
    c.lastTransitionTime = Condition.reachedAt last.time c.status
      (Condition.find? (db.afterReports earlier).conditions Condition.ready) ∧
    (db.afterReports (earlier ++ [last])).conditions = upsert (·.type) db.conditions c
  again : ∀ time, db.afterReports (earlier ++ [last, { last with time }]) =
    db.afterReports (earlier ++ [last])
  stored : ∀ time (doc : Json.Present),
    let stored := Json.merge doc.1 (db.afterReports (earlier ++ [last])).reported.patch
    Json.merge stored
      (db.afterReports (earlier ++ [last, { last with time }])).reported.patch = stored

lemma ordered_patch (status : PostgresStatus) : status.patch.Ordered :=
  Json.ordered_object fun _ he => List.mem_singleton.1 he ▸ Record.ordered_encode status

/-- **The status follows the run of passes.** -/
theorem shows_reports (db : Postgres) (earlier : List PassReport) (last : PassReport) :
    Shows db earlier last := by
  have hagain (time : String) : db.afterReports (earlier ++ [last, { last with time }]) =
      db.afterReports (earlier ++ [last]) := by
    rw [afterReports_append, afterReports_append]
    exact afterReport_again _ last time
  refine ⟨?phase, ?generation, ?conditions, hagain, fun time doc => ?stored⟩
  case phase =>
    rw [afterReports_concat]
    exact (leads_report _ last).phase
  case generation => exact observedGeneration_afterReports db _
  case conditions =>
    have hlast := conditions_afterReports db earlier last
    refine ⟨_, ?_, rfl, rfl, hlast⟩
    rw [hlast]
    exact Condition.find?_upsert_self _ (last.condition _)
  case stored =>
    show Json.merge (Json.merge doc.1 _) _ = Json.merge doc.1 _
    rw [hagain]
    exact Json.merge_merge_self doc.2.2 (ordered_patch _)

/-- A failure that is reported twice has come to its status the first time. -/
example : (afterReports {} [⟨some 4, .ok .created, "09:00"⟩,
    ⟨some 5, .error (.missingVersion "13.2"), "09:05"⟩,
    ⟨some 5, .error (.missingVersion "13.2"), "09:06"⟩]).conditions.map
      (fun c => (c.status, c.lastTransitionTime)) = [("False", "09:05")] := by
  decide

end Postgres

end PgOperator
