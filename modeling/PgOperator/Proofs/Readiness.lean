import Mathlib.Tactic.Lemma
import PgOperator.Proofs.Closure
import PgOperator.Proofs.Trace

/-!
Whether pods have been seen running since the stateful set was last written.

A pass waits for pods only where it has written the stateful set itself, so it goes in one of three
ways (`fits_reconcile`): it writes nothing and does not wait, it writes and sees the pods run, or it
writes and breaks off in its wait. The next pass finds nothing to write and does not wait either. So
success is reported for pods that nobody has seen running exactly where the last pass that wrote the
stateful set broke off in its wait (`history_unseen_iff`).
-/

namespace PgOperator

open Kube

/-- What is told about the stateful set and its pods: it has been written, or a wait has ended. -/
inductive Mark where
  | written
  | running
  | unready
  deriving DecidableEq

/-- The marks since the last write, the latest one first. -/
def sinceWritten (marks : List Mark) : List Mark := marks.reverse.takeWhile (· ≠ .written)

/-- A wait for pods has succeeded since the last write. -/
def SeenRunning (marks : List Mark) : Prop := .running ∈ sinceWritten marks

instance (marks : List Mark) : Decidable (SeenRunning marks) :=
  inferInstanceAs (Decidable (_ ∈ _))

lemma seenRunning_append (marks : List Mark) : SeenRunning (marks ++ [.written, .running]) := by
  simp [SeenRunning, sinceWritten]

lemma not_seenRunning_append (marks : List Mark) :
    ¬ SeenRunning (marks ++ [.written, .unready]) := by
  simp [SeenRunning, sinceWritten]

/-- What a call and its reply tell. -/
def Call.marks : (c : Call) → c.Reply → List Mark
  | .create .statefulSet _ _, .ok _ => [.written]
  | .patch .statefulSet _ _, .ok _ => [.written]
  | .awaitPods .., .ok _ => [.running]
  | .awaitPods .., .error _ => [.unready]
  | _, _ => []

namespace Pass

variable {σ α β : Type} {answer : (c : Call) → σ → c.Reply × σ}

/-- What a pass tells as it is carried out. -/
def marks (answer : (c : Call) → σ → c.Reply × σ) (p : Pass α) (s : σ) : List Mark :=
  (p.trace answer s).flatMap fun x => x.call.marks x.reply

lemma marks_call (c : Call) (next : c.Reply → Pass α) (s : σ) :
    (Pass.call c next).marks answer s =
      c.marks (answer c s).1 ++ (next (answer c s).1).marks answer (answer c s).2 := rfl

lemma Ended.marks_eq {p : Pass α} (h : p.Ended) (s : σ) : p.marks answer s = [] := by
  rcases h with ⟨value, rfl⟩ | ⟨error, rfl⟩ <;> rfl

lemma marks_last {c : Call} {next : c.Reply → Pass α} (h : ∀ reply, (next reply).Ended) (s : σ) :
    (Pass.call c next).marks answer s = c.marks (answer c s).1 := by
  rw [marks_call, (h _).marks_eq, List.append_nil]

lemma marks_bind (p : Pass α) (q : α → Pass β) (s : σ) :
    (p >>= q).marks answer s = p.marks answer s ++
      match p.run answer s with
      | (.ok value, s) => (q value).marks answer s
      | (.error _, _) => [] := by
  rw [marks, trace_bind, List.flatMap_append]
  cases p.run answer s with
  | mk result s' => cases result <;> rfl

/-! ### Passes that tell nothing -/

/-- The pass neither writes a stateful set nor waits for pods. -/
def Unmarked (answer : (c : Call) → σ → c.Reply × σ) (p : Pass α) : Prop :=
  ∀ s, p.marks answer s = []

lemma Unmarked.bind {p : Pass α} {q : α → Pass β} (hp : Unmarked answer p)
    (hq : ∀ value, Unmarked answer (q value)) : Unmarked answer (p >>= q) := by
  intro s
  rw [marks_bind, hp s]
  cases p.run answer s with
  | mk result s' =>
    cases result with
    | ok value => exact hq value s'
    | error error => rfl

lemma unmarked_pure (value : α) : Unmarked answer (pure value) := fun _ => rfl

lemma unmarked_last {c : Call} {next : c.Reply → Pass α} (hc : ∀ reply, c.marks reply = [])
    (hnext : ∀ reply, (next reply).Ended) : Unmarked answer (.call c next) := fun s =>
  (marks_last hnext s).trans (hc _)

lemma unmarked_ensureNotCancelled : Unmarked answer ensureNotCancelled :=
  unmarked_last (fun _ => rfl) ended_ensureNotCancelled

lemma unmarked_announce (db : Postgres) (what : String) (outcome : Outcome) :
    Unmarked answer (announce db what outcome) := by
  unfold announce
  split
  · exact unmarked_last (fun _ => rfl) fun _ => .inl ⟨(), rfl⟩
  · exact unmarked_pure ()

lemma closed_unmarked : Closed (Unmarked answer) where
  of_pure := unmarked_pure
  bind := Unmarked.bind
  looked := unmarked_ensureNotCancelled
  told := unmarked_announce

lemma unmarked_createOrPatch (kind : Kind) (h : kind ≠ .statefulSet) (id : ObjectId)
    (change : kind.Object → kind.Object) : Unmarked answer (createOrPatch kind id change) := by
  refine closed_unmarked.createOrPatch (unmarked_last (fun reply => ?_) ended_ofExcept)
    (fun object => unmarked_last (fun reply => ?_) ended_ofExcept)
    fun ops => unmarked_last (fun reply => ?_) ended_ofExcept
  -- Only a stateful set's being written tells something.
  · cases kind <;> rfl
  · cases kind <;> first | exact absurd rfl h | rfl
  · cases kind <;> first | exact absurd rfl h | rfl

variable {db : Postgres} {version : PostgresVersion} {options : Options}

lemma unmarked_ensureServices (db : Postgres) : Unmarked answer (ensureServices db) :=
  closed_unmarked.ensureServices (fun _ _ _ => unmarked_createOrPatch .service nofun _ _) db

lemma unmarked_checkStatefulSet : Unmarked answer (checkStatefulSet db) := by
  rw [checkStatefulSet_eq]
  exact unmarked_last (fun _ => rfl) ended_checkFound

lemma unmarked_ensureDisruptionBudget (set : StatefulSet) :
    Unmarked answer (ensureDisruptionBudget set) :=
  closed_unmarked.ensureDisruptionBudget set fun _ =>
    unmarked_createOrPatch .disruptionBudget nofun _ _

/-! ### The stateful set -/

/-- The marks of a pass that ends with a stateful set and what became of it. -/
def outcomeMarks : Except Error (StatefulSet × Outcome) → List Mark
  | .ok (_, outcome) => if outcome.isChanged then [.written] else []
  | .error _ => []

lemma marks_afterRead (id : ObjectId) (change : StatefulSet → StatefulSet)
    (reply : Except Error (Option StatefulSet)) (s : σ) :
    (afterRead .statefulSet id change reply).marks answer s =
      outcomeMarks ((afterRead .statefulSet id change reply).run answer s).1 := by
  rcases reply with error | _ | current
  · rfl
  · simp only [afterRead]
    have hended (reply : Except Error StatefulSet) :=
      ended_bind_ofExcept reply fun created => (created, Outcome.created)
    rw [marks_last hended, run_call]
    cases (answer (.create .statefulSet id.ns (change (Kind.blank .statefulSet id))) s).1 <;> rfl
  · simp only [afterRead]
    split
    · rfl
    · cases @diffPatch .statefulSet current (change current) with
      | nil => rfl
      | cons op ops =>
        simp only
        have hended (reply : Except Error StatefulSet) :=
          ended_bind_ofExcept reply fun patched => (patched, Outcome.patched)
        rw [marks_last hended, run_call]
        cases (answer (.patch .statefulSet id (op :: ops)) s).1 <;> rfl

lemma marks_createOrPatch (id : ObjectId) (change : StatefulSet → StatefulSet) (s : σ) :
    (createOrPatch .statefulSet id change).marks answer s =
      outcomeMarks ((createOrPatch .statefulSet id change).run answer s).1 := by
  rw [createOrPatch_eq]
  exact marks_afterRead id change _ _

/-! ### A pass -/

/-- How a pass has gone: how it ended, and what it told. -/
structure Went where
  result : Except Error Outcome
  marks : List Mark

/-- The three ways in which a pass may go: it writes no stateful set and does not wait, it writes
one and sees its pods run, or it writes one and breaks off in its wait. -/
inductive Went.Fits : Went → Prop where
  | idle {result : Except Error Outcome}
    (h : ∀ outcome, result = .ok outcome → outcome = .unchanged) : Fits ⟨result, []⟩
  | seen {result : Except Error Outcome}
    (h : ∀ outcome, result = .ok outcome → outcome ≠ .unchanged) :
    Fits ⟨result, [.written, .running]⟩
  | unready (error : Error) : Fits ⟨.error error, [.written, .unready]⟩

lemma Went.Fits.unchanged {outcome : Outcome} {marks : List Mark} (h : Fits ⟨.ok outcome, marks⟩)
    (hmarks : marks = []) : outcome = .unchanged := by
  subst hmarks
  cases h with
  | idle h => exact h outcome rfl

lemma Went.Fits.quiet {marks : List Mark} (h : Fits ⟨.ok .unchanged, marks⟩) : marks = [] := by
  cases h with
  | idle => rfl
  | seen h => exact absurd rfl (h .unchanged rfl)

/-- How a pass goes where it starts in a state. -/
def went (answer : (c : Call) → σ → c.Reply × σ) (p : Pass Outcome) (s : σ) : Went :=
  ⟨(p.run answer s).1, p.marks answer s⟩

/-- A pass goes as its second part does if the first one tells nothing. -/
lemma Unmarked.fits_bind {p : Pass α} {q : α → Pass Outcome} (hp : Unmarked answer p)
    (hq : ∀ value s, ((q value).went answer s).Fits) (s : σ) : ((p >>= q).went answer s).Fits := by
  rw [went, marks_bind, hp s, run_bind]
  cases p.run answer s with
  | mk result s' =>
    cases result with
    | ok value => exact hq value s'
    | error error => exact .idle nofun

/-- What follows once the stateful set is in its state. -/
def afterSet (db : Postgres) (options : Options) (v : StatefulSet × Outcome) : Pass Outcome :=
  settleIn db options v >>= fun _ => ensureDisruptionBudget v.1 >>= fun _ => pure v.2

lemma outcome_afterSet {v : StatefulSet × Outcome} {outcome : Outcome} {s s' : σ}
    (h : (afterSet db options v).run answer s = (.ok outcome, s')) : outcome = v.2 := by
  obtain ⟨_, _, -, h⟩ := of_run_bind h
  obtain ⟨_, _, -, h⟩ := of_run_bind h
  exact (Except.ok.inj (Prod.mk.inj h).1).symm

lemma marks_awaitStatefulSet (options : Options) (set : StatefulSet) (s : σ) :
    (∃ s', (awaitStatefulSet options set).run answer s = (.ok (), s') ∧
      (awaitStatefulSet options set).marks answer s = [.running]) ∨
    ∃ error s', (awaitStatefulSet options set).run answer s = (.error error, s') ∧
      (awaitStatefulSet options set).marks answer s = [.unready] := by
  unfold awaitStatefulSet awaitPods
  rw [run_call, marks_call]
  cases (answer (.awaitPods _ _ _ _) s).1 with
  | ok value => exact .inl ⟨_, rfl, rfl⟩
  | error error => exact .inr ⟨error, _, rfl, rfl⟩

lemma fits_afterSet (v : StatefulSet × Outcome) (s : σ) :
    Went.Fits ⟨((afterSet db options v).run answer s).1,
      outcomeMarks (.ok v) ++ (afterSet db options v).marks answer s⟩ := by
  have hbudget : Unmarked answer
      (ensureDisruptionBudget v.1 >>= fun _ => (pure v.2 : Pass Outcome)) :=
    (unmarked_ensureDisruptionBudget v.1).bind fun _ => unmarked_pure v.2
  have houtcome : ∀ outcome, ((afterSet db options v).run answer s).1 = .ok outcome →
      outcome = v.2 := fun outcome h => outcome_afterSet (Prod.ext h rfl)
  -- Pods are waited for after a change and at no other time.
  by_cases hchanged : v.2.isChanged
  · have hne : v.2 ≠ .unchanged := of_decide_eq_true hchanged
    have hrest (_ : Unit) : Unmarked answer (announce db "StatefulSet" v.2 >>= fun _ =>
        ensureNotCancelled >>= fun _ => ensureDisruptionBudget v.1 >>= fun _ =>
          (pure v.2 : Pass Outcome)) :=
      (unmarked_announce _ _ _).bind fun _ => unmarked_ensureNotCancelled.bind fun _ => hbudget
    have heq : afterSet db options v = awaitStatefulSet options v.1 >>= fun _ =>
        announce db "StatefulSet" v.2 >>= fun _ => ensureNotCancelled >>= fun _ =>
          ensureDisruptionBudget v.1 >>= fun _ => pure v.2 := by
      simp only [afterSet, settleIn, if_pos hchanged, bind_assoc]
    rw [heq] at houtcome ⊢
    rw [outcomeMarks, if_pos hchanged, marks_bind]
    rcases marks_awaitStatefulSet options v.1 s with ⟨s', hrun, hmarks⟩ |
      ⟨error, s', hrun, hmarks⟩
    · rw [hmarks, hrun]
      simp only [hrest () s', List.append_nil, List.singleton_append]
      exact .seen fun outcome h => houtcome outcome h ▸ hne
    · rw [run_bind, hmarks, hrun]
      exact .unready error
  · have hsame : v.2 = .unchanged := by simpa [Outcome.isChanged] using hchanged
    have hquiet : Unmarked answer (afterSet db options v) := by
      simp only [afterSet, settleIn, if_neg hchanged]
      exact unmarked_ensureNotCancelled.bind fun _ => hbudget
    rw [outcomeMarks, if_neg hchanged, hquiet s]
    exact .idle fun outcome h => (houtcome outcome h).trans hsame

lemma fits_ensureStatefulSet (s : σ) :
    ((ensureStatefulSet db version options).went answer s).Fits := by
  rw [ensureStatefulSet_eq]
  refine unmarked_ensureNotCancelled.fits_bind (fun _ s => ?_) s
  rw [bind_assoc]
  refine unmarked_checkStatefulSet.fits_bind (fun _ s => ?_) s
  rw [went, marks_bind, run_bind, marks_createOrPatch]
  cases (createOrPatch .statefulSet ⟨db.ns, db.name⟩ (db.statefulSet version options)).run answer s
    with
  | mk result s' =>
    cases result with
    | ok v => exact fits_afterSet v s'
    | error error => exact .idle nofun

/-- **A pass waits for what it has written itself**, and ends only if that is seen running. This
holds however its calls are answered. -/
lemma fits_reconcile (db : Postgres) (version : PostgresVersion) (options : Options) (s : σ) :
    ((reconcile db version options).went answer s).Fits := by
  rw [reconcile_eq]
  exact (unmarked_ensureServices db).fits_bind (fun _ s => fits_ensureStatefulSet s) s

/-! ### Many passes -/

/-- A pass to come: the instance as it is by then, and what happens before the pass begins. -/
structure Round (σ : Type) where
  db : Postgres
  version : PostgresVersion
  options : Options
  meanwhile : σ → σ

/-- How the passes of some rounds go, one after the other. -/
def history (answer : (c : Call) → σ → c.Reply × σ) : List (Round σ) → σ → List Went
  | [], _ => []
  | round :: rest, s =>
    let pass := reconcile round.db round.version round.options
    pass.went answer (round.meanwhile s) ::
      history answer rest (pass.run answer (round.meanwhile s)).2

/-- All that some passes told. -/
def told (passes : List Went) : List Mark := passes.flatMap (·.marks)

lemma fits_history (rounds : List (Round σ)) (s : σ) :
    ∀ went ∈ history answer rounds s, went.Fits := by
  induction rounds generalizing s with
  | nil => exact nofun
  | cons round rest ih =>
    exact List.forall_mem_cons.2 ⟨fits_reconcile _ _ _ _, ih _⟩

lemma exists_last_telling {passes : List Went} (h : told passes ≠ []) :
    ∃ before went after, passes = before ++ went :: after ∧ went.marks ≠ [] ∧ told after = [] := by
  induction passes with
  | nil => exact absurd rfl h
  | cons first rest ih =>
    by_cases hrest : told rest = []
    · refine ⟨[], first, rest, rfl, fun hfirst => h ?_, hrest⟩
      rw [told, List.flatMap_cons, hfirst, List.nil_append]
      exact hrest
    · obtain ⟨before, went, after, rfl, hwent, hafter⟩ := ih hrest
      exact ⟨first :: before, went, after, rfl, hwent, hafter⟩

lemma told_append_cons {before after : List Went} {went : Went} (h : told after = []) :
    told (before ++ went :: after) = told before ++ went.marks := by
  unfold told at h ⊢
  rw [List.flatMap_append, List.flatMap_cons, h, List.append_nil]

/-- **Success for pods that nobody has seen running**: a pass ends well, and no wait has succeeded
since the stateful set was last written, exactly if the pass found nothing to change and the last
one that wrote the stateful set broke off in its wait. -/
theorem history_unseen_iff {rounds : List (Round σ)} {s : σ} {past : List Went} {outcome : Outcome}
    {marks : List Mark} (h : history answer rounds s = past ++ [⟨.ok outcome, marks⟩])
    (hwritten : .written ∈ told (history answer rounds s)) :
    ¬ SeenRunning (told (history answer rounds s)) ↔
      outcome = .unchanged ∧ ∃ before error after,
        past = before ++ ⟨.error error, [.written, .unready]⟩ :: after ∧ told after = [] := by
  have hfits : ∀ went ∈ history answer rounds s, went.Fits := fits_history rounds s
  rw [h] at hwritten hfits ⊢
  have hlast : Went.Fits ⟨.ok outcome, marks⟩ :=
    hfits _ (List.mem_append_right _ (List.mem_singleton_self _))
  constructor
  · intro hunseen
    obtain ⟨before, went, after, heq, htells, hafter⟩ :=
      exists_last_telling (List.ne_nil_of_mem hwritten)
    have hwent : went.Fits := hfits went (heq ▸ List.mem_append_right _ List.mem_cons_self)
    rw [heq, told_append_cons hafter] at hunseen
    cases hwent with
    | idle => exact absurd rfl htells
    | seen => exact absurd (seenRunning_append _) hunseen
    | unready error =>
      -- The pass that broke off is not the last one, which has therefore told nothing.
      rcases List.eq_nil_or_concat after with rfl | ⟨rest, last, rfl⟩
      · have hsame := List.singleton_inj.1 (List.append_inj' heq rfl).2
        exact absurd (congrArg Went.result hsame) nofun
      · rw [List.concat_eq_append] at heq hafter
        rw [told, List.flatMap_append, List.append_eq_nil_iff] at hafter
        have hsplit : past ++ [⟨.ok outcome, marks⟩] =
            (before ++ ⟨.error error, [.written, .unready]⟩ :: rest) ++ [last] := by
          rw [heq, List.append_assoc, List.cons_append]
        obtain ⟨hpast, hends⟩ := List.append_inj' hsplit rfl
        obtain rfl := List.singleton_inj.1 hends
        have hquiet : marks = [] := by simpa using hafter.2
        exact ⟨hlast.unchanged hquiet, before, error, rest, hpast, hafter.1⟩
  · rintro ⟨rfl, before, error, after, rfl, hafter⟩
    have hquiet : told (after ++ [⟨.ok .unchanged, marks⟩]) = [] := by
      rw [told, List.flatMap_append, List.append_eq_nil_iff]
      exact ⟨hafter, by simpa using hlast.quiet⟩
    rw [List.append_assoc, List.cons_append, told_append_cons hquiet]
    exact not_seenRunning_append _

/-- Two passes over one instance, with nothing done in between. -/
def twice : List (Round Memory) := [⟨migrated, {}, {}, id⟩, ⟨migrated, {}, {}, id⟩]

lemma history_twice : ∃ error, history Memory.answer twice { running := some 0 } =
    [⟨.error error, [.written, .unready]⟩] ++ [⟨.ok .unchanged, []⟩] := ⟨_, rfl⟩

theorem history_unseen_iff_twice : ∃ past,
    history Memory.answer twice { running := some 0 } = past ++ [⟨.ok .unchanged, []⟩] ∧
    .written ∈ told (history Memory.answer twice { running := some 0 }) ∧
    (¬ SeenRunning (told (history Memory.answer twice { running := some 0 })) ↔
      Outcome.unchanged = .unchanged ∧ ∃ before error after,
        past = before ++ ⟨.error error, [.written, .unready]⟩ :: after ∧ told after = []) := by
  obtain ⟨error, h⟩ := history_twice
  have hwritten : .written ∈ told (history Memory.answer twice { running := some 0 }) := by
    rw [h]
    exact List.mem_cons_self
  exact ⟨_, h, hwritten, history_unseen_iff h hwritten⟩

/-- Success is reported although the stateful set has been written and no pod has ever run. -/
theorem ends_unseen : ∃ past,
    history Memory.answer twice { running := some 0 } = past ++ [⟨.ok .unchanged, []⟩] ∧
    .written ∈ told (history Memory.answer twice { running := some 0 }) ∧
    ¬ SeenRunning (told (history Memory.answer twice { running := some 0 })) := by
  obtain ⟨error, h⟩ := history_twice
  refine ⟨_, h, ?_, ?_⟩
  · rw [h]
    exact List.mem_cons_self
  · rw [h]
    exact not_seenRunning_append []

end Pass

end PgOperator
