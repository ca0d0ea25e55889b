import Mathlib.Tactic.Lemma
import PgOperator.Proofs.Store

/-!
Passes some of whose calls are refused.

`Pass.Follows` lists the calls of a pass with their replies, and says how it may end, where any call
may be refused, without an effect: this covers injected failures, waits that time out and
cancellation at any point. `Pass.Leaves` says how it may end, and no more. What such a pass leaves
in a control plane depends on the objects and the counted uids only, so it is studied on these alone
(`Stored`), where no call is refused.
-/

namespace PgOperator

open Memory

/-- The reply refuses the call. Recording an event cannot fail. -/
def Call.Refused : (c : Call) → c.Reply → Prop
  | .get .., reply => ∃ error, reply = .error error
  | .create .., reply => ∃ error, reply = .error error
  | .patch .., reply => ∃ error, reply = .error error
  | .awaitPods .., reply => ∃ error, reply = .error error
  | .isCancelled, reply => reply = true
  | .emit .., _ => False

/-- The call neither writes an object nor records an event. -/
def Call.OnlyReads : Call → Prop
  | .get .. | .awaitPods .. | .isCancelled => True
  | .create .. | .patch .. | .emit .. => False

structure Exchange where
  call : Call
  reply : call.Reply

namespace Pass

variable {σ α β : Type}

/-- No call that the pass makes writes an object or records an event. -/
def OnlyReads (answer : (c : Call) → σ → c.Reply × σ) : Pass α → σ → Prop
  | .done _, _ => True
  | .fail _, _ => True
  | .call c next, s => c.OnlyReads ∧ (next (answer c s).1).OnlyReads answer (answer c s).2

/-- The exchanges that a pass may have, how it may end, and in which state, where each call is
answered, or refused without an effect. -/
inductive Follows (answer : (c : Call) → σ → c.Reply × σ) :
    Pass α → σ → List Exchange → Except Error α → σ → Prop where
  | done (value : α) (s : σ) : Follows answer (.done value) s [] (.ok value) s
  | fail (error : Error) (s : σ) : Follows answer (.fail error) s [] (.error error) s
  | answered {c : Call} {next : c.Reply → Pass α} {s s' : σ} {rest : List Exchange}
      {r : Except Error α} (h : Follows answer (next (answer c s).1) (answer c s).2 rest r s') :
      Follows answer (.call c next) s (⟨c, (answer c s).1⟩ :: rest) r s'
  | refused {c : Call} {next : c.Reply → Pass α} {reply : c.Reply} {s s' : σ}
      {rest : List Exchange} {r : Except Error α} (hreply : c.Refused reply)
      (h : Follows answer (next reply) s rest r s') :
      Follows answer (.call c next) s (⟨c, reply⟩ :: rest) r s'

/-- How a pass may end, and in which state, whatever its exchanges are. -/
def Leaves (answer : (c : Call) → σ → c.Reply × σ) (p : Pass α) (s : σ) (r : Except Error α)
    (s' : σ) : Prop := ∃ exchanges, p.Follows answer s exchanges r s'

/-- The exchanges of a run. -/
def trace (answer : (c : Call) → σ → c.Reply × σ) : Pass α → σ → List Exchange
  | .done _, _ => []
  | .fail _, _ => []
  | .call c next, s => ⟨c, (answer c s).1⟩ :: (next (answer c s).1).trace answer (answer c s).2

variable {answer : (c : Call) → σ → c.Reply × σ} {p : Pass α} {q : α → Pass β} {s s' : σ}
  {exchanges : List Exchange}

/-! ### Exchanges -/

lemma follows_run (p : Pass α) (s : σ) :
    p.Follows answer s (p.trace answer s) (p.run answer s).1 (p.run answer s).2 := by
  induction p generalizing s with
  | done value => exact .done value s
  | fail error => exact .fail error s
  | call c next ih => exact .answered (ih _ _)

lemma follows_done_iff {value : α} {r : Except Error α} :
    (Pass.done value).Follows answer s exchanges r s' ↔
      exchanges = [] ∧ r = .ok value ∧ s' = s := by
  constructor
  · intro h
    cases h
    exact ⟨rfl, rfl, rfl⟩
  · rintro ⟨rfl, rfl, rfl⟩
    exact .done value _

lemma follows_fail_iff {error : Error} {r : Except Error α} :
    (Pass.fail error).Follows answer s exchanges r s' ↔
      exchanges = [] ∧ r = .error error ∧ s' = s := by
  constructor
  · intro h
    cases h
    exact ⟨rfl, rfl, rfl⟩
  · rintro ⟨rfl, rfl, rfl⟩
    exact .fail error _

/-- A pass in two parts has the exchanges of the first one, and those of the second one unless the
first one failed. -/
lemma follows_bind {r : Except Error β} (h : (p >>= q).Follows answer s exchanges r s') :
    (∃ error, r = .error error ∧ p.Follows answer s exchanges (.error error) s') ∨
    ∃ value first rest mid, exchanges = first ++ rest ∧ p.Follows answer s first (.ok value) mid ∧
      (q value).Follows answer mid rest r s' := by
  induction p generalizing s exchanges with
  | done value => exact .inr ⟨value, [], exchanges, s, rfl, .done value s, h⟩
  | fail error =>
    obtain ⟨rfl, rfl, rfl⟩ := follows_fail_iff.1 h
    exact .inl ⟨error, rfl, .fail error _⟩
  | call c next ih =>
    have h : (Pass.call c fun reply => next reply >>= q).Follows answer s exchanges r s' := h
    cases h with
    | answered h =>
      rcases ih _ h with ⟨error, hr, h⟩ | ⟨value, first, rest, mid, rfl, hfirst, hsecond⟩
      · exact .inl ⟨error, hr, .answered h⟩
      · exact .inr ⟨value, _ :: first, rest, mid, rfl, .answered hfirst, hsecond⟩
    | refused hreply h =>
      rcases ih _ h with ⟨error, hr, h⟩ | ⟨value, first, rest, mid, rfl, hfirst, hsecond⟩
      · exact .inl ⟨error, hr, .refused hreply h⟩
      · exact .inr ⟨value, _ :: first, rest, mid, rfl, .refused hreply hfirst, hsecond⟩

/-! ### Ends -/

lemma leaves_of_run {r : Except Error α} (h : p.run answer s = (r, s')) :
    p.Leaves answer s r s' := by
  have hruns : p.Follows answer s _ _ _ := follows_run p s
  rw [h] at hruns
  exact ⟨_, hruns⟩

lemma leaves_done_iff {value : α} {r : Except Error α} :
    (Pass.done value).Leaves answer s r s' ↔ r = .ok value ∧ s' = s := by
  simp only [Leaves, follows_done_iff, exists_eq_left]

lemma leaves_fail_iff {error : Error} {r : Except Error α} :
    (Pass.fail error).Leaves answer s r s' ↔ r = .error error ∧ s' = s := by
  simp only [Leaves, follows_fail_iff, exists_eq_left]

lemma leaves_call_iff {c : Call} {next : c.Reply → Pass α} {r : Except Error α} :
    (Pass.call c next).Leaves answer s r s' ↔
      (next (answer c s).1).Leaves answer (answer c s).2 r s' ∨
      ∃ reply, c.Refused reply ∧ (next reply).Leaves answer s r s' := by
  constructor
  · rintro ⟨exchanges, h⟩
    cases h with
    | answered h => exact .inl ⟨_, h⟩
    | refused hreply h => exact .inr ⟨_, hreply, _, h⟩
  · rintro (⟨rest, h⟩ | ⟨reply, hreply, rest, h⟩)
    · exact ⟨_, .answered h⟩
    · exact ⟨_, .refused hreply h⟩

lemma Ended.run_eq {r : Except Error α} (hended : p.Ended) (h : p.Leaves answer s r s') :
    p.run answer s = (r, s') := by
  rcases hended with ⟨value, rfl⟩ | ⟨error, rfl⟩
  · obtain ⟨rfl, rfl⟩ := leaves_done_iff.1 h
    rfl
  · obtain ⟨rfl, rfl⟩ := leaves_fail_iff.1 h
    rfl

lemma leaves_bind {r : Except Error β} (h : (p >>= q).Leaves answer s r s') :
    (∃ error, r = .error error ∧ p.Leaves answer s (.error error) s') ∨
    ∃ value mid, p.Leaves answer s (.ok value) mid ∧ (q value).Leaves answer mid r s' := by
  obtain ⟨exchanges, h⟩ := h
  rcases follows_bind h with ⟨error, hr, h⟩ | ⟨value, first, rest, mid, -, hfirst, hsecond⟩
  · exact .inl ⟨error, hr, exchanges, h⟩
  · exact .inr ⟨value, mid, ⟨first, hfirst⟩, rest, hsecond⟩

lemma run_bind_of_run {r : Except Error β × σ} {value : α} {mid : σ}
    (h : p.run answer s = (.ok value, mid)) (hthen : (q value).run answer mid = r) :
    (p >>= q).run answer s = r := by
  rw [run_bind, h]
  exact hthen

lemma OnlyReads.bind {value : α} {mid : σ} (hp : p.OnlyReads answer s)
    (hrun : p.run answer s = (.ok value, mid)) (hq : (q value).OnlyReads answer mid) :
    (p >>= q).OnlyReads answer s := by
  induction p generalizing s with
  | done first =>
    obtain ⟨hvalue, rfl⟩ := Prod.mk.inj hrun
    obtain rfl := Except.ok.inj hvalue
    exact hq
  | fail error => trivial
  | call c next ih => exact ⟨hp.1, ih _ hp.2 hrun⟩

lemma run_of_fst {r : Except Error α} (h : (p.run answer s).1 = r) :
    p.run answer s = (r, (p.run answer s).2) := Prod.ext h rfl

lemma of_run_bind {value : β} (h : (p >>= q).run answer s = (.ok value, s')) :
    ∃ first mid, p.run answer s = (.ok first, mid) ∧
      (q first).run answer mid = (.ok value, s') := by
  rw [run_bind] at h
  cases hp : p.run answer s with
  | mk r mid =>
    rw [hp] at h
    cases r with
    | ok first => exact ⟨first, mid, rfl, h⟩
    | error error => exact absurd (Prod.mk.inj h).1 nofun

end Pass

/-! ### What is stored -/

/-- What a control plane stores: the objects, and how many uids it has given. -/
structure Stored where
  objects : List (ObjectKey × Json)
  uids : Nat

/-- What is stored in a control plane. -/
def Memory.stored (m : Memory) : Stored := ⟨m.objects, m.uids⟩

namespace Stored

abbrev memory (s : Stored) : Memory := { objects := s.objects, uids := s.uids }

/-- Answers a call that is not refused. -/
def answer (c : Call) (s : Stored) : c.Reply × Stored :=
  ((Memory.answer c s.memory).1, (Memory.answer c s.memory).2.stored)

end Stored

namespace Memory

variable {α : Type} {p : Pass α}

/-- The control plane answers the call as it would on what it stores. -/
def AnswersAsStored (m : Memory) (c : Call) : Prop :=
  (answer c m).1 = (Stored.answer c m.stored).1 ∧
    (answer c m).2.stored = (Stored.answer c m.stored).2

lemma answersAsStored_get {m : Memory} {kind : Kind} (h : m.failure? kind = none) (id : ObjectId) :
    m.AnswersAsStored (.get kind id) := by
  refine ⟨?_, rfl⟩
  show m.get kind id = m.stored.memory.get kind id
  unfold get
  rw [h]
  rfl

lemma answersAsStored_create {m : Memory} {kind : Kind} (h : m.failure? kind = none) (ns : String)
    (object : kind.Object) : m.AnswersAsStored (.create kind ns object) := by
  show (m.create kind ns object).1 = (m.stored.memory.create kind ns object).1 ∧
    (m.create kind ns object).2.stored = (m.stored.memory.create kind ns object).2.stored
  have hfree : m.stored.memory.failure? kind = none := rfl
  have hsame : m.stored.objects = m.objects := rfl
  cases hget : lookup m.objects ⟨kind, ns, (kind.metadata object).name.getD ""⟩ with
  | none =>
    rw [create_of_none h hget, create_of_none hfree hget]
    exact ⟨rfl, rfl⟩
  | some doc =>
    simp only [create, h, hfree, hsame, hget]
    exact ⟨trivial, rfl⟩

lemma answersAsStored_patch {m : Memory} {kind : Kind} (h : m.failure? kind = none) (id : ObjectId)
    (ops : Json.Patch) : m.AnswersAsStored (.patch kind id ops) := by
  show (m.patch kind id ops).1 = (m.stored.memory.patch kind id ops).1 ∧
    (m.patch kind id ops).2.stored = (m.stored.memory.patch kind id ops).2.stored
  have hfree : m.stored.memory.failure? kind = none := rfl
  have hsame : m.stored.objects = m.objects := rfl
  cases hget : lookup m.objects ⟨kind, id.ns, id.name⟩ with
  | none =>
    simp only [patch, h, hfree, hsame, hget]
    exact ⟨trivial, rfl⟩
  | some current =>
    cases happly : ops.apply current with
    | error failure =>
      simp only [patch, h, hfree, hsame, hget, happly]
      exact ⟨trivial, rfl⟩
    | ok patched =>
      simp only [patch, h, hfree, hsame, hget, happly]
      split
      · exact ⟨rfl, rfl⟩
      · split <;> exact ⟨rfl, rfl⟩

lemma awaitPods_stored (s : Stored) (ns : String) (selector : Dict String) (count : Int32) :
    s.memory.awaitPods ns selector count = .ok () :=
  if_pos (Int32.le_refl count)

lemma answer_stored (c : Call) (m : Memory) :
    m.AnswersAsStored c ∨ c.Refused (answer c m).1 ∧ (answer c m).2.stored = m.stored := by
  -- A call is refused by an injected failure, by pods that do not run, or by a cancellation.
  cases c with
  | get kind id =>
    cases h : m.failure? kind with
    | none => exact .inl (answersAsStored_get h id)
    | some error => exact .inr ⟨⟨error, by simp only [answer, get, h]⟩, rfl⟩
  | create kind ns object =>
    cases h : m.failure? kind with
    | none => exact .inl (answersAsStored_create h ns object)
    | some error =>
      simp only [answer, create, h]
      exact .inr ⟨⟨error, rfl⟩, trivial⟩
  | patch kind id ops =>
    cases h : m.failure? kind with
    | none => exact .inl (answersAsStored_patch h id ops)
    | some error =>
      simp only [answer, patch, h]
      exact .inr ⟨⟨error, rfl⟩, trivial⟩
  | awaitPods ns selector count timeout =>
    cases h : m.awaitPods ns selector count with
    | ok value => exact .inl ⟨h.trans (awaitPods_stored m.stored ns selector count).symm, rfl⟩
    | error error => exact .inr ⟨⟨error, h⟩, rfl⟩
  | isCancelled =>
    cases h : m.cancelled with
    | false => exact .inl ⟨h, rfl⟩
    | true => exact .inr ⟨h, rfl⟩
  | emit db notice => exact .inl ⟨rfl, rfl⟩

/-- What passes between a pass and a control plane may pass between it and what that stores. -/
lemma follows_stored {m m' : Memory} {exchanges : List Exchange} {r : Except Error α}
    (h : p.Follows answer m exchanges r m') :
    p.Follows Stored.answer m.stored exchanges r m'.stored := by
  induction h with
  | done value m => exact .done value _
  | fail error m => exact .fail error _
  | @answered c next m m' rest r _ ih =>
    rcases answer_stored c m with ⟨hreply, hstored⟩ | ⟨hreply, hstored⟩
    · rw [hreply, hstored] at ih
      rw [hreply]
      exact .answered ih
    · rw [hstored] at ih
      exact .refused hreply ih
  | refused hreply _ ih => exact .refused hreply ih

lemma leaves_stored {m m' : Memory} {r : Except Error α} (h : p.Leaves answer m r m') :
    p.Leaves Stored.answer m.stored r m'.stored :=
  h.imp fun _ => follows_stored

/-- Nothing is refused: there are no injected failures and no cancellation, and enough pods run. -/
structure FailureFree (m : Memory) : Prop where
  failures : m.failures = []
  cancelled : m.cancelled = false
  running : ∀ count, count ≤ m.running.getD count

lemma FailureFree.answer_stored {m : Memory} (h : m.FailureFree) (c : Call) :
    m.AnswersAsStored c ∧ (answer c m).2.FailureFree := by
  have hfree := failure?_of_nil h.failures
  cases c with
  | get kind id => exact ⟨answersAsStored_get (hfree kind) id, h⟩
  | create kind ns object =>
    refine ⟨answersAsStored_create (hfree kind) ns object, ?_⟩
    rcases create_cases m kind ns object with ⟨error, hcreate⟩ | ⟨-, hcreate⟩
    · rw [answer, hcreate]
      exact h
    · rw [answer, hcreate]
      exact ⟨h.failures, h.cancelled, h.running⟩
  | patch kind id ops =>
    refine ⟨answersAsStored_patch (hfree kind) id ops, ?_⟩
    rcases patch_cases m kind id ops with ⟨error, hpatch⟩ | ⟨_, _, _, -, -, -, -, hpatch⟩
    · rw [answer, hpatch]
      exact h
    · rw [answer, hpatch]
      exact ⟨h.failures, h.cancelled, h.running⟩
  | awaitPods ns selector count timeout =>
    have hready : m.awaitPods ns selector count = .ok () := by
      simp only [awaitPods, h.cancelled, Bool.false_eq_true, if_false, h.running count, if_true]
    exact ⟨⟨hready.trans (awaitPods_stored m.stored ns selector count).symm, rfl⟩, h⟩
  | isCancelled => exact ⟨⟨h.cancelled, rfl⟩, h⟩
  | emit db notice => exact ⟨⟨rfl, rfl⟩, ⟨h.failures, h.cancelled, h.running⟩⟩

lemma FailureFree.run {m : Memory} (h : m.FailureFree) (p : Pass α) :
    (p.run answer m).1 = (p.run Stored.answer m.stored).1 ∧
      (p.run answer m).2.stored = (p.run Stored.answer m.stored).2 := by
  induction p generalizing m with
  | done value => exact ⟨rfl, rfl⟩
  | fail error => exact ⟨rfl, rfl⟩
  | call c next ih =>
    obtain ⟨⟨hreply, hstored⟩, hthen⟩ := h.answer_stored c
    obtain ⟨hresult, hleft⟩ := ih _ hthen
    rw [Pass.run_call, Pass.run_call, hresult, hleft, hreply, hstored]
    exact ⟨rfl, rfl⟩

end Memory

end PgOperator
