import Mathlib.Tactic.Lemma
import PgOperator.Proofs.Interruption

/-!
What passes between a pass and its surroundings, in order.

A pass is `Strict` if the first refusal ends it. Up to that refusal it has made the calls, and got
the replies, of a pass that is not refused anything, and it leaves what that pass has when it makes
the same call (`Pass.Strict.interrupted`).
-/

namespace PgOperator

open Memory

/-! ### Exchanges -/

/-- The error that has come back in place of a value. -/
def refusal? {α : Type} : Except Error α → Option Error
  | .ok _ => none
  | .error error => some error

lemma refusal?_eq_some_iff {α : Type} {reply : Except Error α} {error : Error} :
    refusal? reply = some error ↔ reply = .error error := by
  cases reply <;> simp [refusal?]

/-- The error by which a reply refuses a call. That a pass has been cancelled is an error of its
own. -/
def Call.error? : (c : Call) → c.Reply → Option Error
  | .get .., reply => refusal? reply
  | .create .., reply => refusal? reply
  | .patch .., reply => refusal? reply
  | .awaitPods .., reply => refusal? reply
  | .isCancelled, cancelled => if cancelled then some .cancelled else none
  | .emit .., _ => none

/-- The key under which a call has stored an object. -/
def Call.written? : (c : Call) → c.Reply → Option ObjectKey
  | .create kind ns object, .ok _ => some ⟨kind, ns, (kind.metadata object).name.getD ""⟩
  | .patch kind id _, .ok _ => some ⟨kind, id.ns, id.name⟩
  | _, _ => none

def Call.tellsProgress : Call → Bool
  | .emit _ notice => notice.type = .normal
  | _ => false

lemma Call.Refused.exists_error {c : Call} {reply : c.Reply} (h : c.Refused reply) :
    ∃ error, c.error? reply = some error := by
  cases c with
  | get | create | patch | awaitPods =>
    obtain ⟨error, rfl⟩ := h
    exact ⟨error, rfl⟩
  | isCancelled => exact ⟨.cancelled, by rw [show reply = true from h]; rfl⟩
  | emit => exact h.elim

lemma Call.refused_of_error {c : Call} {reply : c.Reply} {error : Error}
    (h : c.error? reply = some error) : c.Refused reply := by
  cases c with
  | get | create | patch | awaitPods => exact ⟨error, refusal?_eq_some_iff.1 h⟩
  | isCancelled =>
    cases reply with
    | true => rfl
    | false => exact absurd h nofun
  | emit => exact absurd h nofun

namespace Exchange

/-- The error by which the call was refused. -/
def error? (x : Exchange) : Option Error := x.call.error? x.reply

/-- The key under which an object was stored. -/
def written? (x : Exchange) : Option ObjectKey := x.call.written? x.reply

/-- Whether an object was written or an event tells of progress. -/
def isDeed (x : Exchange) : Bool := x.written?.isSome || x.call.tellsProgress

lemma written?_of_error {x : Exchange} {error : Error} (h : x.error? = some error) :
    x.written? = none := by
  obtain ⟨c, reply⟩ := x
  cases c with
  | get | awaitPods | isCancelled | emit => rfl
  | create | patch =>
    obtain rfl := refusal?_eq_some_iff.1 h
    rfl

lemma isDeed_of_error {x : Exchange} {error : Error} (h : x.error? = some error) :
    x.isDeed = false := by
  rw [isDeed, written?_of_error h]
  obtain ⟨c, reply⟩ := x
  cases c with
  | get | create | patch | awaitPods | isCancelled => rfl
  | emit => exact absurd h nofun

end Exchange

def deeds (trace : List Exchange) : List Exchange := trace.filter Exchange.isDeed

def written (trace : List Exchange) : List ObjectKey := trace.filterMap Exchange.written?

lemma deeds_append (past rest : List Exchange) : deeds (past ++ rest) = deeds past ++ deeds rest :=
  List.filter_append past rest

lemma written_append (past rest : List Exchange) :
    written (past ++ rest) = written past ++ written rest := List.filterMap_append

lemma written_singleton (x : Exchange) : written [x] = x.written?.toList := by
  cases h : x.written? <;> simp [written, h]

lemma mem_written_cons {x : Exchange} {rest : List Exchange} {key : ObjectKey} :
    key ∈ written (x :: rest) ↔ x.written? = some key ∨ key ∈ written rest := by
  rw [written, List.filterMap_cons]
  cases x.written? with
  | none => simp [written]
  | some other => simp [written, eq_comm]

namespace Pass

variable {σ α β : Type} {answer : (c : Call) → σ → c.Reply × σ} {p : Pass α} {q : α → Pass β}
  {s s' : σ} {exchanges : List Exchange}

/-! ### Traces -/

/-- After the exchanges of the first part come those of the second one, unless the first one
failed. -/
lemma trace_bind (p : Pass α) (q : α → Pass β) (s : σ) :
    (p >>= q).trace answer s = p.trace answer s ++
      match p.run answer s with
      | (.ok value, s) => (q value).trace answer s
      | (.error _, _) => [] := by
  induction p generalizing s with
  | done value => rfl
  | fail error => rfl
  | call c next ih => exact congrArg (_ :: ·) (ih _ _)

/-! ### Strict passes -/

/-- Every reply that refuses a call ends the pass with its error. -/
def Strict : Pass α → Prop
  | .done _ => True
  | .fail _ => True
  | .call c next => ∀ reply,
    (∀ error, c.error? reply = some error → next reply = .fail error) ∧ (next reply).Strict

lemma Strict.bind (hp : p.Strict) (hq : ∀ value, (q value).Strict) : (p >>= q).Strict := by
  induction p with
  | done value => exact hq value
  | fail error => trivial
  | call c next ih =>
    intro reply
    refine ⟨fun error herror => ?_, ih reply (hp reply).2⟩
    show (next reply).bind q = .fail error
    rw [(hp reply).1 error herror]
    rfl

/-- **Where a strict pass breaks off**: a refusal is its last exchange and gives its error. Without
the refusal it would have had the same exchanges before, and would go on with the same call from
the state that it leaves. -/
theorem Strict.interrupted (hquiet : ∀ c s, c.Refused (answer c s).1 → (answer c s).2 = s)
    (hp : p.Strict) {r : Except Error α} (h : p.Follows answer s exchanges r s') {x : Exchange}
    (hx : x ∈ exchanges) {error : Error} (herror : x.error? = some error) :
    r = .error error ∧ ∃ past next, exchanges = past ++ [x] ∧
      p.trace answer s = past ++ (Pass.call x.call next).trace answer s' ∧
      p.run answer s = (Pass.call x.call next).run answer s' := by
  -- On the exchanges: the first refusal is the last of them, so all before it were answers.
  induction h with
  | done | fail => exact absurd hx List.not_mem_nil
  | @answered c next s s' rest r h ih =>
    rcases List.mem_cons.1 hx with rfl | hx
    · rw [(hp _).1 error herror] at h
      obtain ⟨rfl, rfl, rfl⟩ := follows_fail_iff.1 h
      rw [hquiet c s (Call.refused_of_error herror)]
      exact ⟨rfl, [], next, rfl, rfl, rfl⟩
    · obtain ⟨hr, past, later, rfl, htrace, hrun⟩ := ih (hp _).2 hx
      exact ⟨hr, _ :: past, later, rfl, congrArg (_ :: ·) htrace, hrun⟩
  | @refused c next reply s s' rest r hreply h ih =>
    obtain ⟨refusal, hrefusal⟩ := hreply.exists_error
    rw [(hp reply).1 refusal hrefusal] at h
    obtain ⟨rfl, rfl, rfl⟩ := follows_fail_iff.1 h
    obtain rfl := List.mem_singleton.1 hx
    obtain rfl := Option.some.inj (hrefusal.symm.trans herror)
    exact ⟨rfl, [], next, rfl, rfl, rfl⟩

end Pass

/-! ### What is stored -/

namespace Stored

lemma answer_of_refused (c : Call) (s : Stored) (h : c.Refused (answer c s).1) :
    (answer c s).2 = s := by
  cases c with
  | create kind ns object =>
    rcases create_cases s.memory kind ns object with ⟨error, hcreate⟩ | ⟨-, hcreate⟩
    · rw [answer, Memory.answer, hcreate]
      rfl
    · rw [answer, Memory.answer, hcreate] at h
      obtain ⟨error, herror⟩ := h
      cases herror
  | patch kind id ops =>
    rcases patch_cases s.memory kind id ops with ⟨error, hpatch⟩ | ⟨_, _, _, -, -, -, -, hpatch⟩
    · rw [answer, Memory.answer, hpatch]
      rfl
    · rw [answer, Memory.answer, hpatch] at h
      obtain ⟨error, herror⟩ := h
      cases herror
  | get | awaitPods | isCancelled | emit => rfl

lemma lookup_answer {c : Call} {s : Stored} {key : ObjectKey}
    (h : c.written? (answer c s).1 ≠ some key) :
    lookup (answer c s).2.objects key = lookup s.objects key := by
  cases c with
  | create kind ns object =>
    rcases create_cases s.memory kind ns object with ⟨error, hcreate⟩ | ⟨-, hcreate⟩
    · rw [answer, Memory.answer, hcreate]
      rfl
    · rw [answer, Memory.answer, hcreate] at h ⊢
      exact lookup_store_of_ne (fun heq => h (congrArg some heq.symm)) _ _
  | patch kind id ops =>
    rcases patch_cases s.memory kind id ops with ⟨error, hpatch⟩ | ⟨_, _, _, -, -, -, -, hpatch⟩
    · rw [answer, Memory.answer, hpatch]
      rfl
    · rw [answer, Memory.answer, hpatch] at h ⊢
      exact lookup_store_of_ne (fun heq => h (congrArg some heq.symm)) _ _
  | get | awaitPods | isCancelled | emit => rfl

end Stored

namespace Pass

variable {α : Type} {p : Pass α} {exchanges : List Exchange} {r : Except Error α}

lemma Follows.lookup_eq {s s' : Stored} (h : p.Follows Stored.answer s exchanges r s')
    {key : ObjectKey} (hkey : key ∉ written exchanges) :
    lookup s'.objects key = lookup s.objects key := by
  induction h with
  | done | fail => rfl
  | answered _ ih =>
    rw [mem_written_cons, not_or] at hkey
    exact (ih hkey.2).trans (Stored.lookup_answer hkey.1)
  | refused _ _ ih =>
    rw [mem_written_cons, not_or] at hkey
    exact ih hkey.2

lemma trace_of_failureFree {m : Memory} (h : m.FailureFree) (p : Pass α) :
    p.trace Memory.answer m = p.trace Stored.answer m.stored := by
  induction p generalizing m with
  | done value => rfl
  | fail error => rfl
  | call c next ih =>
    obtain ⟨⟨hreply, hstored⟩, hthen⟩ := h.answer_stored c
    rw [trace, trace, ih _ hthen, hreply, hstored]

end Pass

end PgOperator
