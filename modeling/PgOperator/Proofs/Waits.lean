import Mathlib.Logic.Function.Iterate
import Mathlib.Tactic.Lemma
import PgOperator.Api.Client
import PgOperator.Api.Server

/-!
Why a wait for pods ends, and when.

A wait lists the pods, and between two lists it pauses. After each list it either stops, for one of
four reasons, or it goes on (`Surroundings.stops_or_goesOn`). So it stops after some number of
pauses, and the reason is there in the last list, in the clock after it, or in a cancellation of the
pause behind it (`Surroundings.await_eq_some_iff`). Where pauses take their time, the clock has
reached the deadline after as many of them as fit in before it (`Surroundings.exists_ends`).
-/

namespace PgOperator.Api

open Kube

/-! ### Running pods -/

def runningPods (pods : List Pod) : Nat := (pods.filter Pod.isRunning).length

lemma toInt_countRunning (pods : List Pod) :
    (Client.countRunning pods).toInt = min (runningPods pods : Int) Int32.maxValue.toInt := by
  have hmax : Int32.maxValue.toInt = 2 ^ 31 - 1 := Int32.toInt_maxValue
  refine Int32.toInt_ofInt_of_le ?_ ?_ <;> omega

lemma le_countRunning_iff {count : Int32} {pods : List Pod} :
    count ≤ Client.countRunning pods ↔ count.toInt ≤ runningPods pods := by
  have hcount := count.toInt_le
  rw [Int32.le_iff_toInt_le, toInt_countRunning]
  omega

lemma toInt_countRunning_of_lt {count : Int32} {pods : List Pod}
    (h : runningPods pods < count.toInt) : (Client.countRunning pods).toInt = runningPods pods := by
  have hcount := count.toInt_le
  rw [toInt_countRunning]
  omega

/-! ### One list -/

/-- What a wait for pods meets. It is told of no error but that of a call, and a pause is cut short
only by a cancellation. -/
structure Surroundings (σ : Type) where
  /-- Lists the pods. -/
  list : σ → Except Error (List Pod) × σ
  /-- The time, in any unit. -/
  clock : σ → Nat
  /-- Lets time pass; tells whether a cancellation came first. -/
  pause : σ → Bool × σ
  /-- Whether the wait has been cancelled. -/
  isCancelled : σ → Bool
  list_error : ∀ s error, (list s).1 = .error error → ∃ fault, error = .call fault
  isCancelled_pause : ∀ s, (pause s).1 = true → isCancelled (pause s).2 = true

namespace Surroundings

variable {σ : Type}

/-- The wait counts the pods of each list that run. -/
def polling (w : Surroundings σ) : Polling σ where
  look s := ((w.list s).1.map Client.countRunning, (w.list s).2)
  millis := w.clock
  pause := w.pause

/-- The wait with its deadline, for as many lists as are given at most. -/
def await (w : Surroundings σ) (ns selector : String) (count : Int32) (deadline looks : Nat)
    (s : σ) : Option (Except Error Unit × σ) :=
  w.polling.await count deadline (.readinessTimeout ns selector count) looks s

/-- The next list is made after a pause. -/
def next (w : Surroundings σ) (s : σ) : σ := (w.pause (w.list s).2).2

/-- The wait goes on after a list: too few pods run, there is time left, and the pause is not
cancelled. -/
structure GoesOn (w : Surroundings σ) (count : Int32) (deadline : Nat) (s : σ) : Prop where
  list : ∃ pods, (w.list s).1 = .ok pods ∧ runningPods pods < count.toInt
  clock : w.clock (w.list s).2 < deadline
  pause : (w.pause (w.list s).2).1 = false

/-- Why the wait stops after a list, with what, and where it has got to. -/
inductive Stops (w : Surroundings σ) (ns selector : String) (count : Int32) (deadline : Nat)
    (s : σ) : Except Error Unit → σ → Prop where
  /-- Enough pods run. -/
  | running {pods : List Pod} {after : σ} (list : w.list s = (.ok pods, after))
    (enough : count.toInt ≤ runningPods pods) : Stops w ns selector count deadline s (.ok ()) after
  /-- Too few pods run, and the deadline is over. -/
  | late {pods : List Pod} {after : σ} {number : Int32} (list : w.list s = (.ok pods, after))
    (few : runningPods pods < count.toInt) (number_eq : number.toInt = runningPods pods)
    (clock : deadline ≤ w.clock after) :
    Stops w ns selector count deadline s (.error (.readinessTimeout ns selector count number)) after
  /-- Too few pods run, and before the pause is over there has been a cancellation. -/
  | cancelled {pods : List Pod} {after ended : σ} (list : w.list s = (.ok pods, after))
    (few : runningPods pods < count.toInt) (clock : w.clock after < deadline)
    (pause : w.pause after = (true, ended)) (isCancelled : w.isCancelled ended = true) :
    Stops w ns selector count deadline s (.error .cancelled) ended
  /-- The pods cannot be listed. -/
  | failed {fault : CallError} {after : σ} (list : w.list s = (.error (.call fault), after)) :
    Stops w ns selector count deadline s (.error (.call fault)) after

variable {w : Surroundings σ} {ns selector : String} {count : Int32} {deadline looks : Nat} {s : σ}
  {result : Except Error Unit} {ended : σ}

lemma stops_or_goesOn (w : Surroundings σ) (ns selector : String) (count : Int32) (deadline : Nat)
    (s : σ) :
    (∃ result ended, w.Stops ns selector count deadline s result ended) ∨
      w.GoesOn count deadline s := by
  have herror := w.list_error s
  have hcancelled := w.isCancelled_pause (w.list s).2
  -- In the order of the loop: the call, the count, the deadline, the pause.
  cases hlist : w.list s with
  | mk reply after =>
    rw [hlist] at herror hcancelled
    cases reply with
    | error error =>
      obtain ⟨fault, rfl⟩ := herror error rfl
      exact .inl ⟨_, _, .failed hlist⟩
    | ok pods =>
      by_cases henough : count.toInt ≤ runningPods pods
      · exact .inl ⟨_, _, .running hlist henough⟩
      have hfew : runningPods pods < count.toInt := Int.not_le.1 henough
      by_cases hlate : deadline ≤ w.clock after
      · exact .inl ⟨_, _, .late hlist hfew (toInt_countRunning_of_lt hfew) hlate⟩
      have hclock : w.clock after < deadline := Nat.not_le.1 hlate
      cases hpause : w.pause after with
      | mk cut ended =>
        rw [hpause] at hcancelled
        cases cut with
        | true => exact .inl ⟨_, _, .cancelled hlist hfew hclock hpause (hcancelled rfl)⟩
        | false =>
          refine .inr ⟨⟨pods, by rw [hlist], hfew⟩, ?_, ?_⟩
          · rw [hlist]
            exact hclock
          · rw [hlist]
            exact congrArg Prod.fst hpause

lemma look_polling {pods : List Pod} {after : σ} (h : w.list s = (.ok pods, after)) :
    w.polling.look s = (.ok (Client.countRunning pods), after) := by
  simp only [polling, h, Except.map]

lemma Stops.await_succ (h : w.Stops ns selector count deadline s result ended) (looks : Nat) :
    w.await ns selector count deadline (looks + 1) s = some (result, ended) := by
  rw [await, Polling.await]
  cases h with
  | running list enough => simp only [look_polling list, if_pos (le_countRunning_iff.2 enough)]
  | @late pods after number list few number_eq clock =>
    have hfew := mt le_countRunning_iff.1 (Int.not_le.2 few)
    have hlate : deadline ≤ w.polling.millis ended := clock
    obtain rfl : number = Client.countRunning pods :=
      Int32.toInt_inj.1 (number_eq.trans (toInt_countRunning_of_lt few).symm)
    simp only [look_polling list, if_neg hfew, if_pos hlate]
  | @cancelled pods after ended list few clock pause isCancelled =>
    have hfew := mt le_countRunning_iff.1 (Int.not_le.2 few)
    have hlate : ¬ deadline ≤ w.polling.millis after := Nat.not_le.2 clock
    have hpause : w.polling.pause after = (true, ended) := pause
    simp only [look_polling list, if_neg hfew, if_neg hlate, hpause]
  | failed list => simp only [polling, list, Except.map]

lemma GoesOn.await_succ (h : w.GoesOn count deadline s) (looks : Nat) :
    w.await ns selector count deadline (looks + 1) s =
      w.await ns selector count deadline looks (w.next s) := by
  obtain ⟨⟨pods, hpods, hfew⟩, hclock, hpause⟩ := h
  have hfew := mt le_countRunning_iff.1 (Int.not_le.2 hfew)
  have hlate : ¬ deadline ≤ w.polling.millis (w.list s).2 := Nat.not_le.2 hclock
  have hpause : w.polling.pause (w.list s).2 = (false, w.next s) := Prod.ext hpause rfl
  rw [await, Polling.await]
  simp only [look_polling (Prod.ext hpods rfl), if_neg hfew, if_neg hlate, hpause]
  rfl

/-! ### A run of lists -/

/-- The wait stops after some pauses: it goes on after each list but the last one. -/
structure Ends (w : Surroundings σ) (ns selector : String) (count : Int32) (deadline pauses : Nat)
    (s : σ) (result : Except Error Unit) (ended : σ) : Prop where
  goesOn : ∀ n < pauses, w.GoesOn count deadline (w.next^[n] s)
  stops : w.Stops ns selector count deadline (w.next^[pauses] s) result ended

variable {pauses : Nat}

/-- As long as the wait goes on, what is left of it is a wait for fewer lists. -/
lemma await_add (h : ∀ n < pauses, w.GoesOn count deadline (w.next^[n] s)) (looks : Nat) :
    w.await ns selector count deadline (looks + pauses) s =
      w.await ns selector count deadline looks (w.next^[pauses] s) := by
  induction pauses generalizing looks with
  | zero => rfl
  | succ pauses ih =>
    have hearlier : ∀ n < pauses, w.GoesOn count deadline (w.next^[n] s) := fun n hn =>
      h n (Nat.lt_succ_of_lt hn)
    rw [Function.iterate_succ_apply', ← (h pauses (Nat.lt_succ_self _)).await_succ,
      ← ih hearlier, Nat.add_right_comm, Nat.add_assoc]

lemma Ends.await_eq (h : w.Ends ns selector count deadline pauses s result ended)
    (hpauses : pauses < looks) :
    w.await ns selector count deadline looks s = some (result, ended) := by
  obtain ⟨rest, rfl⟩ := Nat.exists_eq_add_of_lt hpauses
  rw [Nat.add_assoc, Nat.add_comm, await_add h.goesOn, h.stops.await_succ]

lemma goesOn_or_ends (w : Surroundings σ) (ns selector : String) (count : Int32)
    (deadline looks : Nat) (s : σ) :
    (∀ n < looks, w.GoesOn count deadline (w.next^[n] s)) ∨
      ∃ pauses < looks, ∃ result ended,
        w.Ends ns selector count deadline pauses s result ended := by
  -- On the lists: the wait has ended within the first ones, or the next one decides.
  induction looks with
  | zero => exact .inl fun n hn => absurd hn (Nat.not_lt_zero n)
  | succ looks ih =>
    rcases ih with hgoesOn | ⟨pauses, hlt, hends⟩
    · rcases w.stops_or_goesOn ns selector count deadline (w.next^[looks] s) with
        ⟨result, ended, hstops⟩ | hlast
      · exact .inr ⟨looks, Nat.lt_succ_self _, result, ended, hgoesOn, hstops⟩
      · refine .inl fun n hn => ?_
        rcases Nat.lt_succ_iff_lt_or_eq.1 hn with hn | rfl
        · exact hgoesOn n hn
        · exact hlast
    · exact .inr ⟨pauses, Nat.lt_succ_of_lt hlt, hends⟩

/-- **A wait stops for a reason**: the result that comes out within some lists is the one for which
there is a reason after one of them. -/
theorem await_eq_some_iff : w.await ns selector count deadline looks s = some (result, ended) ↔
    ∃ pauses < looks, w.Ends ns selector count deadline pauses s result ended := by
  constructor
  · intro h
    rcases w.goesOn_or_ends ns selector count deadline looks s with
      hgoesOn | ⟨pauses, hlt, result', ended', hends⟩
    · have hnone : w.await ns selector count deadline (0 + looks) s = none := await_add hgoesOn 0
      rw [Nat.zero_add, h] at hnone
      exact absurd hnone nofun
    · rw [hends.await_eq hlt] at h
      obtain ⟨rfl, rfl⟩ := Prod.mk.inj (Option.some.inj h)
      exact ⟨pauses, hlt, hends⟩
  · rintro ⟨pauses, hlt, hends⟩
    exact hends.await_eq hlt

/-- From some state on the clock does not go back while the pods are listed, and a pause that is not
cancelled takes the interval. -/
def Paced (w : Surroundings σ) (interval : Nat) (s : σ) : Prop :=
  ∀ n, w.clock (w.next^[n] s) ≤ w.clock (w.list (w.next^[n] s)).2 ∧
    ((w.pause (w.list (w.next^[n] s)).2).1 = false →
      w.clock (w.list (w.next^[n] s)).2 + interval ≤ w.clock (w.next^[n + 1] s))

variable {interval : Nat}

lemma Paced.le_clock (h : w.Paced interval s)
    (hgoesOn : ∀ n < pauses, w.GoesOn count deadline (w.next^[n] s)) :
    w.clock s + pauses * interval ≤ w.clock (w.next^[pauses] s) := by
  induction pauses with
  | zero => simp
  | succ pauses ih =>
    have hearlier := ih fun n hn => hgoesOn n (Nat.lt_succ_of_lt hn)
    obtain ⟨hlist, hpause⟩ := h pauses
    have hpaused := hpause (hgoesOn pauses (Nat.lt_succ_self _)).pause
    rw [Nat.succ_mul]
    omega

/-- **A wait stops in time**, if its pauses take theirs: after as many pauses as it takes to cover
the timeout at the latest. -/
theorem exists_ends (hinterval : 0 < interval) (h : w.Paced interval s) (ns selector : String)
    (count : Int32) (timeout : Nat) :
    ∃ pauses ≤ (timeout + (interval - 1)) / interval, ∃ result ended,
      w.Ends ns selector count (w.clock s + timeout) pauses s result ended := by
  generalize hmost : (timeout + (interval - 1)) / interval = most
  rcases w.goesOn_or_ends ns selector count (w.clock s + timeout) (most + 1) s with
    hgoesOn | ⟨pauses, hlt, hends⟩
  · -- The clock cannot be before the deadline after so many pauses.
    have hcovered : timeout ≤ most * interval := by
      have hdiv := Nat.lt_div_mul_add (a := timeout + (interval - 1)) hinterval
      rw [hmost] at hdiv
      omega
    have hclock := h.le_clock fun n hn => hgoesOn n (Nat.lt_succ_of_lt hn)
    have hlist := (h most).1
    have hbefore := (hgoesOn most (Nat.lt_succ_self _)).clock
    omega
  · exact ⟨pauses, Nat.lt_succ_iff.1 hlt, hends⟩

end Surroundings

/-! ### The wait of a client -/

variable {σ : Type}

/-- A pause is cut short only by a cancellation. -/
def Transport.TellsCancellation (t : Transport σ) : Prop :=
  ∀ ms s, (t.pause ms s).1 = true → t.isCancelled (t.pause ms s).2 = true

lemma Server.tellsCancellation : Server.transport.TellsCancellation := by
  intro ms server h
  have h : (Server.pause ms server).1 = true := h
  show (Server.pause ms server).2.cancelled = true
  unfold Server.pause at h ⊢
  by_cases hcancelled : server.cancelled = true
  · simp [hcancelled]
  · cases hdue : server.cancelAt with
    | none => simp [hcancelled, hdue] at h
    | some time =>
      by_cases htime : time ≤ server.millis + ms
      · simp [hcancelled, htime]
      · simp [hcancelled, hdue, htime] at h

lemma Response.read_error {α : Type} {reader : Json.Reader α} {response : Response} {error : Error}
    (h : response.read reader = .error error) : ∃ fault, error = .call fault := by
  unfold Response.read at h
  split at h
  · exact ⟨_, (Except.error.inj h).symm⟩
  · split at h
    · cases h
    · exact ⟨_, (Except.error.inj h).symm⟩

namespace Client

def listPods (t : Transport σ) (ns selector : String) : σ → Except Error (List Pod) × σ :=
  ask t (Request.make .get (.pods ns) (some [("labelSelector", selector)]) none)
    (·.read (readListed Pod))

lemma listPods_error (t : Transport σ) (ns selector : String) (s : σ) (error : Error)
    (h : (listPods t ns selector s).1 = .error error) : ∃ fault, error = .call fault := by
  unfold listPods ask at h
  split at h
  · exact ⟨_, (Except.error.inj h).symm⟩
  · exact Response.read_error h

lemma lookAtPods_eq (t : Transport σ) (ns selector : String) (s : σ) :
    lookAtPods t ns selector s =
      ((listPods t ns selector s).1.map countRunning, (listPods t ns selector s).2) := by
  unfold lookAtPods listPods
  cases Request.make .get (.pods ns) (some [("labelSelector", selector)]) none <;> rfl

/-- What a client meets in a wait. -/
def surroundings (options : Options) (t : Transport σ) (ns selector : String)
    (h : t.TellsCancellation) : Surroundings σ where
  list := listPods t ns selector
  clock := t.millis
  pause := t.pause (pollInterval options)
  isCancelled := t.isCancelled
  list_error := listPods_error t ns selector
  isCancelled_pause := h _

lemma polling_surroundings (options : Options) (t : Transport σ) (ns selector : String)
    (h : t.TellsCancellation) :
    (surroundings options t ns selector h).polling = polling options t ns selector := by
  have hlook : (surroundings options t ns selector h).polling.look = lookAtPods t ns selector :=
    funext fun s => (lookAtPods_eq t ns selector s).symm
  exact congrArg (fun look => (⟨look, t.millis, t.pause (pollInterval options)⟩ : Polling σ)) hlook

lemma await_awaitPods (options : Options) (t : Transport σ) (ns : String)
    (selector : Dict String) (count : Int32) (timeout : Nat) (s : σ) :
    (polling options t ns (Selector.text selector)).await count
      (t.millis s + 1000 * timeout) (.readinessTimeout ns (Selector.text selector) count)
      (pauses options (1000 * timeout) + 1) s =
      some (awaitPods options t ns selector count timeout s) :=
  (Option.some_get _).symm

end Client

/-- **A wait for pods stops for the right reason, and in time**, whatever it meets. What comes out
is what there is a reason for after some pauses. If pauses take their time, there is a reason after
as many of them as it takes to cover the timeout, at the latest. A client waits in this way, its
timeout counted in seconds and its clock in milliseconds. -/
theorem awaitPods_stops (ns : String) (selector : Dict String) (count : Int32) (timeout : Nat)
    (s : σ) :
    (∀ (w : Surroundings σ) (looks : Nat) (result : Except Error Unit) (ended : σ),
      w.await ns (Selector.text selector) count (w.clock s + timeout) looks s =
          some (result, ended) ↔
        ∃ pauses < looks,
          w.Ends ns (Selector.text selector) count (w.clock s + timeout) pauses s result ended) ∧
    (∀ (w : Surroundings σ) (interval : Nat), 0 < interval → w.Paced interval s →
      ∃ pauses ≤ (timeout + (interval - 1)) / interval, ∃ result ended,
        w.Ends ns (Selector.text selector) count (w.clock s + timeout) pauses s result ended) ∧
    ∀ (t : Transport σ) (h : t.TellsCancellation) (options : Options),
      ∃ pauses ≤ Client.pauses options (1000 * timeout),
        (Client.surroundings options t ns (Selector.text selector) h).Ends ns
          (Selector.text selector) count (t.millis s + 1000 * timeout) pauses s
          (Client.awaitPods options t ns selector count timeout s).1
          (Client.awaitPods options t ns selector count timeout s).2 := by
  refine ⟨fun w looks result ended => Surroundings.await_eq_some_iff,
    fun w interval hinterval hpaced => w.exists_ends hinterval hpaced _ _ _ _,
    fun t h options => ?_⟩
  have hwaited := Client.await_awaitPods options t ns selector count timeout s
  rw [← Client.polling_surroundings options t ns _ h] at hwaited
  obtain ⟨pauses, hlt, hends⟩ := Surroundings.await_eq_some_iff.1 hwaited
  exact ⟨pauses, Nat.lt_succ_iff.1 hlt, hends⟩

/-- A wait in which two of three pods run and no more, with pauses of two units. -/
def stuck : Surroundings Nat where
  list n :=
    let running : Pod := { status := some { phase := some "Running" } }
    (.ok [running, { status := some { phase := some "Pending" } }, running], n)
  clock n := 2 * n
  pause n := (false, n + 1)
  isCancelled _ := false
  list_error _ _ := nofun
  isCancelled_pause _ := nofun

lemma iterate_next_stuck (n : Nat) : stuck.next^[n] 0 = n := by
  induction n with
  | zero => rfl
  | succ n ih =>
    rw [Function.iterate_succ_apply', ih]
    rfl

lemma paced_stuck : stuck.Paced 2 0 := by
  intro n
  rw [iterate_next_stuck, iterate_next_stuck]
  exact ⟨Nat.le_refl _, fun _ => Nat.le_refl _⟩

/-- Three pauses cover a timeout of five units, and the wait makes use of all of them. A client that
looks at the pods every two seconds pauses twice at most in a wait of three seconds. -/
theorem awaitPods_stops_stuck :
    0 < 2 ∧ stuck.Paced 2 0 ∧
      (∃ pauses ≤ 3, ∃ result ended, stuck.Ends "demo" "" 3 5 pauses 0 result ended) ∧
      stuck.await "demo" "" 3 5 3 0 = none ∧
      (∃ pauses < 4,
        stuck.Ends "demo" "" 3 5 pauses 0 (.error (.readinessTimeout "demo" "" 3 2)) 3) ∧
      ∃ pauses ≤ 2,
        (Client.surroundings {} Server.transport "demo" "" Server.tellsCancellation).Ends "demo" ""
          1 3000 pauses {} (Client.awaitPods {} Server.transport "demo" .empty 1 3 {}).1
          (Client.awaitPods {} Server.transport "demo" .empty 1 3 {}).2 := by
  obtain ⟨hreason, htime, -⟩ := awaitPods_stops (σ := Nat) "demo" .empty 3 5 0
  obtain ⟨-, -, hclient⟩ := awaitPods_stops (σ := Server) "demo" .empty 1 3 {}
  exact ⟨by decide, paced_stuck, htime stuck 2 (by decide) paced_stuck, rfl,
    (hreason stuck 4 _ _).1 rfl, hclient Server.transport Server.tellsCancellation {}⟩

end PgOperator.Api
