import Mathlib.Tactic.Lemma
import PgOperator.Proofs.Closure
import PgOperator.Proofs.Report
import PgOperator.Proofs.Waits

/-!
What a pass says on the side: events and the report of how it went.

No answer to an aside is looked at. So a pass cannot tell two servers apart that answer everything
else alike: it sends both the same requests and ends the same way, whatever each of them makes of
events and reports. That is one relation between the two states, kept by every step of a pass
(`Api.Alike`), and it is used three times: between two servers, between a server and one whose
requests are written down, and between such a server and itself, where it says that nothing but
progress has been told so far. From the last one follows what stands at the end of every pass that
can address its instance: a warning if it failed, and then its report (`Controller.Told`).
-/

namespace PgOperator

/-- Whether a call records an event that tells of trouble. -/
def Call.warns : Call → Bool
  | .emit _ notice => notice.type = .warning
  | _ => false

namespace Api

/-! ### Asides -/

namespace Request

/-- Whether a request creates an event or reports a status. -/
def isAside (r : Request) : Bool :=
  match r.method, r.resource with
  | .post, .events _ => true
  | .patch, .status _ => true
  | _, _ => false

/-- The type of the event that a request creates. -/
def eventType? (r : Request) : Option Json :=
  match r.method, r.resource, r.body with
  | .post, .events _, some (.object doc) => doc.get? "type"
  | _, _, _ => none

def Tells (type : EventType) (r : Request) : Prop := r.eventType? = some (.str type.text)

instance (type : EventType) (r : Request) : Decidable (r.Tells type) :=
  inferInstanceAs (Decidable (_ = _))

def isReport (r : Request) : Bool :=
  match r.method, r.resource with
  | .patch, .status _ => true
  | _, _ => false

def phase? (r : Request) : Option Json :=
  match r.method, r.resource, r.body with
  | .patch, .status _, some (.merge doc) => (doc.get? "status").bind (·.get? "phase")
  | _, _, _ => none

/-- A request neither warns nor reports. -/
def Quiet (r : Request) : Prop := ¬ r.Tells .warning ∧ r.isReport = false

instance (r : Request) : Decidable r.Quiet := inferInstanceAs (Decidable (_ ∧ _))

variable {r : Request} {method : Method} {resource : Resource}
  {query : Option (List (String × String))} {body : Option Body}

lemma make_eq_ok (h : make method resource query body = .ok r) :
    r.method = method ∧ r.resource = resource ∧ r.body = body := by
  simp only [make] at h
  split at h
  · obtain rfl := Except.ok.inj h
    exact ⟨rfl, rfl, rfl⟩
  · cases h

lemma make_of_address {uri : Uri} (method : Method)
    (h : Uri.ofText (resource.path ++ Uri.queryText []) = .ok uri) (body : Option Body) :
    make method resource (some []) body = .ok ⟨method, resource, uri, body⟩ := by
  simp only [make, h]

lemma of_checked {check : Except RequestFault Unit} {request : Except RequestFault Request}
    (h : (check >>= fun _ => request) = .ok r) : request = .ok r := by
  cases check with
  | error fault => cases h
  | ok => exact h

lemma Tells.to_events {type : EventType} (h : r.Tells type) :
    r.method = .post ∧ ∃ ns, r.resource = .events ns := by
  unfold Tells eventType? at h
  split at h
  · exact ⟨‹_›, _, ‹_›⟩
  · exact absurd h nofun

lemma Tells.isAside {type : EventType} (h : r.Tells type) : r.isAside = true := by
  obtain ⟨hmethod, ns, hresource⟩ := h.to_events
  rw [Request.isAside, hmethod, hresource]

lemma quiet_of_progress (h : r.Tells .normal) : r.Quiet := by
  obtain ⟨hmethod, ns, hresource⟩ := h.to_events
  refine ⟨fun hwarning => ?_, by rw [isReport, hmethod, hresource]⟩
  exact absurd (h.symm.trans hwarning) (by decide)

lemma isAside_of_isReport (h : r.isReport = true) : r.isAside = true := by
  unfold isReport at h
  split at h
  · rw [isAside, ‹r.method = _›, ‹r.resource = _›]
  · exact absurd h nofun

lemma quiet_of_plain (h : r.isAside = false) : r.Quiet := by
  refine ⟨fun hwarning => ?_, Bool.eq_false_iff.2 fun hreport => ?_⟩
  · exact Bool.false_ne_true (h.symm.trans hwarning.isAside)
  · exact Bool.false_ne_true (h.symm.trans (isAside_of_isReport hreport))

lemma tells_of_make {notice : Notice} {db : Postgres} {component now ns : String}
    (h : make .post (.events ns) query (Body.object (notice.document db component now)) = .ok r) :
    r.Tells notice.type := by
  obtain ⟨hmethod, hresource, hbody⟩ := make_eq_ok h
  rw [Tells, eventType?, hmethod, hresource, hbody]
  exact Sorted.get?_ofList (by simp) _

end Request

/-! ### Servers that only asides tell apart -/

section Alike

variable {σ σ₁ σ₂ α : Type}

/-- The same comes out, in related states. -/
def Agree (R : σ₁ → σ₂ → Prop) (x : α × σ₁) (y : α × σ₂) : Prop := x.1 = y.1 ∧ R x.2 y.2

lemma Agree.exists_eq {R : σ₁ → σ₂ → Prop} {x : α × σ₁} {y : α × σ₂} (h : Agree R x y) :
    ∃ result a b, x = (result, a) ∧ y = (result, b) ∧ R a b :=
  ⟨x.1, x.2, y.2, rfl, Prod.ext h.1.symm rfl, h.2⟩

/-- In related states the two ways show the same time and get the same answers to all requests but
asides. Neither these nor those asides that are sent lead out of the relation. -/
structure Alike (aside : Request → Prop) (t₁ : Transport σ₁) (t₂ : Transport σ₂)
    (R : σ₁ → σ₂ → Prop) : Prop where
  now {a b} (hs : R a b) : t₁.now a = t₂.now b
  millis {a b} (hs : R a b) : t₁.millis a = t₂.millis b
  isCancelled {a b} (hs : R a b) : t₁.isCancelled a = t₂.isCancelled b
  pause {a b} (hs : R a b) (ms : Nat) : Agree R (t₁.pause ms a) (t₂.pause ms b)
  plain {a b} (hs : R a b) {r} (hr : r.isAside = false) : Agree R (t₁.send r a) (t₂.send r b)
  told {a b} (hs : R a b) {r} (hr : aside r) : R (t₁.send r a).2 (t₂.send r b).2

lemma Alike.mono {aside aside' : Request → Prop} {t₁ : Transport σ₁} {t₂ : Transport σ₂}
    {R : σ₁ → σ₂ → Prop} (h : Alike aside t₁ t₂ R) (hle : ∀ r, aside' r → aside r) :
    Alike aside' t₁ t₂ R :=
  { h with told := fun {_ _} hs {r} hr => h.told hs (hle r hr) }

lemma Polling.agree_await (p₁ : Polling σ₁) (p₂ : Polling σ₂) {R : σ₁ → σ₂ → Prop}
    (hlook : ∀ {a b}, R a b → Agree R (p₁.look a) (p₂.look b))
    (hmillis : ∀ {a b}, R a b → p₁.millis a = p₂.millis b)
    (hpause : ∀ {a b}, R a b → Agree R (p₁.pause a) (p₂.pause b))
    {count : Int32} {deadline : Nat} {late : Int32 → Error} {looks : Nat} {a : σ₁} {b : σ₂}
    (hs : R a b) {x : Except Error Unit × σ₁} (h : p₁.await count deadline late looks a = some x) :
    ∃ y, p₂.await count deadline late looks b = some y ∧ Agree R x y := by
  -- On the looks that are left: after each one both waits have the same count and the same time.
  induction looks generalizing a b with
  | zero => exact absurd h nofun
  | succ looks ih =>
    obtain ⟨result, a', b', hp, hq, hlooked⟩ := (hlook hs).exists_eq
    unfold await at h ⊢
    rw [hp] at h
    rw [hq]
    cases result with
    | error error =>
      obtain rfl := Option.some.inj h
      exact ⟨_, rfl, rfl, hlooked⟩
    | ok running =>
      simp only at h ⊢
      rw [← hmillis hlooked]
      split at h
      · rw [if_pos ‹_›]
        obtain rfl := Option.some.inj h
        exact ⟨_, rfl, rfl, hlooked⟩
      rw [if_neg ‹_›]
      split at h
      · rw [if_pos ‹_›]
        obtain rfl := Option.some.inj h
        exact ⟨_, rfl, rfl, hlooked⟩
      rw [if_neg ‹_›]
      obtain ⟨ended, a'', b'', hp, hq, hpaused⟩ := (hpause hlooked).exists_eq
      rw [hp] at h
      rw [hq]
      cases ended with
      | true =>
        obtain rfl := Option.some.inj h
        exact ⟨_, rfl, rfl, hpaused⟩
      | false => exact ih hpaused h

namespace Alike

variable {aside : Request → Prop} {t₁ : Transport σ₁} {t₂ : Transport σ₂} {R : σ₁ → σ₂ → Prop}
  {a : σ₁} {b : σ₂} {request : Except RequestFault Request} {read : Response → Except Error α}

/-! ### One request -/

lemma agree_ask (h : Alike aside t₁ t₂ R) (hs : R a b)
    (hplain : ∀ r, request = .ok r → r.isAside = false) :
    Agree R (Client.ask t₁ request read a) (Client.ask t₂ request read b) := by
  cases request with
  | error fault => exact ⟨rfl, hs⟩
  | ok r =>
    obtain ⟨hresponse, hsent⟩ := h.plain hs (hplain r rfl)
    exact ⟨congrArg read hresponse, hsent⟩

lemma ask_aside (h : Alike aside t₁ t₂ R) (hs : R a b)
    (haside : ∀ r, request = .ok r → aside r) :
    R (Client.ask t₁ request read a).2 (Client.ask t₂ request read b).2 := by
  cases request with
  | error fault => exact hs
  | ok r => exact h.told hs (haside r rfl)

/-! ### One call -/

lemma agree_find (h : Alike aside t₁ t₂ R) (hs : R a b) (α : Type) [Record α] (resource : Resource)
    (name : String) :
    Agree R (Client.find α t₁ resource name a) (Client.find α t₂ resource name b) := by
  refine h.agree_ask hs fun r hr => ?_
  obtain ⟨hmethod, -, -⟩ := Request.make_eq_ok (Request.of_checked hr)
  rw [Request.isAside, hmethod]

lemma agree_create (h : Alike aside t₁ t₂ R) (hs : R a b) (options : Options) (kind : Kind)
    (ns : String) (object : kind.Object) :
    Agree R (Client.create options t₁ kind ns object a)
      (Client.create options t₂ kind ns object b) := by
  refine h.agree_ask hs fun r hr => ?_
  obtain ⟨hmethod, hresource, -⟩ := Request.make_eq_ok (Request.of_checked hr)
  rw [Request.isAside, hmethod, hresource]

lemma agree_patch (h : Alike aside t₁ t₂ R) (hs : R a b) (options : Options) (kind : Kind)
    (id : ObjectId) (ops : Json.Patch) :
    Agree R (Client.patch options t₁ kind id ops a) (Client.patch options t₂ kind id ops b) := by
  refine h.agree_ask hs fun r hr => ?_
  obtain ⟨hmethod, hresource, -⟩ :=
    Request.make_eq_ok (Request.of_checked (Request.of_checked hr))
  rw [Request.isAside, hmethod, hresource]

lemma agree_lookAtPods (h : Alike aside t₁ t₂ R) (hs : R a b) (ns selector : String) :
    Agree R (Client.lookAtPods t₁ ns selector a) (Client.lookAtPods t₂ ns selector b) := by
  refine h.agree_ask hs fun r hr => ?_
  obtain ⟨hmethod, -, -⟩ := Request.make_eq_ok hr
  rw [Request.isAside, hmethod]

lemma agree_awaitPods (h : Alike aside t₁ t₂ R) (hs : R a b) (options : Options) (ns : String)
    (selector : Dict String) (count : Int32) (timeout : Nat) :
    Agree R (Client.awaitPods options t₁ ns selector count timeout a)
      (Client.awaitPods options t₂ ns selector count timeout b) := by
  have hfirst := Client.await_awaitPods options t₁ ns selector count timeout a
  rw [h.millis hs] at hfirst
  obtain ⟨y, hy, hagree⟩ := Polling.agree_await
    (Client.polling options t₁ ns (Selector.text selector))
    (Client.polling options t₂ ns (Selector.text selector))
    (fun hs => h.agree_lookAtPods hs _ _) h.millis (fun hs => h.pause hs _) hs hfirst
  have hsecond := Client.await_awaitPods options t₂ ns selector count timeout b
  obtain rfl := Option.some.inj (hy.symm.trans hsecond)
  exact hagree

lemma emit (h : Alike aside t₁ t₂ R) (hs : R a b) (options : Options) (db : Postgres)
    (notice : Notice) (haside : ∀ r, r.Tells notice.type → aside r) :
    R (Client.emit options t₁ db notice a) (Client.emit options t₂ db notice b) := by
  unfold Client.emit
  rw [h.now hs]
  exact h.ask_aside hs fun r hr => haside r (Request.tells_of_make hr)

lemma agree_answer (h : Alike (·.Tells .normal) t₁ t₂ R) (hs : R a b) (options : Options)
    {c : Call} (hc : c.warns = false) :
    Agree R (Client.answer options t₁ c a) (Client.answer options t₂ c b) := by
  cases c with
  | get kind id => exact h.agree_find hs _ _ _
  | create kind ns object => exact h.agree_create hs options kind ns object
  | patch kind id ops => exact h.agree_patch hs options kind id ops
  | awaitPods ns selector count timeout =>
    exact h.agree_awaitPods hs options ns selector count timeout
  | isCancelled => exact ⟨h.isCancelled hs, hs⟩
  | emit db notice =>
    refine ⟨rfl, h.emit hs options db notice fun r hr => ?_⟩
    have htype : notice.type = .normal := by
      cases htype : notice.type with
      | normal => rfl
      | warning => exact absurd (by rw [Call.warns, htype]; rfl) (Bool.eq_false_iff.1 hc)
    exact htype ▸ hr

end Alike

end Alike

end Api

/-! ### Passes that do not warn -/

namespace Pass

open Api

variable {α β : Type} {p : Pass α} {q : α → Pass β}

/-- Whatever is answered, no call of the pass warns. -/
def Calm : Pass α → Prop
  | .done _ => True
  | .fail _ => True
  | .call c next => c.warns = false ∧ ∀ reply, (next reply).Calm

lemma calm_ofExcept (result : Except Error α) : (ofExcept result).Calm := by
  cases result <;> trivial

lemma Calm.bind (hp : p.Calm) (hq : ∀ value, (q value).Calm) : (p >>= q).Calm := by
  induction p with
  | done value => exact hq value
  | fail error => trivial
  | call c next ih => exact ⟨hp.1, fun reply => ih reply (hp.2 reply)⟩

lemma calm_announce (db : Postgres) (what : String) (outcome : Outcome) :
    (announce db what outcome).Calm := by
  unfold announce
  split
  · exact ⟨rfl, fun _ => trivial⟩
  · trivial

lemma closed_calm : Closed Calm where
  of_pure _ := trivial
  bind := Calm.bind
  looked := ⟨rfl, fun cancelled => by cases cancelled <;> trivial⟩
  told := calm_announce

lemma calm_createOrPatch (kind : Kind) (id : ObjectId) (change : kind.Object → kind.Object) :
    (createOrPatch kind id change).Calm :=
  closed_calm.createOrPatch ⟨rfl, calm_ofExcept⟩ (fun _ => ⟨rfl, calm_ofExcept⟩)
    fun _ => ⟨rfl, calm_ofExcept⟩

lemma calm_checkStatefulSet (db : Postgres) : (checkStatefulSet db).Calm := by
  refine Calm.bind (p := get .statefulSet _) ⟨rfl, calm_ofExcept⟩ fun found => ?_
  cases found with
  | none => trivial
  | some set => by_cases h : ownsStatefulSet db set <;> simp [h, Calm, pure]

lemma calm_reconcile (db : Postgres) (version : PostgresVersion) (options : Options) :
    (reconcile db version options).Calm :=
  closed_calm.reconcile (fun id _ _ => calm_createOrPatch .service id _)
    (calm_checkStatefulSet db) (calm_createOrPatch _ _ _) (fun _ => ⟨rfl, calm_ofExcept⟩)
    fun id _ => calm_createOrPatch _ id _

end Pass

namespace Api.Alike

variable {σ₁ σ₂ α : Type} {t₁ : Transport σ₁} {t₂ : Transport σ₂} {R : σ₁ → σ₂ → Prop}
  {a : σ₁} {b : σ₂}

/-- A pass that does not warn cannot tell the two servers apart. -/
lemma agree_run (h : Alike (·.Tells .normal) t₁ t₂ R) (hs : R a b) (options : Options) {p : Pass α}
    (hp : p.Calm) :
    Agree R (p.run (Client.answer options t₁) a) (p.run (Client.answer options t₂) b) := by
  induction p generalizing a b with
  | done value => exact ⟨rfl, hs⟩
  | fail error => exact ⟨rfl, hs⟩
  | call c next ih =>
    obtain ⟨hreply, hanswered⟩ := h.agree_answer hs options hp.1
    rw [Pass.run_call, Pass.run_call, ← hreply]
    exact ih _ hanswered (hp.2 _)

lemma agree_findVersion {aside : Request → Prop} (h : Alike aside t₁ t₂ R) (hs : R a b)
    (name : String) :
    Agree R (Controller.findVersion t₁ name a) (Controller.findVersion t₂ name b) := by
  obtain ⟨found, a', b', hp, hq, hasked⟩ :=
    (h.agree_find hs PostgresVersion (.version name) name).exists_eq
  rw [Controller.findVersion, Controller.findVersion, hp, hq]
  match found with
  | .ok (some version) => exact ⟨rfl, hasked⟩
  | .ok none => exact ⟨rfl, hasked⟩
  | .error error => exact ⟨rfl, hasked⟩

lemma agree_reconcile (h : Alike (·.Tells .normal) t₁ t₂ R) (hs : R a b) (options : Options)
    (db : Postgres) :
    Agree R (Controller.reconcile options t₁ db a) (Controller.reconcile options t₂ db b) := by
  obtain ⟨found, a', b', hp, hq, hasked⟩ := (h.agree_findVersion hs db.spec.version).exists_eq
  rw [Controller.reconcile, Controller.reconcile, hp, hq]
  match found with
  | .ok version => exact h.agree_run hasked options (Pass.calm_reconcile db version options)
  | .error error => exact ⟨rfl, hasked⟩

lemma announceFailure (h : Alike (·.isAside) t₁ t₂ R) (hs : R a b) (options : Options)
    (db : Postgres) (result : Except Error Outcome) :
    R (Controller.announceFailure options t₁ db result a)
      (Controller.announceFailure options t₂ db result b) :=
  match result with
  | .ok _ => hs
  | .error _ => h.emit hs options db _ fun _ hr => hr.isAside

lemma writeStatus (h : Alike (·.isAside) t₁ t₂ R) (hs : R a b) (db : Postgres)
    (status : PostgresStatus) :
    R (Controller.writeStatus t₁ db status a) (Controller.writeStatus t₂ db status b) := by
  refine h.ask_aside hs fun r hr => ?_
  obtain ⟨hmethod, hresource, -⟩ := Request.make_eq_ok (Request.of_checked hr)
  rw [Request.isAside, hmethod, hresource]

lemma agree_pass (h : Alike (·.isAside) t₁ t₂ R) (hs : R a b) (options : Options)
    (db : Postgres) :
    Agree R (Controller.pass options t₁ db a) (Controller.pass options t₂ db b) := by
  have hprogress : Alike (·.Tells .normal) t₁ t₂ R := h.mono fun _ hr => hr.isAside
  obtain ⟨hresult, hreconciled⟩ := hprogress.agree_reconcile hs options db
  -- The report carries the time at which it is sent, so the states after the warning matter too.
  have htold := h.announceFailure hreconciled options db (Controller.reconcile options t₁ db a).1
  rw [Controller.pass, Controller.pass]
  simp only
  rw [← hresult, ← h.now htold]
  exact ⟨rfl, h.writeStatus htold db _⟩

end Api.Alike

/-! ### What is sent -/

namespace Api

variable {σ σ₁ σ₂ : Type}

/-- A way to the same server on which the requests are written down. -/
def Transport.recorded (t : Transport σ) : Transport (σ × List Request) where
  send r s := ((t.send r s.1).1, (t.send r s.1).2, s.2 ++ [r])
  now s := t.now s.1
  millis s := t.millis s.1
  isCancelled s := t.isCancelled s.1
  pause ms s := ((t.pause ms s.1).1, (t.pause ms s.1).2, s.2)
  le_millis_send r s := t.le_millis_send r s.1
  le_millis_pause ms s := t.le_millis_pause ms s.1

lemma alike_recorded (t : Transport σ) :
    Alike (·.isAside) t t.recorded fun s recorded => s = recorded.1 where
  now hs := congrArg t.now hs
  millis hs := congrArg t.millis hs
  isCancelled hs := congrArg t.isCancelled hs
  pause hs _ := hs ▸ ⟨rfl, rfl⟩
  plain hs _ _ := hs ▸ ⟨rfl, rfl⟩
  told hs _ _ := hs ▸ rfl

/-- A way to a server whose answers follow from the requests so far. Its clock shows the time that
pauses have taken. -/
def Transport.ofAnswers (respond : List Request → Request → Response) (clock : Nat → String) :
    Transport (List Request × Nat) where
  send r s := (respond s.1 r, s.1 ++ [r], s.2)
  now s := clock s.2
  millis s := s.2
  isCancelled _ := false
  pause ms s := (false, s.1, s.2 + ms)
  le_millis_send _ _ := Nat.le_refl _
  le_millis_pause _ _ _ := Nat.le_refl _

/-- The requests that are not asides are the same, and so is the time. -/
def SamePlain (a b : List Request × Nat) : Prop :=
  a.1.filter (!·.isAside) = b.1.filter (!·.isAside) ∧ a.2 = b.2

/-- Two servers are alike if what they answer to anything but asides follows, in the same way, from
the requests so far that are not asides. -/
lemma alike_ofAnswers {respond₁ respond₂ : List Request → Request → Response}
    {clock : Nat → String} (h : ∀ past past' r, r.isAside = false →
      past.filter (!·.isAside) = past'.filter (!·.isAside) → respond₁ past r = respond₂ past' r) :
    Alike (·.isAside) (.ofAnswers respond₁ clock) (.ofAnswers respond₂ clock) SamePlain where
  now hs := congrArg clock hs.2
  millis hs := hs.2
  isCancelled _ := rfl
  pause hs ms := ⟨rfl, hs.1, congrArg (· + ms) hs.2⟩
  plain {a b} hs r hr := by
    refine ⟨h a.1 b.1 r hr hs.1, ?_, hs.2⟩
    show (a.1 ++ [r]).filter _ = (b.1 ++ [r]).filter _
    rw [List.filter_append, List.filter_append, hs.1]
  told {a b} hs r hr := by
    refine ⟨?_, hs.2⟩
    show (a.1 ++ [r]).filter _ = (b.1 ++ [r]).filter _
    rw [List.filter_append, List.filter_append, hs.1]

lemma Alike.recorded {t₁ : Transport σ₁} {t₂ : Transport σ₂} {R : σ₁ → σ₂ → Prop}
    (h : Alike (·.isAside) t₁ t₂ R) :
    Alike (·.isAside) t₁.recorded t₂.recorded fun a b => R a.1 b.1 ∧ a.2 = b.2 where
  now hs := h.now hs.1
  millis hs := h.millis hs.1
  isCancelled hs := h.isCancelled hs.1
  pause hs ms := ⟨(h.pause hs.1 ms).1, (h.pause hs.1 ms).2, hs.2⟩
  plain hs r hr := ⟨(h.plain hs.1 hr).1, (h.plain hs.1 hr).2, congrArg (· ++ [r]) hs.2⟩
  told hs r hr := ⟨h.told hs.1 hr, congrArg (· ++ [r]) hs.2⟩

lemma alike_quiet (t : Transport σ) :
    Alike (·.Tells .normal) t.recorded t.recorded fun a b => a = b ∧ ∀ r ∈ a.2, r.Quiet where
  now hs := congrArg _ hs.1
  millis hs := congrArg _ hs.1
  isCancelled hs := congrArg _ hs.1
  pause hs ms := by
    obtain ⟨rfl, hquiet⟩ := hs
    exact ⟨rfl, rfl, hquiet⟩
  plain hs r hr := by
    obtain ⟨rfl, hquiet⟩ := hs
    exact ⟨rfl, rfl, List.forall_mem_append.2
      ⟨hquiet, List.forall_mem_singleton.2 (Request.quiet_of_plain hr)⟩⟩
  told hs r hr := by
    obtain ⟨rfl, hquiet⟩ := hs
    exact ⟨rfl, List.forall_mem_append.2
      ⟨hquiet, List.forall_mem_singleton.2 (Request.quiet_of_progress hr)⟩⟩

end Api

/-- The name of an instance is not empty, and its events and its status have addresses. -/
structure Postgres.Addressed (db : Postgres) : Prop where
  name : db.name ≠ ""
  events : ∃ uri, Api.Uri.ofText ((Api.Resource.events db.ns).path ++ Api.Uri.queryText []) =
    .ok uri
  status : ∃ uri, Api.Uri.ofText ((Api.Resource.status ⟨db.ns, db.name⟩).path ++
    Api.Uri.queryText []) = .ok uri

namespace Controller

open Api

variable {σ σ₁ σ₂ : Type}

def sent (options : Options) (t : Transport σ) (db : Postgres) (s : σ) : List Request :=
  (pass options t.recorded db (s, [])).2.2

def Warns (db : Postgres) (r : Request) : Prop :=
  r.resource = .events db.ns ∧ r.Tells .warning

def Reports (db : Postgres) (phase : String) (r : Request) : Prop :=
  r.resource = .status ⟨db.ns, db.name⟩ ∧ r.phase? = some (.str phase)

/-- What a pass over an instance may send, by how it ends: success is reported without a warning,
and failure after the only one. Nothing else is reported, and nothing is sent after the report. -/
inductive Told (db : Postgres) : Except Error Outcome → List Request → Prop where
  | ready {outcome : Outcome} {requests : List Request} {report : Request}
      (hquiet : ∀ r ∈ requests, r.Quiet) (hreport : Reports db "Ready" report) :
      Told db (.ok outcome) (requests ++ [report])
  | failed {error : Error} {requests : List Request} {warning report : Request}
      (hquiet : ∀ r ∈ requests, r.Quiet) (hwarning : Warns db warning)
      (hreport : Reports db "Failed" report) :
      Told db (.error error) (requests ++ [warning, report])

variable {db : Postgres}

lemma phase_patch {status : PostgresStatus} {phase : String} (h : status.phase = some phase) :
    (status.patch.get? "status").bind (·.get? "phase") = some (.str phase) :=
  (Record.get?_encode (by decide) status "phase").trans (congrArg (Option.map Json.str) h)

lemma sent_emit (h : db.Addressed) (options : Options) (t : Transport σ) (notice : Notice)
    (s : σ × List Request) :
    ∃ r, (r.resource = .events db.ns ∧ r.Tells notice.type) ∧
      (Client.emit options t.recorded db notice s).2 = s.2 ++ [r] := by
  obtain ⟨uri, huri⟩ := h.events
  have hmake := Request.make_of_address .post huri
    (Body.object (notice.document db options.fieldManager (t.recorded.now s)))
  refine ⟨_, ⟨rfl, Request.tells_of_make hmake⟩, ?_⟩
  simp only [Client.emit, hmake]
  rfl

lemma sent_writeStatus (h : db.Addressed) (t : Transport σ) (status : PostgresStatus)
    {phase : String} (hphase : status.phase = some phase) (s : σ × List Request) :
    ∃ r, Reports db phase r ∧ (writeStatus t.recorded db status s).2 = s.2 ++ [r] := by
  obtain ⟨uri, huri⟩ := h.status
  have hname : Client.checkName db.name = .ok () := if_neg h.name
  have hmake := Request.make_of_address .patch huri (Body.merge status.patch)
  refine ⟨⟨.patch, .status ⟨db.ns, db.name⟩, uri, some (.merge status.patch)⟩,
    ⟨rfl, phase_patch hphase⟩, ?_⟩
  unfold writeStatus
  rw [hname, hmake]
  rfl

lemma told_of_quiet (h : db.Addressed) (options : Options) (t : Transport σ)
    (result : Except Error Outcome) {s : σ × List Request} (hquiet : ∀ r ∈ s.2, r.Quiet) :
    Told db result (writeStatus t.recorded db
      (db.report result (t.recorded.now (announceFailure options t.recorded db result s)))
      (announceFailure options t.recorded db result s)).2 := by
  -- A pass that ends well reports at once; one that fails warns before it reports.
  cases result with
  | ok outcome =>
    simp only [announceFailure]
    obtain ⟨report, hreport, hlast⟩ := sent_writeStatus h t
      (db.report (.ok outcome) (t.recorded.now s)) rfl s
    exact hlast ▸ .ready hquiet hreport
  | error error =>
    obtain ⟨warning, hwarning, htold⟩ := sent_emit h options t
      ⟨.warning, "Failed", error.message⟩ s
    simp only [announceFailure]
    generalize Client.emit options t.recorded db ⟨.warning, "Failed", error.message⟩ s = s' at htold
    obtain ⟨report, hreport, hlast⟩ := sent_writeStatus h t
      (db.report (.error error) (t.recorded.now s')) rfl s'
    rw [hlast, htold, List.append_assoc]
    exact .failed hquiet hwarning hreport

/-- A pass whose instance has addresses warns exactly if it fails, and then reports. -/
lemma told_recorded (h : db.Addressed) (options : Options) (t : Transport σ) (s : σ) :
    Told db (pass options t.recorded db (s, [])).1 (sent options t db s) := by
  obtain ⟨-, -, hquiet⟩ := (alike_quiet t).agree_reconcile (a := (s, [])) (b := (s, []))
    ⟨rfl, nofun⟩ options db
  exact told_of_quiet h options t _ hquiet

/-- **Asides cannot influence a pass**: of two servers that answer all requests but events and
reports alike both get the same requests, and the pass ends the same way. If the instance has
addresses, then it has sent one warning, just before the report, exactly if it failed, and reported
how it ended. -/
theorem pass_asides {t₁ : Transport σ₁} {t₂ : Transport σ₂} {R : σ₁ → σ₂ → Prop}
    (h : Alike (·.isAside) t₁ t₂ R) {a : σ₁} {b : σ₂} (hs : R a b) (options : Options)
    (db : Postgres) :
    (pass options t₁ db a).1 = (pass options t₂ db b).1 ∧
    sent options t₁ db a = sent options t₂ db b ∧
    (db.Addressed → Told db (pass options t₁ db a).1 (sent options t₁ db a)) := by
  obtain ⟨hresult, -⟩ := h.agree_pass hs options db
  obtain ⟨-, -, hsent⟩ := h.recorded.agree_pass (a := (a, [])) (b := (b, [])) ⟨hs, rfl⟩ options db
  obtain ⟨hrecorded, -⟩ := (alike_recorded t₁).agree_pass (a := a) (b := (a, [])) rfl options db
  exact ⟨hresult, hsent, fun haddressed => hrecorded ▸ told_recorded haddressed options t₁ a⟩

/-- A server that takes events and reports, and answers nothing else. -/
def accepting : Transport (List Request × Nat) :=
  .ofAnswers (fun _ r => if r.isAside then ⟨201, "\x7b\x7d"⟩ else ⟨500, ""⟩) toString

/-- A server that does not even take events and reports. -/
def refusing : Transport (List Request × Nat) := .ofAnswers (fun _ _ => ⟨500, ""⟩) toString

lemma alike_accepting_refusing : Alike (·.isAside) accepting refusing SamePlain :=
  alike_ofAnswers fun _ _ r hr _ => by simp [hr]

lemma addressed_unrestored : unrestored.Addressed where
  name := by decide
  events := ⟨_, rfl⟩
  status := ⟨_, rfl⟩

theorem pass_asides_refused :
    (pass {} accepting unrestored ([], 0)).1 = (pass {} refusing unrestored ([], 0)).1 ∧
    sent {} accepting unrestored ([], 0) = sent {} refusing unrestored ([], 0) ∧
    Told unrestored (pass {} accepting unrestored ([], 0)).1
      (sent {} accepting unrestored ([], 0)) := by
  obtain ⟨hresult, hsent, htold⟩ := pass_asides alike_accepting_refusing
    (show SamePlain ([], 0) ([], 0) from ⟨rfl, rfl⟩) {} unrestored
  exact ⟨hresult, hsent, htold addressed_unrestored⟩

/-- An instance whose namespace cannot stand in an address. -/
def unaddressed : Postgres where
  metadata := { name := some "pg", ns := some "a b" }
  spec := { version := "13.2" }

/-- Nobody is told of its failure: no event has an address. -/
theorem pass_asides_unaddressed :
    unaddressed.name ≠ "" ∧
    (∃ error, (pass {} accepting unaddressed ([], 0)).1 = .error error) ∧
    ∀ r ∈ sent {} accepting unaddressed ([], 0), ¬ r.Tells .warning := by
  refine ⟨by decide, ⟨_, rfl⟩, ?_⟩
  decide +kernel

end Controller

end PgOperator
