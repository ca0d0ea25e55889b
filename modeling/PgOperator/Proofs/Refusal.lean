import Mathlib.Tactic.Lemma
import PgOperator.Proofs.Closure
import PgOperator.Proofs.Trace

/-!
A pass that is refused a call has done the first part of its work.

A whole pass is strict (`strict_reconcile`), and it stores under each key at most once
(`writesOnce_reconcile`). So the first refusal is the last that passes between it and the control
plane. What it has written and told by then is what a pass that is not refused anything writes and
tells first, and each object is as that pass leaves it in the end, if it has been written, or else
as it was before (`reconcile_refused`).
-/

namespace PgOperator

open Kube Memory

namespace Pass

/-! ### Strict passes -/

section Strict

variable {α : Type}

lemma Ended.strict {p : Pass α} (h : p.Ended) : p.Strict := by
  rcases h with ⟨value, rfl⟩ | ⟨error, rfl⟩ <;> trivial

lemma strict_pure (value : α) : (pure value : Pass α).Strict := trivial

lemma strict_call {c : Call} {next : c.Reply → Pass α} (hnext : ∀ reply, (next reply).Ended)
    (hrefused : ∀ reply error, c.error? reply = some error → next reply = .fail error) :
    (Pass.call c next).Strict := fun reply => ⟨hrefused reply, (hnext reply).strict⟩

lemma ofExcept_eq_fail {reply : Except Error α} {error : Error} (h : refusal? reply = some error) :
    ofExcept reply = .fail error := by
  rw [refusal?_eq_some_iff.1 h]
  rfl

lemma strict_get (kind : Kind) (id : ObjectId) : (get kind id).Strict :=
  strict_call ended_ofExcept fun _ _ => ofExcept_eq_fail

lemma strict_create (kind : Kind) (ns : String) (object : kind.Object) :
    (create kind ns object).Strict :=
  strict_call ended_ofExcept fun _ _ => ofExcept_eq_fail

lemma strict_patch (kind : Kind) (id : ObjectId) (ops : Json.Patch) :
    (patch kind id ops).Strict :=
  strict_call ended_ofExcept fun _ _ => ofExcept_eq_fail

lemma strict_awaitPods (ns : String) (selector : Dict String) (count : Int32) (timeout : Nat) :
    (awaitPods ns selector count timeout).Strict :=
  strict_call ended_ofExcept fun _ _ => ofExcept_eq_fail

lemma strict_emit (db : Postgres) (notice : Notice) : (emit db notice).Strict :=
  strict_call (fun _ => .inl ⟨(), rfl⟩) fun _ _ h => absurd h nofun

lemma strict_ensureNotCancelled : ensureNotCancelled.Strict :=
  strict_call ended_ensureNotCancelled fun cancelled error h => by
    cases cancelled with
    | false => exact absurd h nofun
    | true => exact congrArg Pass.fail (Option.some.inj h)

variable {db : Postgres} {version : PostgresVersion} {options : Options}

lemma strict_announce (db : Postgres) (what : String) (outcome : Outcome) :
    (announce db what outcome).Strict := by
  unfold announce
  split
  · exact strict_emit _ _
  · exact strict_pure ()

lemma closed_strict : Closed Strict where
  of_pure := strict_pure
  bind := Strict.bind
  looked := strict_ensureNotCancelled
  told := strict_announce

lemma strict_createOrPatch (kind : Kind) (id : ObjectId) (change : kind.Object → kind.Object) :
    (createOrPatch kind id change).Strict :=
  closed_strict.createOrPatch (strict_get _ _) (strict_create _ _) (strict_patch _ _)

lemma strict_checkStatefulSet : (checkStatefulSet db).Strict := by
  refine (strict_get _ _).bind fun found => ?_
  cases found with
  | none => exact strict_pure ()
  | some set => by_cases h : ownsStatefulSet db set <;> simp [h, Strict, pure]

/-- The first refusal ends a whole pass. -/
theorem strict_reconcile (db : Postgres) (version : PostgresVersion) (options : Options) :
    (reconcile db version options).Strict :=
  closed_strict.reconcile (fun id _ _ => strict_createOrPatch .service id _)
    strict_checkStatefulSet (strict_createOrPatch _ _ _)
    (fun _ => strict_awaitPods _ _ _ _) fun id _ => strict_createOrPatch _ id _

end Strict

/-! ### Passes that store each object once -/

section Writes

variable {σ α β : Type} {answer : (c : Call) → σ → c.Reply × σ} {own other : ObjectKey → Prop}
  {p : Pass α} {q : α → Pass β}

/-- Whatever calls are refused, the pass stores under each key at most once, and only under its
own ones. -/
def WritesOnce (answer : (c : Call) → σ → c.Reply × σ) (own : ObjectKey → Prop) (p : Pass α) :
    Prop :=
  ∀ s exchanges r s', p.Follows answer s exchanges r s' →
    (written exchanges).Nodup ∧ ∀ key ∈ written exchanges, own key

lemma Ended.exchanges_eq_nil (hended : p.Ended) {s s' : σ} {exchanges : List Exchange}
    {r : Except Error α} (h : p.Follows answer s exchanges r s') : exchanges = [] := by
  rcases hended with ⟨value, rfl⟩ | ⟨error, rfl⟩ <;> cases h <;> rfl

lemma Ended.writesOnce (hended : p.Ended) : WritesOnce answer own p := by
  intro s exchanges r s' h
  rw [hended.exchanges_eq_nil h]
  exact ⟨List.nodup_nil, fun key hkey => absurd hkey List.not_mem_nil⟩

lemma writesOnce_pure (value : α) : WritesOnce answer own (pure value : Pass α) :=
  Ended.writesOnce (.inl ⟨value, rfl⟩)

lemma writesOnce_call {c : Call} {next : c.Reply → Pass α} (hc : ∀ reply, c.written? reply = none)
    (hnext : ∀ reply, WritesOnce answer own (next reply)) :
    WritesOnce answer own (.call c next) := by
  have hcons (reply : c.Reply) (rest : List Exchange) :
      written (⟨c, reply⟩ :: rest) = written rest :=
    List.filterMap_cons_none (hc reply)
  intro s exchanges r s' h
  cases h with
  | answered h =>
    rw [hcons]
    exact hnext _ _ _ _ _ h
  | refused _ h =>
    rw [hcons]
    exact hnext _ _ _ _ _ h

lemma writesOnce_last {c : Call} {next : c.Reply → Pass α} (hnext : ∀ reply, (next reply).Ended)
    (hown : ∀ reply key, c.written? reply = some key → own key) :
    WritesOnce answer own (.call c next) := by
  have hlast (reply : c.Reply) : (written [⟨c, reply⟩]).Nodup ∧
      ∀ key ∈ written [⟨c, reply⟩], own key := by
    rw [written_singleton]
    cases hkey : c.written? reply with
    | none => simp [Exchange.written?, hkey]
    | some key => simpa [Exchange.written?, hkey] using hown reply key hkey
  intro s exchanges r s' h
  cases h with
  | answered h =>
    rw [(hnext _).exchanges_eq_nil h]
    exact hlast _
  | refused _ h =>
    rw [(hnext _).exchanges_eq_nil h]
    exact hlast _

lemma WritesOnce.mono (h : WritesOnce answer own p) (hkeys : ∀ key, own key → other key) :
    WritesOnce answer other p := fun s exchanges r s' hfollows =>
  (h s exchanges r s' hfollows).imp_right fun hown key hkey => hkeys key (hown key hkey)

lemma WritesOnce.bind (hp : WritesOnce answer own p)
    (hq : ∀ value, WritesOnce answer other (q value)) (hdisjoint : ∀ key, own key → ¬ other key) :
    WritesOnce answer (fun key => own key ∨ other key) (p >>= q) := by
  intro s exchanges r s' h
  rcases follows_bind h with ⟨error, -, h⟩ | ⟨value, first, rest, mid, rfl, hfirst, hrest⟩
  · obtain ⟨hnodup, hown⟩ := hp _ _ _ _ h
    exact ⟨hnodup, fun key hkey => .inl (hown key hkey)⟩
  · obtain ⟨hnodup, hown⟩ := hp _ _ _ _ hfirst
    obtain ⟨hnodupRest, hother⟩ := hq value _ _ _ _ hrest
    rw [written_append]
    refine ⟨List.nodup_append.2 ⟨hnodup, hnodupRest, ?_⟩, fun key hkey => ?_⟩
    · rintro key hkey _ hkey' rfl
      exact hdisjoint key (hown key hkey) (hother key hkey')
    · exact (List.mem_append.1 hkey).imp (hown key) (hother key)

lemma WritesOnce.silent_bind (hp : WritesOnce answer (fun _ => False) p)
    (hq : ∀ value, WritesOnce answer own (q value)) : WritesOnce answer own (p >>= q) :=
  (hp.bind hq fun _ hfalse => hfalse.elim).mono fun _ hkey => hkey.elim False.elim id

lemma WritesOnce.bind_silent (hp : WritesOnce answer own p)
    (hq : ∀ value, WritesOnce answer (fun _ => False) (q value)) :
    WritesOnce answer own (p >>= q) :=
  (hp.bind hq fun _ _ hfalse => hfalse).mono fun _ hkey => hkey.elim id False.elim

end Writes

section Whole

variable {σ : Type} {answer : (c : Call) → σ → c.Reply × σ} {db : Postgres}
  {version : PostgresVersion} {options : Options}

lemma writesOnce_ensureNotCancelled :
    WritesOnce answer (fun _ => False) ensureNotCancelled :=
  writesOnce_last ended_ensureNotCancelled fun _ _ h => absurd h nofun

lemma writesOnce_announce (db : Postgres) (what : String) (outcome : Outcome) :
    WritesOnce answer (fun _ => False) (announce db what outcome) := by
  unfold announce
  split
  · exact writesOnce_last (fun _ => .inl ⟨(), rfl⟩) fun _ _ h => absurd h nofun
  · exact writesOnce_pure ()

lemma writesOnce_createOrPatch {kind : Kind} (id : ObjectId) {change : kind.Object → kind.Object}
    (hname : ∀ object, (kind.metadata (change object)).name = (kind.metadata object).name) :
    WritesOnce answer (fun key => key = ⟨kind, id.ns, id.name⟩) (createOrPatch kind id change) := by
  rw [createOrPatch_eq]
  refine writesOnce_call (fun _ => rfl) fun reply => ?_
  rcases reply with error | _ | current
  · exact Ended.writesOnce (.inr ⟨error, rfl⟩)
  · refine writesOnce_last (fun reply => ended_bind_ofExcept reply _) fun reply key hkey => ?_
    cases reply with
    | error => exact absurd hkey (Option.some_ne_none key).symm
    | ok created =>
      obtain rfl := Option.some.inj hkey
      rw [hname, Kind.metadata_blank]
      rfl
  · simp only [afterRead]
    split
    · exact writesOnce_pure _
    · split
      · exact writesOnce_pure _
      · refine writesOnce_last (fun reply => ended_bind_ofExcept reply _) fun reply key hkey => ?_
        cases reply with
        | error => exact absurd hkey (Option.some_ne_none key).symm
        | ok patched => exact (Option.some.inj hkey).symm

lemma writesOnce_ensureNamedService {mutate : Service → Service}
    (h : Kind.Steady .service mutate) (name what : String) :
    WritesOnce answer (fun key => key = serviceKey db name)
      (ensureNamedService db name what mutate) := by
  rw [ensureNamedService_eq]
  exact writesOnce_ensureNotCancelled.silent_bind fun _ =>
    (writesOnce_createOrPatch _ h.name).bind_silent fun v =>
      (writesOnce_announce db what v.2).silent_bind fun _ => writesOnce_pure _

lemma writesOnce_ensureService : WritesOnce answer
    (fun key => key = serviceKey db db.name ∨ key = serviceKey db db.standbyServiceName)
    (ensureService db) := by
  have hprimary : WritesOnce answer (fun key => key = serviceKey db db.name)
      (ensurePrimaryService db) :=
    writesOnce_ensureNamedService (db.steady_databaseService .primary) _ _
  refine hprimary.bind (fun primary => ?_) ?_
  · split
    · exact writesOnce_pure _
    · exact (writesOnce_ensureNamedService (db.steady_databaseService .standby) _ _).bind_silent
        fun _ => writesOnce_pure _
  · rintro key rfl hkey
    exact append_ne_self db.name (by decide) (congrArg ObjectKey.name hkey).symm

lemma writesOnce_ensureStatsService :
    WritesOnce answer (fun key => key = serviceKey db db.statsServiceName)
      (ensureStatsService db) := by
  unfold ensureStatsService
  split
  · split
    · exact writesOnce_ensureNamedService (db.steady_statsService _) _ _
    · exact writesOnce_ensureNotCancelled.silent_bind fun _ => writesOnce_pure _
  · exact writesOnce_ensureNotCancelled.silent_bind fun _ => writesOnce_pure _

lemma writesOnce_checkStatefulSet : WritesOnce answer (fun _ => False) (checkStatefulSet db) := by
  rw [checkStatefulSet_eq]
  exact writesOnce_call (fun _ => rfl) fun reply => (ended_checkFound reply).writesOnce

lemma writesOnce_awaitStatefulSet (set : StatefulSet) :
    WritesOnce answer (fun _ => False) (awaitStatefulSet options set) :=
  writesOnce_call (fun _ => rfl) fun reply => (ended_ofExcept reply).writesOnce

lemma closed_silent : Closed (WritesOnce answer fun _ => False) where
  of_pure := writesOnce_pure
  bind := WritesOnce.silent_bind
  looked := writesOnce_ensureNotCancelled
  told := writesOnce_announce

lemma writesOnce_settleIn (v : StatefulSet × Outcome) :
    WritesOnce answer (fun _ => False) (settleIn db options v) :=
  closed_silent.settleIn v (writesOnce_awaitStatefulSet v.1)

lemma writesOnce_ensureDisruptionBudget (set : StatefulSet) :
    WritesOnce answer (fun key => key.kind = .disruptionBudget) (ensureDisruptionBudget set) := by
  refine WritesOnce.bind_silent (WritesOnce.mono
    (writesOnce_createOrPatch _ set.steady_disruptionBudget.name) ?_) fun _ => writesOnce_pure _
  rintro key rfl
  rfl

lemma writesOnce_ensureStatefulSet (version : PostgresVersion) (options : Options) :
    WritesOnce answer (fun key => key = setKey db ∨ key.kind = .disruptionBudget)
      (ensureStatefulSet db version options) := by
  have hset : WritesOnce answer (fun key => key = setKey db)
      (createOrPatch .statefulSet ⟨db.ns, db.name⟩ (db.statefulSet version options)) :=
    writesOnce_createOrPatch _ fun _ => rfl
  rw [ensureStatefulSet_eq]
  refine writesOnce_ensureNotCancelled.silent_bind fun _ => ?_
  refine (writesOnce_checkStatefulSet.silent_bind fun _ => hset).bind (fun v => ?_) ?_
  · exact (writesOnce_settleIn v).silent_bind fun _ =>
      (writesOnce_ensureDisruptionBudget v.1).bind_silent fun _ => writesOnce_pure _
  · rintro key rfl hkind
    exact absurd hkind nofun

/-- A whole pass stores each of its objects at most once. -/
theorem writesOnce_reconcile (db : Postgres) (version : PostgresVersion) (options : Options) :
    WritesOnce answer (fun key => key.kind = .service ∨ key = setKey db ∨
      key.kind = .disruptionBudget) (reconcile db version options) := by
  have hgoverning : WritesOnce answer (fun key => key = serviceKey db db.governingServiceName)
      (ensureGoverningService db) := writesOnce_ensureNamedService db.steady_governingService _ _
  have hall := hgoverning.bind (q := fun _ => _) (fun _ => writesOnce_ensureService.bind
    (fun _ => writesOnce_ensureStatsService.bind
      (fun _ => writesOnce_ensureStatefulSet version options) stats_disjoint) members_disjoint)
    governing_disjoint
  exact WritesOnce.mono hall fun key => kind_or_workload

end Whole

/-! ### A call that is refused -/

section Refused

variable {α : Type} {p : Pass α} {own : ObjectKey → Prop} {exchanges : List Exchange}
  {r : Except Error α}

/-- What a strict pass that stores each object once has done when it is refused a call. -/
lemma Strict.refused (hp : p.Strict) (honce : WritesOnce Stored.answer own p) {s s' : Stored}
    (h : p.Follows Stored.answer s exchanges r s') {x : Exchange} (hx : x ∈ exchanges)
    {error : Error} (herror : x.error? = some error) :
    r = .error error ∧ deeds exchanges <+: deeds (p.trace Stored.answer s) ∧
    ∃ past reply later, exchanges = past ++ [x] ∧
      p.trace Stored.answer s = past ++ ⟨x.call, reply⟩ :: later ∧
      (∀ key, key ∉ written past → lookup s'.objects key = lookup s.objects key) ∧
      (∀ key ∈ written (⟨x.call, reply⟩ :: later),
        lookup s'.objects key = lookup s.objects key) ∧
      ∀ key ∈ written past,
        lookup s'.objects key = lookup (p.run Stored.answer s).2.objects key := by
  obtain ⟨hr, past, next, rfl, htrace, hrun⟩ :=
    hp.interrupted Stored.answer_of_refused h hx herror
  have hthen : (Pass.call x.call next).Follows Stored.answer s' _ _ _ := follows_run _ s'
  have hnodup := (honce _ _ _ _ (follows_run p s)).1
  rw [htrace, written_append] at hnodup
  -- No key is written twice, so what is written before the refusal is not written after it.
  have hdisjoint := (List.nodup_append.1 hnodup).2.2
  have hwritten : written (past ++ [x]) = written past := by
    rw [written_append, written_singleton, Exchange.written?_of_error herror]
    exact List.append_nil _
  have hdeeds : deeds (past ++ [x]) = deeds past := by
    rw [deeds_append, deeds, deeds, List.filter_singleton, Exchange.isDeed_of_error herror]
    exact List.append_nil _
  have huntouched (key : ObjectKey) (hkey : key ∉ written past) :
      lookup s'.objects key = lookup s.objects key := h.lookup_eq (hwritten ▸ hkey)
  refine ⟨hr, ?_, past, _, _, rfl, htrace, huntouched, fun key hkey => ?_, fun key hkey => ?_⟩
  · rw [hdeeds, htrace, deeds_append]
    exact List.prefix_append _ _
  · exact huntouched key fun hpast => hdisjoint key hpast key hkey rfl
  · rw [hrun]
    exact (hthen.lookup_eq fun hlater => hdisjoint key hkey key hlater rfl).symm

end Refused

variable {db : Postgres} {version : PostgresVersion} {options : Options}

/-- **A pass that is refused a call has done the first part of its work**: it ends with the error of
the refusal, and its writes and events are the first ones of a pass over the same objects that is
not refused anything. What that pass writes later is as it was, and what has been written is as
that pass leaves it in the end. -/
theorem reconcile_refused {m broken clean : Memory} {exchanges : List Exchange}
    {r : Except Error Outcome}
    (h : (reconcile db version options).Follows Memory.answer m exchanges r broken)
    {x : Exchange} (hx : x ∈ exchanges) {error : Error} (herror : x.error? = some error)
    (hfree : clean.FailureFree) (hstored : clean.stored = m.stored) :
    let whole := (reconcile db version options).trace Memory.answer clean
    let final := ((reconcile db version options).run Memory.answer clean).2
    r = .error error ∧ deeds exchanges <+: deeds whole ∧
    ∃ past reply later, exchanges = past ++ [x] ∧ whole = past ++ ⟨x.call, reply⟩ :: later ∧
      (∀ key, key ∉ written past → lookup broken.objects key = lookup m.objects key) ∧
      (∀ key ∈ written (⟨x.call, reply⟩ :: later),
        lookup broken.objects key = lookup m.objects key) ∧
      ∀ key ∈ written past, lookup broken.objects key = lookup final.objects key := by
  have hrefused := (strict_reconcile db version options).refused
    (writesOnce_reconcile db version options) (follows_stored h) hx herror
  have hfinal := congrArg Stored.objects (hfree.run (reconcile db version options)).2
  rw [hstored] at hfinal
  rw [trace_of_failureFree hfree, hstored]
  intro whole final
  rw [show final.objects = _ from hfinal]
  exact hrefused

/-- None of the pods gets to run: the pass has created two services and told so, and it has created
the stateful set, of which it does not tell. -/
theorem reconcile_refused_unready :
    let p := reconcile migrated {} {}
    let m : Memory := { running := some 0 }
    ((p.run answer m).1 = .error (.readinessTimeout "demo"
      "kubedb.com/kind=Postgres,kubedb.com/name=db" 1 0)) ∧
    (deeds (p.trace answer m)).length = 5 ∧ (deeds (p.trace answer {})).length = 7 ∧
    deeds (p.trace answer m) <+: deeds (p.trace answer {}) := by
  intro p m
  let error : Error := .readinessTimeout "demo" "kubedb.com/kind=Postgres,kubedb.com/name=db" 1 0
  have hrefusals : (p.trace answer m).filterMap Exchange.error? = [error] := by
    decide +kernel
  have hmem : error ∈ (p.trace answer m).filterMap Exchange.error? := by
    rw [hrefusals]
    exact List.mem_singleton_self error
  obtain ⟨x, hx, herror⟩ := List.mem_filterMap.1 hmem
  have hfree : ({} : Memory).FailureFree := ⟨rfl, rfl, fun count => Int32.le_refl count⟩
  obtain ⟨hresult, hprefix, -⟩ := reconcile_refused (follows_run p m) hx herror hfree rfl
  exact ⟨hresult, by decide +kernel, by decide +kernel, hprefix⟩

end Pass

end PgOperator
