import Mathlib.Tactic.Lemma
import PgOperator.Controller
import PgOperator.Proofs.Conditions
import PgOperator.Proofs.NestedDefaults

/-!
What the report of a pass does to the conditions that others write.

The report is made from the instance as it was read before the pass, and it carries the whole list
of conditions, without a version that the server could compare. So once it has been merged into the
stored instance, the conditions of others are those that were read (`Controller.holds_pass_iff`):
what others have written in the meantime stays only if it has been read already.
-/

namespace PgOperator

namespace Condition

/-! ### Writes of others -/

/-- A write that sets a condition: it is there, no other one of its type is, and those of other
types are as before. -/
def Sets (c : Condition) (before after : List Condition) : Prop :=
  ∀ d, d ∈ after ↔ d = c ∨ d ∈ before ∧ d.type ≠ c.type

/-- What a sequence of writes makes of a list of conditions. -/
inductive Written (before : List Condition) : List Condition → List Condition → Prop where
  | none : Written before [] before
  | write {writes current after : List Condition} {c : Condition}
      (h : Written before writes current) (hsets : Sets c current after) :
      Written before (writes ++ [c]) after

/-- A condition is the last one of its type that is written. -/
def Stands (writes : List Condition) (c : Condition) : Prop :=
  ∃ earlier later, writes = earlier ++ c :: later ∧ ∀ d ∈ later, d.type ≠ c.type

variable {writes before current : List Condition} {c d : Condition}

lemma not_stands_nil : ¬ Stands [] d := by
  rintro ⟨earlier, later, h, -⟩
  exact List.append_ne_nil_of_right_ne_nil _ (List.cons_ne_nil _ _) h.symm

lemma stands_append_iff : Stands (writes ++ [c]) d ↔ d = c ∨ Stands writes d ∧ d.type ≠ c.type := by
  constructor
  · rintro ⟨earlier, later, h, hlater⟩
    rcases List.eq_nil_or_concat later with rfl | ⟨rest, last, rfl⟩
    · obtain ⟨-, hlast⟩ := List.append_inj' h rfl
      exact .inl (List.singleton_inj.1 hlast).symm
    · rw [List.concat_eq_append] at h hlater
      have hsplit : writes ++ [c] = (earlier ++ d :: rest) ++ [last] := by
        rw [h, List.append_assoc, List.cons_append]
      obtain ⟨hwrites, hlast⟩ := List.append_inj' hsplit rfl
      obtain rfl := List.singleton_inj.1 hlast
      refine .inr ⟨⟨earlier, rest, hwrites, fun e he => ?_⟩, ?_⟩
      · exact hlater e (List.mem_append_left _ he)
      · exact (hlater c (List.mem_append_right _ (List.mem_singleton_self c))).symm
  · rintro (rfl | ⟨⟨earlier, later, rfl, hlater⟩, hne⟩)
    · exact ⟨writes, [], rfl, nofun⟩
    · refine ⟨earlier, later ++ [c], by rw [List.append_assoc, List.cons_append], fun e he => ?_⟩
      rcases List.mem_append.1 he with he | he
      · exact hlater e he
      · exact List.mem_singleton.1 he ▸ hne.symm

lemma Written.mem_iff (h : Written before writes current) :
    d ∈ current ↔ Stands writes d ∨ d ∈ before ∧ ∀ c ∈ writes, d.type ≠ c.type := by
  induction h with
  | none => simp [not_stands_nil]
  | @write writes current after c _ hsets ih =>
    rw [hsets d, ih, stands_append_iff]
    constructor
    · rintro (rfl | ⟨hstands | ⟨hmem, hne⟩, htype⟩)
      · exact .inl (.inl rfl)
      · exact .inl (.inr ⟨hstands, htype⟩)
      · refine .inr ⟨hmem, fun e he => ?_⟩
        rcases List.mem_append.1 he with he | he
        · exact hne e he
        · exact List.mem_singleton.1 he ▸ htype
    · rintro ((rfl | ⟨hstands, htype⟩) | ⟨hmem, hne⟩)
      · exact .inl rfl
      · exact .inr ⟨.inl hstands, htype⟩
      · exact .inr ⟨.inr ⟨hmem, fun e he => hne e (List.mem_append_left _ he)⟩,
          hne c (List.mem_append_right _ (List.mem_singleton_self c))⟩

lemma Stands.mem (h : Stands writes c) : c ∈ writes := by
  obtain ⟨earlier, later, rfl, -⟩ := h
  exact List.mem_append_right _ List.mem_cons_self

/-- Recording how a pass went leaves the other conditions alone. -/
lemma mem_setReady_iff (hc : c.type ≠ ready) (succeeded : Bool) (reason message : String)
    (generation : Option Int64) (now : String) (conditions : List Condition) :
    c ∈ setReady succeeded reason message generation now conditions ↔ c ∈ conditions := by
  have hothers : (setReady succeeded reason message generation now conditions).filter
      (fun d => ¬ ready = d.type) = conditions.filter fun d => ¬ ready = d.type := by
    rw [setReady, set_eq_upsert, filter_upsert, if_pos rfl]
  have hfiltered (items : List Condition) :
      c ∈ items ↔ c ∈ items.filter fun d => ¬ ready = d.type := by
    simp [Ne.symm hc]
  rw [hfiltered, hothers, ← hfiltered]

lemma setReady_ne_nil (succeeded : Bool) (reason message : String) (generation : Option Int64)
    (now : String) (conditions : List Condition) :
    setReady succeeded reason message generation now conditions ≠ [] := by
  cases conditions with
  | nil => exact List.cons_ne_nil _ _
  | cons old rest =>
    unfold setReady set
    split <;> exact List.cons_ne_nil _ _

end Condition

/-! ### Conditions in a document -/

/-- The document of an instance holds the condition. -/
def Holds (doc : Json) (c : Condition) : Prop :=
  ∃ items, (doc.get? "status").bind (·.get? "conditions") = some (.arr items) ∧
    Record.encode c ∈ items

lemma encode_condition_inj {c d : Condition} (h : Record.encode c = Record.encode d) : c = d := by
  have hwhole (c : Condition) : Record.Whole c :=
    Record.whole_iff.2 (congrFun (Fields.whole_of_timeless _ (by decide)) _)
  exact Record.eq_of_encode_eq (by decide) (hwhole c) (hwhole d) h

lemma get?_conditions_encode {status : PostgresStatus} (h : status.conditions ≠ []) :
    (Record.encode status).get? "conditions" =
      some (.arr (status.conditions.map Record.encode)) := by
  have hdoc : (Shape.list (Record.shape Condition)).encode (status.conditions.map Record.toVal) =
      .arr (status.conditions.map Record.encode) := by
    rw [Shape.encode, List.map_map]
    rfl
  have hshown : Presence.document (Shape.list (Record.shape Condition)).encode
      (.defaulted (.arr []) true) (status.conditions.map Record.toVal) =
        some (.arr (status.conditions.map Record.encode)) := by
    rw [Presence.document, hdoc]
    exact if_neg fun hboth => h (List.map_eq_nil_iff.1 (Json.arr.inj hboth.2))
  exact (Record.get?_encode (by decide) status "conditions").trans hshown

lemma get?_conditions_merge {status : PostgresStatus} (h : status.conditions ≠ []) (old : Json) :
    (Json.merge old (Record.encode status)).get? "conditions" =
      some (.arr (status.conditions.map Record.encode)) := by
  have hnames : (Record.fields PostgresStatus).names.Nodup := by decide
  have hfree : (Record.fields PostgresStatus).nullFree = true := by decide
  refine (Json.get?_merge_object (hnames.sublist (Fields.sublist_keys _ _))
    (fun e he => (Fields.nullFree_encode _ hfree _ e he).1) old "conditions").trans ?_
  rw [← Fields.get?_object_encode hnames]
  exact congrArg (Json.mergeMember (old.get? "conditions")) (get?_conditions_encode h)

lemma get?_status_merge (doc : Json) (status : PostgresStatus) :
    (Json.merge doc status.patch).get? "status" =
      some (Json.merge ((doc.get? "status").getD .null) (Record.encode status)) := by
  have hkeys : ([("status", Record.encode status)].map Prod.fst).Nodup :=
    List.pairwise_singleton _ _
  have hfree : ∀ e ∈ [("status", Record.encode status)], e.2 ≠ .null := by
    intro e he
    rw [List.mem_singleton.1 he]
    exact Shape.encode_ne_null _ _
  rw [PostgresStatus.patch, Json.get?_merge_object hkeys hfree]
  exact Json.mergeMember_some (Shape.encode_ne_null _ _) _

lemma holds_merge_patch_iff {status : PostgresStatus} (h : status.conditions ≠ [])
    {doc merged : Json}
    (hmerged : merged.get? "status" = (Json.merge doc status.patch).get? "status")
    {c : Condition} :
    Holds merged c ↔ c ∈ status.conditions := by
  unfold Holds
  rw [hmerged, get?_status_merge, Option.bind_some, get?_conditions_merge h]
  constructor
  · rintro ⟨items, hitems, hmem⟩
    obtain rfl := Json.arr.inj (Option.some.inj hitems)
    obtain ⟨d, hd, heq⟩ := List.mem_map.1 hmem
    exact encode_condition_inj heq ▸ hd
  · exact fun hmem => ⟨_, rfl, List.mem_map_of_mem hmem⟩

abbrev Postgres.conditions (db : Postgres) : List Condition := (db.status.getD {}).conditions

lemma Postgres.mem_report_iff (db : Postgres) (result : Except Error Outcome) (now : String)
    {c : Condition} (hc : c.type ≠ Condition.ready) :
    c ∈ (db.report result now).conditions ↔ c ∈ db.conditions := by
  cases result <;> exact Condition.mem_setReady_iff hc ..

lemma Postgres.report_ne_nil (db : Postgres) (result : Except Error Outcome) (now : String) :
    (db.report result now).conditions ≠ [] := by
  cases result <;> exact Condition.setReady_ne_nil _ _ _ _ _ _

namespace Controller

open Api

/-! ### A whole pass -/

variable {σ : Type}

/-- The state in which a pass sends its report. -/
def reporting (options : Options) (t : Transport σ) (db : Postgres) (s : σ) : σ :=
  announceFailure options t db (reconcile options t db s).1 (reconcile options t db s).2

/-- The report of an instance can be sent, and the server merges it into the status that it
stores. -/
structure Delivers (t : Transport σ) (db : Postgres) (stored : σ → Json) : Prop where
  name : db.name ≠ ""
  address : ∃ uri,
    Uri.ofText ((Resource.status ⟨db.ns, db.name⟩).path ++ Uri.queryText []) = .ok uri
  merged : ∀ (request : Request) (patch : Json) (s : σ), request.method = .patch →
    request.resource = .status ⟨db.ns, db.name⟩ → request.body = some (.merge patch) →
      (stored (t.send request s).2).get? "status" = (Json.merge (stored s) patch).get? "status"

variable {t : Transport σ} {db : Postgres} {stored : σ → Json}

lemma Delivers.get?_status (h : Delivers t db stored) (status : PostgresStatus) (s : σ) :
    (stored (writeStatus t db status s)).get? "status" =
      (Json.merge (stored s) status.patch).get? "status" := by
  obtain ⟨uri, huri⟩ := h.address
  have hname : Client.checkName db.name = .ok () := if_neg h.name
  have hmake : Request.make .patch (.status ⟨db.ns, db.name⟩) (some [])
      (some (.merge status.patch)) =
      .ok ⟨.patch, .status ⟨db.ns, db.name⟩, uri, some (.merge status.patch)⟩ := by
    simp only [Request.make, huri]
  have hsent : writeStatus t db status s =
      (t.send ⟨.patch, .status ⟨db.ns, db.name⟩, uri, some (.merge status.patch)⟩ s).2 := by
    unfold writeStatus
    rw [hname, hmake]
    rfl
  rw [hsent]
  exact h.merged _ _ s rfl rfl rfl

/-- After a pass the stored conditions of others are those that were read before it. -/
lemma holds_pass_iff (h : Delivers t db stored) (options : Options) (s : σ) {c : Condition}
    (hc : c.type ≠ Condition.ready) :
    Holds (stored (pass options t db s).2) c ↔ c ∈ db.conditions :=
  (holds_merge_patch_iff (db.report_ne_nil _ _)
    (h.get?_status (db.report (reconcile options t db s).1 (t.now (reporting options t db s)))
      (reporting options t db s))).trans (db.mem_report_iff _ _ hc)

/-- **What others write during a pass** stays exactly if it had been read already: where others
have set conditions since the instance was read, all conditions that are not the pass's own are
still stored after its report if and only if each of the set ones is among those that were read. -/
theorem pass_keeps_iff (h : Delivers t db stored) (options : Options) (s : σ)
    {writes current : List Condition} (hothers : ∀ c ∈ writes, c.type ≠ Condition.ready)
    (hwritten : Condition.Written db.conditions writes current)
    (hbefore : ∀ c, Holds (stored (reporting options t db s)) c ↔ c ∈ current) :
    (∀ c, c.type ≠ Condition.ready → Holds (stored (reporting options t db s)) c →
      Holds (stored (pass options t db s).2) c) ↔
    ∀ c, Condition.Stands writes c → c ∈ db.conditions := by
  constructor
  · intro hkept c hstands
    have hc := hothers c hstands.mem
    have hholds := (hbefore c).2 (hwritten.mem_iff.2 (.inl hstands))
    exact (holds_pass_iff h options s hc).1 (hkept c hc hholds)
  · intro hread c hc hholds
    rw [holds_pass_iff h options s hc]
    rcases hwritten.mem_iff.1 ((hbefore c).1 hholds) with hstands | ⟨hmem, -⟩
    · exact hread c hstands
    · exact hmem

/-- An instance as it was read, about to be restored. -/
def unrestored : Postgres where
  metadata := { name := some "pg", ns := some "demo" }
  spec := { version := "13.2" }

/-- What another controller reports once it has restored the data. -/
def restored : Condition where
  type := "DataRestored"
  status := "True"
  lastTransitionTime := "2024-01-01T00:00:00Z"
  reason := "Restored"

/-- What that controller makes of the status, which was empty. -/
def restoredStatus : PostgresStatus where
  conditions := [restored]

/-- A server that stores one instance. While a pass looks for its release the data is restored. -/
def restoring : Transport Json where
  send request stored := match request.resource, request.body with
    | .version _, _ => (⟨500, ""⟩, Json.merge stored restoredStatus.patch)
    | .status _, some (.merge patch) => (⟨200, ""⟩, Json.merge stored patch)
    | _, _ => (⟨201, ""⟩, stored)
  now _ := "2024-01-01T00:00:01Z"
  millis _ := 0
  isCancelled _ := false
  pause _ stored := (true, stored)
  le_millis_send _ _ := Nat.le_refl _
  le_millis_pause _ _ h := absurd h nofun

lemma delivers_restoring : Delivers restoring unrestored id where
  name := by decide
  address := ⟨_, rfl⟩
  merged request patch s _ hresource hbody := by
    show ((restoring.send request s).2).get? "status" = _
    simp only [restoring, hresource, hbody]
    rfl

lemma reporting_restoring : reporting {} restoring unrestored (Record.encode unrestored) =
    Json.merge (Record.encode unrestored) restoredStatus.patch := rfl

lemma written_restoring : Condition.Written unrestored.conditions [restored] [restored] := by
  refine .write .none fun d => ?_
  rw [List.mem_singleton]
  exact ⟨.inl, fun h => h.elim id fun hread => absurd hread.1 List.not_mem_nil⟩

lemma holds_reporting_restoring (c : Condition) :
    Holds (reporting {} restoring unrestored (Record.encode unrestored)) c ↔ c ∈ [restored] := by
  rw [reporting_restoring]
  exact holds_merge_patch_iff (List.cons_ne_nil _ _) rfl

theorem pass_keeps_iff_restoring :
    (∀ c, c.type ≠ Condition.ready →
      Holds (reporting {} restoring unrestored (Record.encode unrestored)) c →
        Holds (pass {} restoring unrestored (Record.encode unrestored)).2 c) ↔
    ∀ c, Condition.Stands [restored] c → c ∈ unrestored.conditions := by
  have hothers : ∀ c ∈ [restored], c.type ≠ Condition.ready := by decide
  exact pass_keeps_iff delivers_restoring {} _ hothers written_restoring holds_reporting_restoring

/-- The report does away with what another controller has just reported. -/
theorem pass_loses_restored :
    Condition.Written unrestored.conditions [restored] [restored] ∧
    restored.type ≠ Condition.ready ∧
    Holds (reporting {} restoring unrestored (Record.encode unrestored)) restored ∧
    ¬ Holds (pass {} restoring unrestored (Record.encode unrestored)).2 restored := by
  have hother : restored.type ≠ Condition.ready := by decide
  refine ⟨written_restoring, hother, (holds_reporting_restoring _).2 List.mem_cons_self, ?_⟩
  intro hholds
  exact List.not_mem_nil ((holds_pass_iff delivers_restoring {} _ hother).1 hholds)

end Controller

end PgOperator
