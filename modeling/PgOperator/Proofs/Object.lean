import Mathlib.Tactic.Lemma
import PgOperator.Proofs.Interruption
import PgOperator.Proofs.Resumption
import PgOperator.Proofs.Steady

/-!
Bringing one object to its state.

With a steady change the pass ends with an object that the change leaves alone, and does nothing
where such an object is stored (`run_createOrPatch`, `idle_createOrPatch`). It writes once, in its
last call, so it may be resumed (`resumable_createOrPatch`).
-/

namespace PgOperator

open Kube Memory Settle

/-! ### The fields that the server sets -/

namespace Kind

variable {kind : Kind} {object : kind.Object}

lemma whole_stamp (h : Record.Whole object) (ns uid version : Option String) :
    Record.Whole (kind.stamp object ns uid version) := by
  have hmeta {metadata : ObjectMeta} (hmeta : Record.Whole metadata) :
      Record.Whole { metadata with ns := ns, uid := uid, resourceVersion := version } :=
    whole_objectMeta_iff.2 (show ObjectMeta.otherFields.whole metadata.other = metadata.other from
      whole_objectMeta_iff.1 hmeta)
  cases kind with
  | service =>
    obtain ⟨h, hstatus⟩ := whole_service_iff.1 h
    exact whole_service_iff.2 ⟨hmeta h, hstatus⟩
  | statefulSet =>
    obtain ⟨h, hrest⟩ := whole_statefulSet_iff.1 h
    exact whole_statefulSet_iff.2 ⟨hmeta h, hrest⟩
  | disruptionBudget =>
    obtain ⟨h, hstatus⟩ := whole_disruptionBudget_iff.1 h
    exact whole_disruptionBudget_iff.2 ⟨hmeta h, hstatus⟩

lemma whole_blank (kind : Kind) (id : ObjectId) : Record.Whole (kind.blank id) := by
  have hmeta : Record.Whole ({ name := some id.name, ns := some id.ns } : ObjectMeta) :=
    whole_objectMeta_iff.2 (Fields.whole_zero _)
  cases kind with
  | service => exact whole_service_iff.2 ⟨hmeta, rfl⟩
  | statefulSet => exact whole_statefulSet_iff.2 ⟨hmeta, Record.whole_of_eq_none rfl, rfl⟩
  | disruptionBudget => exact whole_disruptionBudget_iff.2 ⟨hmeta, rfl⟩

lemma withVersion_eq_stamp (object : kind.Object) (version : String) :
    kind.withVersion object version = kind.stamp object (kind.metadata object).ns
      (kind.metadata object).uid (some version) := by
  cases kind <;> rfl

namespace Steady

variable {change : kind.Object → kind.Object}

lemma version (h : Steady kind change) (object : kind.Object) :
    (kind.metadata (change object)).resourceVersion = (kind.metadata object).resourceVersion := by
  have hsame : kind.stamp object (kind.metadata object).ns (kind.metadata object).uid
      (kind.metadata object).resourceVersion = object := by cases kind <;> rfl
  have hstamp := h.stamp object (kind.metadata object).ns (kind.metadata object).uid
    (kind.metadata object).resourceVersion
  rw [hsame] at hstamp
  rw [hstamp, Kind.stamp, metadata_withMetadata]

lemma change_stamp (h : Steady kind change) (hobject : change object = object)
    (ns uid version : Option String) :
    change (kind.stamp object ns uid version) = kind.stamp object ns uid version := by
  rw [h.stamp, hobject]

end Steady

end Kind

namespace Pass

/-! ### One object -/

/-- Under the key of the identity stands an object that is whole and that the change leaves
alone. -/
structure Settled {kind : Kind} (id : ObjectId) (change : kind.Object → kind.Object)
    (objects : List (ObjectKey × Json)) (object : kind.Object) : Prop where
  stored : lookup objects ⟨kind, id.ns, id.name⟩ = some (Record.encode object)
  whole : Record.Whole object
  same : change object = object

variable {kind : Kind} {id : ObjectId} {change : kind.Object → kind.Object} {s s' : Stored}

lemma idle_createOrPatch {objects : List (ObjectKey × Json)} {object : kind.Object}
    (h : Settled id change objects object) :
    (createOrPatch kind id change).Idle objects (object, .unchanged) := by
  rw [createOrPatch_eq]
  refine idle_call trivial ?_
  rintro m rfl hfailures -
  have hfail := failure?_of_nil hfailures kind
  have hread := Record.decode_encode_of_whole kind.wellNamed h.whole
  have hget : m.get kind id = .ok (some object) := get_of_some hfail h.stored hread
  refine ⟨?_, rfl⟩
  rw [answer, hget, afterRead, if_pos h.same]

lemma leaves_last {α : Type} {c : Call} {next : c.Reply → Pass α} {r : Except Error α}
    (hnext : ∀ reply, (next reply).Ended)
    (hrefused : ∀ reply, c.Refused reply → ∃ e, next reply = .fail e)
    (h : (Pass.call c next).Leaves Stored.answer s r s') :
    (∃ e, r = .error e ∧ s' = s) ∨ (Pass.call c next).run Stored.answer s = (r, s') := by
  rcases leaves_call_iff.1 h with h | ⟨reply, hreply, h⟩
  · exact .inr ((hnext _).run_eq h)
  · obtain ⟨e, he⟩ := hrefused reply hreply
    rw [he] at h
    obtain ⟨rfl, rfl⟩ := leaves_fail_iff.1 h
    exact .inl ⟨e, rfl, rfl⟩

lemma leaves_createOrPatch {r : Except Error (kind.Object × Outcome)}
    (h : (createOrPatch kind id change).Leaves Stored.answer s r s') :
    (∃ e, r = .error e ∧ s' = s) ∨
      (createOrPatch kind id change).run Stored.answer s = (r, s') := by
  rw [createOrPatch_eq] at h ⊢
  rcases leaves_call_iff.1 h with h | ⟨reply, ⟨e, rfl⟩, h⟩
  · rw [run_call]
    have hread : (Stored.answer (.get kind id) s).2 = s := rfl
    rw [hread] at h ⊢
    revert h
    generalize (Stored.answer (.get kind id) s).1 = reply
    intro h
    cases reply with
    | error e =>
      obtain ⟨rfl, rfl⟩ := leaves_fail_iff.1 h
      exact .inl ⟨e, rfl, rfl⟩
    | ok found =>
      cases found with
      | none =>
        refine leaves_last (fun reply => ended_bind_ofExcept reply _) ?_ h
        rintro reply ⟨e, rfl⟩
        exact ⟨e, rfl⟩
      | some current =>
        -- A pass without a change has ended after its read; otherwise the patch is its last call.
        by_cases hsame : change current = current
        · simp only [afterRead, if_pos hsame] at h ⊢
          obtain ⟨rfl, rfl⟩ := leaves_done_iff.1 h
          exact .inr rfl
        · simp only [afterRead, if_neg hsame] at h ⊢
          cases hops : diffPatch current (change current) with
          | nil =>
            rw [hops] at h
            obtain ⟨rfl, rfl⟩ := leaves_done_iff.1 h
            exact .inr rfl
          | cons op ops =>
            rw [hops] at h
            refine leaves_last (fun reply => ended_bind_ofExcept reply _) ?_ h
            rintro reply ⟨e, rfl⟩
            exact ⟨e, rfl⟩
  · obtain ⟨rfl, rfl⟩ := leaves_fail_iff.1 h
    exact .inl ⟨e, rfl, rfl⟩

lemma answer_get_of_some (htyped : Typed s.objects) {doc : Json}
    (hget : lookup s.objects ⟨kind, id.ns, id.name⟩ = some doc) :
    ∃ object, Stored.answer (.get kind id) s = (.ok (some object), s) ∧ Record.Whole object ∧
      Record.encode object = doc := by
  obtain ⟨object, hdecode, hwhole, hencode⟩ := htyped.exists_read hget
  have hfree : s.memory.failure? kind = none := rfl
  exact ⟨object, Prod.ext (get_of_some hfree hget hdecode) rfl, hwhole, hencode⟩

lemma answer_get_of_none (hget : lookup s.objects ⟨kind, id.ns, id.name⟩ = none) :
    Stored.answer (.get kind id) s = (.ok none, s) := by
  have hfree : s.memory.failure? kind = none := rfl
  exact Prod.ext (get_of_none hfree hget) rfl

lemma run_createOrPatch_of_none (hchange : kind.Steady change)
    (hget : lookup s.objects ⟨kind, id.ns, id.name⟩ = none) :
    (createOrPatch kind id change).run Stored.answer s =
      (.ok (kind.created (change (kind.blank id)) id.ns s.uids, .created),
        ⟨store ⟨kind, id.ns, id.name⟩ (Record.encode
          (kind.created (change (kind.blank id)) id.ns s.uids)) s.objects, s.uids + 1⟩) := by
  have hname : (kind.metadata (change (kind.blank id))).name.getD "" = id.name := by
    rw [hchange.name, Kind.metadata_blank]
    rfl
  have hfree : s.memory.failure? kind = none := rfl
  have hcreate := create_of_none hfree (show lookup s.memory.objects ⟨kind, id.ns,
    (kind.metadata (change (kind.blank id))).name.getD ""⟩ = none from hname ▸ hget)
  rw [hname] at hcreate
  rw [createOrPatch_eq, run_call, answer_get_of_none hget, afterRead, run_call, Stored.answer,
    answer, hcreate]
  rfl

lemma run_createOrPatch_of_some (hchange : kind.Steady change) {current : kind.Object}
    (hread : Stored.answer (.get kind id) s = (.ok (some current), s))
    (hget : lookup s.objects ⟨kind, id.ns, id.name⟩ = some (Record.encode current))
    (hwhole : Record.Whole current) (hsame : change current ≠ current) :
    ∃ version, (createOrPatch kind id change).run Stored.answer s =
      (.ok (kind.withVersion (change current) version, .patched),
        ⟨store ⟨kind, id.ns, id.name⟩ (Record.encode (kind.withVersion (change current) version))
          s.objects, s.uids⟩) := by
  -- Whole objects that differ are written differently, so there is something to patch.
  obtain ⟨op, ops, hops⟩ : ∃ op ops, diffPatch current (change current) = op :: ops := by
    cases hops : diffPatch current (change current) with
    | cons op ops => exact ⟨op, ops, rfl⟩
    | nil =>
      have hleads := leads_diffPatch current (change current)
      rw [hops, Json.Leads.nil_iff] at hleads
      have heq := Record.eq_of_encode_eq kind.wellNamed hwhole (hchange.whole hwhole) hleads
      exact absurd heq.symm hsame
  have hfree : s.memory.failure? kind = none := rfl
  have hget : lookup s.memory.objects ⟨kind, id.ns, id.name⟩ = some (Record.encode current) := hget
  have hpatch := patch_of_encode hfree hget (hchange.version current)
  have hstored : Record.Whole (kind.withVersion (change current)
      (versionAfter (kind.metadata current).resourceVersion)) :=
    Kind.withVersion_eq_stamp (change current) _ ▸ Kind.whole_stamp (hchange.whole hwhole) _ _ _
  rw [hstored, hops] at hpatch
  refine ⟨versionAfter (kind.metadata current).resourceVersion, ?_⟩
  rw [createOrPatch_eq, run_call, hread, afterRead, if_neg hsame, hops]
  simp only [run_call]
  rw [Stored.answer, answer, hpatch]
  rfl

/-- **One object is brought to its state**: the pass ends with an object that the change leaves
alone. -/
lemma run_createOrPatch (id : ObjectId) (hchange : kind.Steady change) (htyped : Typed s.objects) :
    ∃ object outcome s', (createOrPatch kind id change).run Stored.answer s =
        (.ok (object, outcome), s') ∧ Settled id change s'.objects object ∧ Typed s'.objects ∧
      ∀ key, key ≠ ⟨kind, id.ns, id.name⟩ → lookup s'.objects key = lookup s.objects key := by
  cases hget : lookup s.objects ⟨kind, id.ns, id.name⟩ with
  | none =>
    refine ⟨_, _, _, run_createOrPatch_of_none hchange hget, ⟨lookup_store_self _ _ _, ?_, ?_⟩,
      htyped.store _ _ _, fun key hkey => lookup_store_of_ne hkey _ _⟩
    · exact Kind.whole_stamp (hchange.whole (Kind.whole_blank kind id)) _ _ _
    · exact hchange.change_stamp (hchange.again _) _ _ _
  | some doc =>
    obtain ⟨current, hread, hwhole, rfl⟩ := answer_get_of_some htyped hget
    by_cases hsame : change current = current
    · refine ⟨current, .unchanged, s, ?_, ⟨hget, hwhole, hsame⟩, htyped, fun _ _ => rfl⟩
      rw [createOrPatch_eq, run_call, hread, afterRead, if_pos hsame]
      rfl
    · obtain ⟨version, hrun⟩ := run_createOrPatch_of_some hchange hread hget hwhole hsame
      refine ⟨_, _, _, hrun, ⟨lookup_store_self _ _ _, ?_, ?_⟩, htyped.store _ _ _,
        fun key hkey => lookup_store_of_ne hkey _ _⟩
      · rw [Kind.withVersion_eq_stamp]
        exact Kind.whole_stamp (hchange.whole hwhole) _ _ _
      · rw [Kind.withVersion_eq_stamp]
        exact hchange.change_stamp (hchange.again _) _ _ _

/-! ### Resuming it -/

/-- A pass that only looks whether another one may go on. -/
structure Guard (guard : Pass Unit) : Prop where
  stays : ∀ {s r s'}, guard.Leaves Stored.answer s r s' → s' = s
  run : ∀ {s s'}, guard.Leaves Stored.answer s (.ok ()) s' →
    guard.run Stored.answer s = (.ok (), s)

lemma guard_done : Guard (.done ()) where
  stays h := (leaves_done_iff.1 h).2
  run _ := rfl

lemma guard_get {next : Except Error (Option kind.Object) → Pass Unit}
    (hnext : ∀ reply, (next reply).Ended) (hrefused : ∀ e, next (.error e) = .fail e) :
    Guard (.call (.get kind id) next) := by
  -- A read changes nothing, and after it the guard has ended, whether it was refused or not.
  have hlast {s s' : Stored} {r : Except Error Unit}
      (h : (Pass.call (.get kind id) next).Leaves Stored.answer s r s') :
      s' = s ∧ ((∃ e, r = .error e) ∨
        (Pass.call (.get kind id) next).run Stored.answer s = (r, s)) := by
    rcases leaves_call_iff.1 h with h | ⟨reply, ⟨e, rfl⟩, h⟩
    · have hrun : (Pass.call (.get kind id) next).run Stored.answer s = (r, s') :=
        (hnext _).run_eq h
      rcases hnext (Stored.answer (.get kind id) s).1 with ⟨value, hvalue⟩ | ⟨e, he⟩
      · rw [hvalue] at h
        obtain ⟨rfl, rfl⟩ := leaves_done_iff.1 h
        exact ⟨rfl, .inr hrun⟩
      · rw [he] at h
        obtain ⟨rfl, rfl⟩ := leaves_fail_iff.1 h
        exact ⟨rfl, .inr hrun⟩
    · rw [hrefused] at h
      obtain ⟨rfl, rfl⟩ := leaves_fail_iff.1 h
      exact ⟨rfl, .inl ⟨e, rfl⟩⟩
  refine ⟨fun h => (hlast h).1, fun h => ?_⟩
  rcases (hlast h).2 with ⟨e, he⟩ | hrun
  · exact absurd he nofun
  · exact hrun

variable {α : Type} [Settle α] {own : ObjectKey → Prop} {guard : Pass Unit} {ids : α → ObjectId}
  {changes : α → kind.Object → kind.Object}

/-- Bringing an object to its state may be resumed, also behind a guard that an object in its state
passes. -/
lemma resumable_guarded (hguard : Guard guard) (hchange : ∀ v, kind.Steady (changes v))
    (hsettle : ∀ {v v'}, settle v = settle v' → ids v = ids v' ∧ changes v = changes v')
    (hown : ∀ v, own ⟨kind, (ids v).ns, (ids v).name⟩)
    (hidle : ∀ {v objects object}, Settled (ids v) (changes v) objects object →
      guard.Idle objects ()) :
    Resumable own fun v => guard >>= fun _ => createOrPatch kind (ids v) (changes v) := by
  refine Resumable.of_atomic (fun {v v' s w s'} hv hrun => ⟨w, ?_, rfl⟩)
    fun {v s r s'} htyped hleft => ?_
  · obtain ⟨hid, hsame⟩ := hsettle hv
    rw [← hid, ← hsame]
    exact hrun
  rcases leaves_bind hleft with ⟨e, hr, hfirst⟩ | ⟨_, mid, hfirst, hsecond⟩
  · exact .inl ⟨e, hr, hguard.stays hfirst⟩
  obtain rfl := hguard.stays hfirst
  obtain ⟨object, outcome, s', hrun, hsettled, hthen, hframe⟩ :=
    run_createOrPatch (ids v) (hchange v) htyped
  rcases leaves_createOrPatch hsecond with h | h
  · exact .inl h
  · obtain ⟨rfl, rfl⟩ := Prod.mk.inj (h.symm.trans hrun)
    refine .inr ⟨(object, outcome), rfl, run_bind_of_run (hguard.run hfirst) hrun, hthen, ?_, ?_⟩
    · exact fun key hkey => hframe key fun heq => hkey (heq ▸ hown v)
    -- Where the object stands as it was left, the guard lets pass and there is nothing to do.
    · intro objects hobjects
      have hagain : Settled (ids v) (changes v) objects object :=
        ⟨(hobjects _ (hown v)).trans hsettled.stored, hsettled.whole, hsettled.same⟩
      obtain ⟨hid, hsame⟩ := hsettle (settle_settle v)
      show (guard >>= fun _ => createOrPatch kind (ids (settle v)) (changes (settle v))).Idle
        objects (object, .unchanged)
      rw [hid, hsame]
      exact (hidle hagain).bind (idle_createOrPatch hagain)

theorem resumable_createOrPatch (hchange : ∀ v, kind.Steady (changes v))
    (hsettle : ∀ {v v'}, settle v = settle v' → ids v = ids v' ∧ changes v = changes v')
    (hown : ∀ v, own ⟨kind, (ids v).ns, (ids v).name⟩) :
    Resumable own fun v => createOrPatch kind (ids v) (changes v) :=
  resumable_guarded guard_done hchange hsettle hown fun _ _ _ _ _ => ⟨trivial, rfl⟩

end Pass

end PgOperator
