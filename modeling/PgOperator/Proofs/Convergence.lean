import Mathlib.Tactic.Lemma
import PgOperator.Pass.Reconcile
import PgOperator.Proofs.Members
import PgOperator.Proofs.Object

/-!
A pass over an instance converges.

The objects of a pass have different keys and are each brought to a state by a steady change, so
the pass may be resumed (`resumable_reconcile`). Hence a second pass changes nothing, and a pass
that broke off leaves no trace in what the next one brings about.
-/

namespace PgOperator

open Kube Memory Settle

namespace Pass

variable {α β γ : Type} {s s' : Stored}

lemma bind_assoc (p : Pass α) (q : α → Pass β) (r : β → Pass γ) :
    p >>= q >>= r = p >>= fun v => q v >>= r := by
  induction p with
  | done value => rfl
  | fail error => rfl
  | call c next ih => exact congrArg (Pass.call c) (funext ih)

/-! ### Passes that store nothing -/

lemma leaves_ensureNotCancelled {r : Except Error Unit}
    (h : ensureNotCancelled.Leaves Stored.answer s r s') :
    s' = s ∧ (r = .ok () ∨ ∃ e, r = .error e) := by
  rcases leaves_call_iff.1 h with h | ⟨reply, rfl, h⟩
  · obtain ⟨rfl, rfl⟩ := leaves_done_iff.1 h
    exact ⟨rfl, .inl rfl⟩
  · obtain ⟨rfl, rfl⟩ := leaves_fail_iff.1 h
    exact ⟨rfl, .inr ⟨_, rfl⟩⟩

lemma idle_ensureNotCancelled (objects : List (ObjectKey × Json)) :
    ensureNotCancelled.Idle objects () := by
  refine idle_call trivial fun m _ _ hcancelled => ⟨?_, rfl⟩
  rw [answer, hcancelled]
  rfl

lemma resumable_ensureNotCancelled :
    Resumable (fun _ => False) fun _ : Unit => ensureNotCancelled :=
  Resumable.of_storeless (fun _ => rfl) (fun _ _ => rfl) leaves_ensureNotCancelled
    fun _ objects => idle_ensureNotCancelled objects

lemma run_announce (db : Postgres) (what : String) (outcome : Outcome) (s : Stored) :
    (announce db what outcome).run Stored.answer s = (.ok (), s) := by
  unfold announce
  split <;> rfl

lemma leaves_announce {db : Postgres} {what : String} {outcome : Outcome} {r : Except Error Unit}
    (h : (announce db what outcome).Leaves Stored.answer s r s') : r = .ok () ∧ s' = s := by
  unfold announce at h
  split at h
  · rcases leaves_call_iff.1 h with h | ⟨reply, hreply, -⟩
    · exact leaves_done_iff.1 h
    · exact hreply.elim
  · exact leaves_done_iff.1 h

lemma resumable_pure [Settle α] [Settle β] {f : α → β} (hf : ∀ v, settle (f v) = f (settle v)) :
    Resumable (fun _ => False) fun v => (pure (f v) : Pass β) := by
  refine Resumable.of_storeless (fun {v v'} hv => ?_) (fun _ _ => rfl) (fun hleft => ?_)
    fun v objects m _ _ _ => ⟨trivial, ?_⟩
  · rw [hf, hf, hv]
  · obtain ⟨hr, hs⟩ := leaves_done_iff.1 hleft
    exact ⟨hs, .inl hr⟩
  · rw [hf]
    rfl

lemma resumable_announce [Settle α] (db : Postgres) (what : String) :
    Resumable (fun _ => False) fun v : α × Outcome =>
      announce db what v.2 >>= fun _ => pure v.2 := by
  refine Resumable.of_storeless (f := Prod.snd) (fun hv => congrArg Prod.snd hv) (fun v s => ?_)
    (fun {v s r s'} hleft => ?_) fun v objects m _ _ _ => ⟨trivial, rfl⟩
  · exact run_bind_of_run (run_announce db what v.2 s) rfl
  · rcases leaves_bind hleft with ⟨e, -, hfirst⟩ | ⟨_, mid, hfirst, hsecond⟩
    · exact absurd (leaves_announce hfirst).1 nofun
    · obtain ⟨-, rfl⟩ := leaves_announce hfirst
      obtain ⟨rfl, rfl⟩ := leaves_done_iff.1 hsecond
      exact ⟨rfl, .inl rfl⟩

/-! ### Services -/

abbrev serviceKey (db : Postgres) (name : String) : ObjectKey := ⟨.service, db.ns, name⟩

lemma ensureNamedService_eq (db : Postgres) (name what : String) (mutate : Service → Service) :
    ensureNamedService db name what mutate = ensureNotCancelled >>= fun _ =>
      createOrPatch .service ⟨db.ns, name⟩ mutate >>= fun v =>
        announce db what v.2 >>= fun _ => pure v.2 := rfl

lemma resumable_ensureNamedService {db : Postgres} {mutate : Service → Service}
    (h : Kind.Steady .service mutate) (name what : String) :
    Resumable (fun key => key = serviceKey db name) fun _ : Unit =>
      ensureNamedService db name what mutate := by
  have hobject : Resumable (fun key => key = serviceKey db name) fun _ : Unit =>
      createOrPatch .service ⟨db.ns, name⟩ mutate :=
    resumable_createOrPatch (fun _ => h) (fun _ => ⟨rfl, rfl⟩) fun _ => rfl
  have hthen := hobject.andThen (resumable_announce db what) fun _ _ hfalse => hfalse
  have hall := resumable_ensureNotCancelled.andThen
    (hthen.comap (f := fun _ : Unit => ()) fun _ => rfl) fun _ hfalse => hfalse.elim
  rw [ensureNamedService_eq]
  exact hall.mono fun key hkey => by simpa using hkey

lemma append_ne_self (name : String) {suffix : String} (h : suffix ≠ "") : name ++ suffix ≠ name :=
  fun heq => h ((String.append_right_inj name).1 (heq.trans String.append_empty.symm))

lemma resumable_ensureService (db : Postgres) :
    Resumable (fun key => key = serviceKey db db.name ∨ key = serviceKey db db.standbyServiceName)
      fun _ : Unit => ensureService db := by
  have hprimary : Resumable (fun key => key = serviceKey db db.name) fun _ : Unit =>
      ensurePrimaryService db :=
    resumable_ensureNamedService (db.steady_databaseService .primary) _ _
  unfold ensureService
  by_cases hfew : db.replicas ≤ 1
  · have hthen : Resumable (fun _ => False) fun primary : Outcome =>
        (if db.replicas ≤ 1 then pure primary else ensureStandbyService db >>= fun standby =>
          pure (primary.combine standby) : Pass Outcome) := by
      simp only [if_pos hfew]
      exact resumable_pure fun _ => rfl
    exact (hprimary.andThen hthen fun _ _ hfalse => hfalse).mono fun key hkey =>
      hkey.elim .inl False.elim
  · have hstandby : Resumable (fun key => key = serviceKey db db.standbyServiceName)
        fun _ : Unit => ensureStandbyService db :=
      resumable_ensureNamedService (db.steady_databaseService .standby) _ _
    have hcombine : Resumable (fun _ => False) fun v : Outcome × Outcome =>
        (pure (v.1.combine v.2) : Pass Outcome) := resumable_pure fun _ => rfl
    have hthen : Resumable (fun key => key = serviceKey db db.standbyServiceName ∨ False)
        fun primary : Outcome =>
          (if db.replicas ≤ 1 then pure primary else ensureStandbyService db >>= fun standby =>
            pure (primary.combine standby) : Pass Outcome) := by
      simp only [if_neg hfew]
      exact (hstandby.comap (f := fun _ : Outcome => ()) fun _ => rfl).seq hcombine
        fun _ _ hfalse => hfalse
    refine (hprimary.andThen hthen ?_).mono fun key hkey => ?_
    · rintro key rfl (hkey | hfalse)
      · exact append_ne_self db.name (by decide) (congrArg ObjectKey.name hkey).symm
      · exact hfalse
    · simpa using hkey

lemma resumable_ensureStatsService (db : Postgres) :
    Resumable (fun key => key = serviceKey db db.statsServiceName) fun _ : Unit =>
      ensureStatsService db := by
  have hnone : Resumable (fun key => key = serviceKey db db.statsServiceName) fun _ : Unit =>
      (ensureNotCancelled >>= fun _ => pure .unchanged : Pass Outcome) := by
    have hpure : Resumable (fun _ => False) fun _ : Unit => (pure .unchanged : Pass Outcome) :=
      resumable_pure fun _ => rfl
    exact (resumable_ensureNotCancelled.andThen hpure fun _ hfalse => hfalse.elim).mono
      fun key hkey => hkey.elim False.elim False.elim
  unfold ensureStatsService
  split
  · split
    · exact resumable_ensureNamedService (db.steady_statsService _) _ _
    · exact hnone
  · exact hnone

/-! ### The stateful set -/

variable {db : Postgres} {version : PostgresVersion} {options : Options}

abbrev setKey (db : Postgres) : ObjectKey := ⟨.statefulSet, db.ns, db.name⟩

/-- What the check makes of the stateful set that is there. -/
def checkFound (db : Postgres) : Except Error (Option StatefulSet) → Pass Unit
  | .error error => .fail error
  | .ok none => .done ()
  | .ok (some set) =>
    if ownsStatefulSet db set then .done ()
    else .fail (.namingCollision "StatefulSet" db.ns db.name)

lemma checkStatefulSet_eq (db : Postgres) :
    checkStatefulSet db = .call (.get .statefulSet ⟨db.ns, db.name⟩) (checkFound db) := by
  refine congrArg (Pass.call (.get .statefulSet ⟨db.ns, db.name⟩)) (funext fun reply => ?_)
  rcases reply with _ | _ | set <;> rfl

lemma ended_checkFound (reply : Except Error (Option StatefulSet)) :
    (checkFound db reply).Ended := by
  rcases reply with error | _ | set
  · exact .inr ⟨error, rfl⟩
  · exact .inl ⟨(), rfl⟩
  · by_cases h : ownsStatefulSet db set
    · exact .inl ⟨(), if_pos h⟩
    · exact .inr ⟨_, if_neg h⟩

lemma guard_checkStatefulSet (db : Postgres) : Guard (checkStatefulSet db) := by
  rw [checkStatefulSet_eq]
  exact guard_get ended_checkFound fun _ => rfl

lemma get?_selectors (db : Postgres) (key : String) : db.selectors.get? key =
    if Label.kind = key then some "Postgres"
    else if Label.name = key then some db.name else none := by
  have hkeys : ([(Label.kind, "Postgres"), (Label.name, db.name)].map Prod.fst).Nodup :=
    show [Label.kind, Label.name].Nodup by decide
  exact Sorted.get?_ofList hkeys key

lemma get?_labels {key value : String} (h : db.selectors.get? key = some value) :
    db.labels.get? key = some value := by
  rw [Postgres.labels, Dict.get?_extend, h]
  rfl

lemma ownsStatefulSet_of_same {set : StatefulSet} (h : db.statefulSet version options set = set) :
    ownsStatefulSet db set = true := by
  have hlabels : set.metadata.labels = some ((set.metadata.labels.getD .empty).extend db.labels) :=
    congrArg (fun set : StatefulSet => set.metadata.labels) h.symm
  have hselectors {key value : String} (hkey : db.selectors.get? key = some value) :
      (set.metadata.labels.getD .empty).get? key = some value := by
    rw [hlabels, Option.getD_some, Dict.get?_extend, get?_labels hkey]
    rfl
  exact decide_eq_true ⟨hselectors (get?_selectors db Label.kind),
    hselectors (get?_selectors db Label.name)⟩

lemma resumable_statefulSet (h : db.Unambiguous) (version : PostgresVersion) (options : Options) :
    Resumable (fun key => key = setKey db) fun _ : Unit =>
      checkStatefulSet db >>= fun _ =>
        createOrPatch .statefulSet ⟨db.ns, db.name⟩ (db.statefulSet version options) := by
  refine resumable_guarded (guard_checkStatefulSet db) (fun _ => h.steady_statefulSet)
    (fun _ => ⟨rfl, rfl⟩) (fun _ => rfl) fun {_ objects set} hsettled => ?_
  rw [checkStatefulSet_eq]
  refine idle_call trivial ?_
  rintro m rfl hfailures -
  have hfail := failure?_of_nil hfailures .statefulSet
  have hread := Record.decode_encode_of_whole (Kind.wellNamed .statefulSet) hsettled.whole
  have hget : m.get .statefulSet ⟨db.ns, db.name⟩ = .ok (some set) :=
    get_of_some hfail hsettled.stored hread
  refine ⟨?_, rfl⟩
  rw [answer, hget, checkFound, if_pos (ownsStatefulSet_of_same hsettled.same)]

/-- What a pass does after a change of the stateful set, before it goes on to the budget. -/
def settleIn (db : Postgres) (options : Options) (v : StatefulSet × Outcome) : Pass Unit :=
  if v.2.isChanged then
    awaitStatefulSet options v.1 >>= fun _ => announce db "StatefulSet" v.2 >>= fun _ =>
      ensureNotCancelled
  else ensureNotCancelled

lemma ensureStatefulSet_eq : ensureStatefulSet db version options =
    ensureNotCancelled >>= fun _ => (checkStatefulSet db >>= fun _ =>
        createOrPatch .statefulSet ⟨db.ns, db.name⟩ (db.statefulSet version options)) >>= fun v =>
      settleIn db options v >>= fun _ => ensureDisruptionBudget v.1 >>= fun _ => pure v.2 := by
  unfold ensureStatefulSet
  refine congrArg (ensureNotCancelled >>= ·) (funext fun _ => ?_)
  rw [bind_assoc]
  refine congrArg (checkStatefulSet db >>= ·) (funext fun _ => ?_)
  refine congrArg (createOrPatch _ _ _ >>= ·) (funext fun v => ?_)
  by_cases h : v.2.isChanged
  · simp only [settleIn, if_pos h, bind_assoc]
  · simp only [settleIn, if_neg h]

lemma run_awaitStatefulSet (options : Options) (set : StatefulSet) (s : Stored) :
    (awaitStatefulSet options set).run Stored.answer s = (.ok (), s) := by
  unfold awaitStatefulSet
  rw [awaitPods, run_call, Stored.answer, answer, awaitPods_stored]
  rfl

lemma leaves_awaitStatefulSet {set : StatefulSet} {r : Except Error Unit}
    (h : (awaitStatefulSet options set).Leaves Stored.answer s r s') :
    s' = s ∧ (r = .ok () ∨ ∃ e, r = .error e) := by
  rcases leaves_call_iff.1 h with h | ⟨reply, ⟨e, rfl⟩, h⟩
  · rw [Stored.answer, answer, awaitPods_stored] at h
    obtain ⟨rfl, rfl⟩ := leaves_done_iff.1 h
    exact ⟨rfl, .inl rfl⟩
  · obtain ⟨rfl, rfl⟩ := leaves_fail_iff.1 h
    exact ⟨rfl, .inr ⟨e, rfl⟩⟩

lemma run_settleIn (db : Postgres) (options : Options) (v : StatefulSet × Outcome) (s : Stored) :
    (settleIn db options v).run Stored.answer s = (.ok (), s) := by
  unfold settleIn
  split
  · exact run_bind_of_run (run_awaitStatefulSet options v.1 s)
      (run_bind_of_run (run_announce db _ _ s) rfl)
  · rfl

lemma leaves_settleIn {v : StatefulSet × Outcome} {r : Except Error Unit}
    (h : (settleIn db options v).Leaves Stored.answer s r s') :
    s' = s ∧ (r = .ok () ∨ ∃ e, r = .error e) := by
  unfold settleIn at h
  split at h
  · rcases leaves_bind h with ⟨e, rfl, hwait⟩ | ⟨_, mid, hwait, hthen⟩
    · exact ⟨(leaves_awaitStatefulSet hwait).1, .inr ⟨e, rfl⟩⟩
    obtain ⟨rfl, -⟩ := leaves_awaitStatefulSet hwait
    rcases leaves_bind hthen with ⟨e, -, htold⟩ | ⟨_, last, htold, hlast⟩
    · exact absurd (leaves_announce htold).1 nofun
    obtain ⟨-, rfl⟩ := leaves_announce htold
    exact leaves_ensureNotCancelled hlast
  · exact leaves_ensureNotCancelled h

lemma resumable_settleIn (db : Postgres) (options : Options) :
    Resumable (fun _ => False) (settleIn db options) :=
  Resumable.of_storeless (f := fun _ => ()) (fun _ => rfl) (run_settleIn db options)
    leaves_settleIn fun _ objects => idle_ensureNotCancelled objects

lemma resumable_budget : Resumable (fun key => key.kind = .disruptionBudget)
    fun v : StatefulSet × Outcome =>
      ensureDisruptionBudget v.1 >>= fun _ => (pure v.2 : Pass Outcome) := by
  have hobject : Resumable (fun key => key.kind = .disruptionBudget) fun set : StatefulSet =>
      createOrPatch .disruptionBudget ⟨set.metadata.anyNamespace, set.metadata.anyName⟩
        set.disruptionBudget :=
    resumable_createOrPatch (fun set => set.steady_disruptionBudget)
      (fun {set set'} hset => by rw [show set = set' from hset]; exact ⟨rfl, rfl⟩) fun _ => rfl
  have houtcome : Resumable (fun _ => False)
      fun v : StatefulSet × PodDisruptionBudget × Outcome => (pure v.2.2 : Pass Outcome) :=
    resumable_pure fun _ => rfl
  have hensured : Resumable (fun key => key.kind = .disruptionBudget ∨ False)
      ensureDisruptionBudget := hobject.seq houtcome fun _ _ hfalse => hfalse
  have hpure : Resumable (fun _ => False)
      fun v : (StatefulSet × Outcome) × Outcome => (pure v.1.2 : Pass Outcome) :=
    resumable_pure fun _ => rfl
  have hboth := (hensured.comap (f := Prod.fst) fun _ : StatefulSet × Outcome => rfl).seq
    (q := fun v _ => pure v.2) hpure fun _ _ hfalse => hfalse
  exact hboth.mono fun key hkey => by simpa using hkey

lemma resumable_ensureStatefulSet (h : db.Unambiguous) (version : PostgresVersion)
    (options : Options) :
    Resumable (fun key => key = setKey db ∨ key.kind = .disruptionBudget) fun _ : Unit =>
      ensureStatefulSet db version options := by
  have hafter := (resumable_settleIn db options).seq
    (q := fun v _ => ensureDisruptionBudget v.1 >>= fun _ => pure v.2)
    (resumable_budget.comap (f := Prod.fst) fun _ => rfl) fun _ hfalse => hfalse.elim
  have hset := (resumable_statefulSet h version options).andThen hafter (by
    rintro key rfl (hfalse | hkind)
    · exact hfalse
    · exact absurd hkind nofun)
  have hall := resumable_ensureNotCancelled.andThen
    (hset.comap (f := fun _ : Unit => ()) fun _ => rfl) fun _ hfalse => hfalse.elim
  rw [ensureStatefulSet_eq]
  exact hall.mono fun key hkey => by simpa using hkey

/-! ### The whole pass -/

lemma serviceKey_ne {n m : String} (h : n ≠ m) :
    serviceKey db (db.name ++ n) ≠ serviceKey db (db.name ++ m) := fun heq =>
  h ((String.append_right_inj db.name).1 (congrArg ObjectKey.name heq))

lemma serviceKey_ne_self {suffix : String} (h : suffix ≠ "") :
    serviceKey db (db.name ++ suffix) ≠ serviceKey db db.name := fun heq =>
  append_ne_self db.name h (congrArg ObjectKey.name heq)

abbrev workloadKey (db : Postgres) (key : ObjectKey) : Prop :=
  key = setKey db ∨ key.kind = .disruptionBudget

lemma serviceKey_not_workload (name : String) : ¬ workloadKey db (serviceKey db name) := by
  rintro (hkey | hkey)
  · exact absurd (congrArg ObjectKey.kind hkey) nofun
  · exact absurd hkey nofun

lemma stats_disjoint (key : ObjectKey) (h : key = serviceKey db db.statsServiceName) :
    ¬ workloadKey db key := h ▸ serviceKey_not_workload _

lemma members_disjoint (key : ObjectKey)
    (h : key = serviceKey db db.name ∨ key = serviceKey db db.standbyServiceName) :
    ¬ (key = serviceKey db db.statsServiceName ∨ workloadKey db key) := by
  rcases h with rfl | rfl <;> rintro (hkey | hkey)
  · exact serviceKey_ne_self (by decide) hkey.symm
  · exact serviceKey_not_workload _ hkey
  · exact serviceKey_ne (by decide) hkey
  · exact serviceKey_not_workload _ hkey

lemma governing_disjoint (key : ObjectKey) (h : key = serviceKey db db.governingServiceName) :
    ¬ ((key = serviceKey db db.name ∨ key = serviceKey db db.standbyServiceName) ∨
      key = serviceKey db db.statsServiceName ∨ workloadKey db key) := by
  subst h
  rintro ((hkey | hkey) | hkey | hkey)
  · exact serviceKey_ne_self (by decide) hkey
  · exact serviceKey_ne (by decide) hkey
  · exact serviceKey_ne (by decide) hkey
  · exact serviceKey_not_workload _ hkey

lemma kind_or_workload {key : ObjectKey} (h : key = serviceKey db db.governingServiceName ∨
    (key = serviceKey db db.name ∨ key = serviceKey db db.standbyServiceName) ∨
      key = serviceKey db db.statsServiceName ∨ workloadKey db key) :
    key.kind = .service ∨ workloadKey db key := by
  rcases h with rfl | (rfl | rfl) | rfl | hkey
  · exact .inl rfl
  · exact .inl rfl
  · exact .inl rfl
  · exact .inl rfl
  · exact .inr hkey

/-- **A pass may be resumed** wherever it broke off. -/
theorem resumable_reconcile (h : db.Unambiguous) (version : PostgresVersion) (options : Options) :
    Resumable (fun key => key.kind = .service ∨ key = setKey db ∨ key.kind = .disruptionBudget)
      fun _ : Unit => reconcile db version options := by
  have hstats := (resumable_ensureStatsService db).andThen
    ((resumable_ensureStatefulSet h version options).comap (f := fun _ : Outcome => ())
      fun _ => rfl) stats_disjoint
  have hservice := (resumable_ensureService db).andThen
    (hstats.comap (f := fun _ : Outcome => ()) fun _ => rfl) members_disjoint
  have hgoverning : Resumable (fun key => key = serviceKey db db.governingServiceName)
      fun _ : Unit => ensureGoverningService db :=
    resumable_ensureNamedService db.steady_governingService _ _
  have hall := hgoverning.andThen (hservice.comap (f := fun _ : Outcome => ()) fun _ => rfl)
    governing_disjoint
  exact hall.mono fun key => kind_or_workload

/-- **A second pass changes nothing**: once a pass has ended, the next one over the same instance
only reads, reports that nothing has been changed and leaves the control plane as it was. -/
theorem reconcile_again (h : db.Unambiguous) {m m' again : Memory} {outcome : Outcome}
    (htyped : Typed m.objects)
    (hrun : (reconcile db version options).run Memory.answer m = (.ok outcome, m'))
    (hobjects : again.objects = m'.objects) (hfailures : again.failures = [])
    (hcancelled : again.cancelled = false) :
    (reconcile db version options).OnlyReads Memory.answer again ∧
      (reconcile db version options).run Memory.answer again = (.ok .unchanged, again) := by
  have hleft := leaves_stored (leaves_of_run hrun)
  have hrest := (resumable_reconcile h version options).rest (v := ()) htyped hleft m'.objects
    fun _ _ => rfl
  exact hrest again hobjects hfailures hcancelled

/-- An instance of which the user runs a container of their own before the database. -/
def migrated : Postgres where
  metadata := { name := some "db", ns := some "demo" }
  spec := { podTemplate := { spec := { initContainers := [{
    name := "migrate"
    env := some [{ name := "MODE", value := some "up" }]
    ports := some [{ containerPort := 5000 }] }] } } }

lemma unambiguous_migrated : migrated.Unambiguous where
  initNames := List.pairwise_singleton _ _
  initParts c hc := by
    obtain rfl := List.mem_singleton.1 hc
    refine ⟨?_, fun mounts h => absurd h nofun, ?_⟩
    · intro env henv
      obtain rfl := Option.some.inj henv
      exact List.pairwise_singleton _ _
    · intro ports hports
      obtain rfl := Option.some.inj hports
      exact List.pairwise_singleton _ _
  exporterEnv _ h := absurd h nofun

theorem reconcile_again_created : ∃ m,
    (reconcile migrated {} {}).run answer {} = (.ok .created, m) ∧
    (reconcile migrated {} {}).OnlyReads answer m ∧
    (reconcile migrated {} {}).run answer m = (.ok .unchanged, m) := by
  obtain ⟨m, hrun, hfailures, hcancelled⟩ : ∃ m : Memory,
      (reconcile migrated {} {}).run answer {} = (.ok .created, m) ∧ m.failures = [] ∧
        m.cancelled = false := ⟨_, rfl, rfl, rfl⟩
  exact ⟨m, hrun, reconcile_again unambiguous_migrated typed_nil hrun rfl hfailures hcancelled⟩

/-- **A pass that broke off leaves no trace**: whatever calls of a first pass are refused, and
wherever it is cancelled, once a later pass has ended there is stored what a single pass over the
original objects stores, uids and resource versions included; that pass ends as well if it is not
refused anything. -/
theorem reconcile_resumed (h : db.Unambiguous) {original broken later final single : Memory}
    {first : Except Error Outcome} {outcome : Outcome} (htyped : Typed original.objects)
    (hfirst : (reconcile db version options).Leaves Memory.answer original first broken)
    (hlater : later.stored = broken.stored)
    (hrun : (reconcile db version options).run Memory.answer later = (.ok outcome, final))
    (hsingle : single.stored = original.stored) :
    (single.FailureFree → ∃ outcome, ((reconcile db version options).run Memory.answer single).1 =
      .ok outcome) ∧
    ∀ outcome last, (reconcile db version options).run Memory.answer single = (.ok outcome, last) →
      last.stored = final.stored := by
  have hresumable := resumable_reconcile h version options
  -- Only what is stored matters to a later pass, so refusals are calls that did nothing.
  have hbroken : Typed broken.stored.objects :=
    hresumable.typed (v := ()) htyped (leaves_stored hfirst)
  have hsecond := leaves_stored (leaves_of_run hrun)
  rw [hlater] at hsecond
  have hthen := hresumable.complete (v := ()) hbroken hsecond
  -- Where nothing is refused, one run on what was stored at first comes to the same end.
  obtain ⟨w, hwhole⟩ : ∃ w, (reconcile db version options).run Stored.answer original.stored =
      (.ok w, final.stored) := by
    cases first with
    | error e =>
      obtain ⟨w, hwhole, -⟩ :=
        hresumable.resume (v := ()) htyped (leaves_stored hfirst) hthen
      exact ⟨w, hwhole⟩
    | ok w =>
      have hidle := hresumable.rest (v := ()) htyped (leaves_stored hfirst) broken.stored.objects
        fun _ _ => rfl
      have hsame := hthen.symm.trans hidle.run_stored
      rw [(Prod.mk.inj hsame).2]
      exact ⟨w, hresumable.complete (v := ()) htyped (leaves_stored hfirst)⟩
  refine ⟨fun hfree => ⟨w, ?_⟩, fun outcome last hlast => ?_⟩
  · rw [(hfree.run _).1, hsingle, hwhole]
  · have hleft := leaves_stored (leaves_of_run hlast)
    rw [hsingle] at hleft
    exact (Prod.mk.inj ((hresumable.complete (v := ()) htyped hleft).symm.trans hwhole)).2

/-- The stateful set is written, but none of its pods gets to run; in the next pass they do. -/
theorem reconcile_resumed_unready : ∃ error broken final,
    (reconcile migrated {} {}).run answer { running := some 0 } = (.error error, broken) ∧
    (reconcile migrated {} {}).run answer broken.stored.memory = (.ok .unchanged, final) ∧
    (∃ outcome, ((reconcile migrated {} {}).run answer {}).1 = .ok outcome) ∧
    ∀ outcome last, (reconcile migrated {} {}).run answer {} = (.ok outcome, last) →
      last.stored = final.stored := by
  obtain ⟨error, broken, final, hfirst, hrun⟩ : ∃ error broken final,
      (reconcile migrated {} {}).run answer { running := some 0 } = (.error error, broken) ∧
      (reconcile migrated {} {}).run answer broken.stored.memory = (.ok .unchanged, final) :=
    ⟨_, _, _, rfl, rfl⟩
  have hlater : broken.stored.memory.stored = broken.stored := rfl
  have hsingle : ({} : Memory).stored = ({ running := some 0 } : Memory).stored := rfl
  obtain ⟨hends, hsame⟩ := reconcile_resumed unambiguous_migrated typed_nil (leaves_of_run hfirst)
    hlater hrun hsingle
  exact ⟨error, broken, final, hfirst, hrun,
    hends ⟨rfl, rfl, fun count => Int32.le_refl count⟩, hsame⟩

end Pass

end PgOperator
