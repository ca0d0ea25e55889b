import Mathlib.Tactic.Lemma
import PgOperator.Proofs.Footprint

/-!
Two instances side by side.

The services of an instance are named after it, so two instances of one namespace share a service
exactly where one of them is named like a service of the other (`Postgres.exists_shared_iff`).
Nothing looks at whose service is there before it is written: the two instances take it from each
other, pass after pass. Otherwise they do not come near each other (`reconcile_neighbours`).

What a pass finds to do is read off the objects that are stored: it writes nothing if and only if
each of its steps rests (`written_reconcile_eq_nil_iff`).
-/

namespace PgOperator

open Kube Memory Pass

/-! ### Shared names -/

namespace Postgres

/-- The instance is named like a service of the other one. -/
def NamedAsService (db other : Postgres) : Prop :=
  db.ns = other.ns ∧ ∃ suffix ∈ other.suffixes, suffix ≠ "" ∧ db.name = other.name ++ suffix

/-- One of the instances is named like a service of the other one. -/
def Meets (first second : Postgres) : Prop :=
  first.NamedAsService second ∨ second.NamedAsService first

instance (db other : Postgres) : Decidable (db.NamedAsService other) :=
  inferInstanceAs (Decidable (_ ∧ _))

instance (first second : Postgres) : Decidable (first.Meets second) :=
  inferInstanceAs (Decidable (_ ∨ _))

variable {db first second : Postgres}

lemma mem_suffixes_empty (db : Postgres) : "" ∈ db.suffixes :=
  List.mem_append_left _ (List.mem_append_left _ (List.mem_cons_of_mem _ List.mem_cons_self))

lemma suffix_eq_or_empty {s t n m : String} (hs : s ∈ first.suffixes) (ht : t ∈ second.suffixes)
    (h : n ++ s = m ++ t) : s = t ∨ s = "" ∨ t = "" := by
  have hends : s.toList <:+ t.toList ∨ t.toList <:+ s.toList := by
    have hlist := congrArg String.toList h
    rw [String.toList_append, String.toList_append] at hlist
    rcases List.append_eq_append_iff.1 hlist with ⟨rest, -, hrest⟩ | ⟨rest, -, hrest⟩
    · exact .inr ⟨rest, hrest.symm⟩
    · exact .inl ⟨rest, hrest.symm⟩
  have hall : ∀ s ∈ ["-pods", "", "-standby", "-stats"], ∀ t ∈ ["-pods", "", "-standby", "-stats"],
      (s.toList <:+ t.toList ∨ t.toList <:+ s.toList) → s = t ∨ s = "" ∨ t = "" := by
    decide +kernel
  exact hall s (first.sublist_suffixes.subset hs) t (second.sublist_suffixes.subset ht) hends

abbrev serviceKeys (db : Postgres) : List ObjectKey := db.serviceParts.map Part.key

lemma serviceKeys_subset : db.serviceKeys ⊆ db.keys := by
  rw [keys, parts, List.map_append]
  exact List.subset_append_left _ _

lemma Meets.exists_service (h : first.Meets second) : first.ns = second.ns ∧
    ∃ key ∈ first.serviceKeys, key ∈ second.serviceKeys := by
  have hshared {s t : String} (hs : s ∈ first.suffixes) (ht : t ∈ second.suffixes)
      (hns : first.ns = second.ns) (hname : first.name ++ s = second.name ++ t) :
      ∃ key ∈ first.serviceKeys, key ∈ second.serviceKeys := by
    rw [serviceKeys, serviceKeys, map_serviceParts, map_serviceParts]
    refine ⟨serviceKey first (first.name ++ s), List.mem_map_of_mem hs, ?_⟩
    rw [serviceKey, hns, hname]
    exact List.mem_map_of_mem ht
  rcases h with ⟨hns, t, ht, -, hname⟩ | ⟨hns, s, hs, -, hname⟩
  · exact ⟨hns, hshared first.mem_suffixes_empty ht hns (String.append_empty.trans hname)⟩
  · exact ⟨hns.symm, hshared hs second.mem_suffixes_empty hns.symm
      (hname.symm.trans String.append_empty.symm)⟩

/-- **Two instances share an object** if and only if they meet. -/
theorem exists_shared_iff (hne : ¬ (first.ns = second.ns ∧ first.name = second.name)) :
    (∃ key ∈ first.keys, key ∈ second.keys) ↔ first.Meets second := by
  have hworkload {kind kind' : Kind} (hkey : (⟨kind, first.ns, first.name⟩ : ObjectKey) =
      ⟨kind', second.ns, second.name⟩) : False :=
    hne ⟨congrArg ObjectKey.ns hkey, congrArg ObjectKey.name hkey⟩
  constructor
  · simp only [keys_eq, List.mem_append, List.mem_map, List.mem_cons, List.not_mem_nil, or_false]
    -- Two services share a key only where one of them has no suffix; other objects never do.
    rintro ⟨key, ⟨s, hs, rfl⟩ | rfl | rfl, ⟨t, ht, hkey⟩ | hkey | hkey⟩
    · obtain ⟨-, hns, hname⟩ := ObjectKey.mk.inj hkey
      rcases suffix_eq_or_empty hs ht hname.symm with rfl | rfl | rfl
      · exact absurd ⟨hns.symm, (String.append_left_inj s).1 hname.symm⟩ hne
      · rw [String.append_empty] at hname
        refine .inl ⟨hns.symm, t, ht, ?_, hname.symm⟩
        rintro rfl
        exact hne ⟨hns.symm, hname.symm.trans String.append_empty⟩
      · rw [String.append_empty] at hname
        refine .inr ⟨hns, s, hs, ?_, hname⟩
        rintro rfl
        exact hne ⟨hns.symm, (hname.trans String.append_empty).symm⟩
    · exact absurd (congrArg ObjectKey.kind hkey) nofun
    · exact absurd (congrArg ObjectKey.kind hkey) nofun
    · exact absurd (congrArg ObjectKey.kind hkey) nofun
    · exact (hworkload hkey).elim
    · exact (hworkload hkey).elim
    · exact absurd (congrArg ObjectKey.kind hkey) nofun
    · exact (hworkload hkey).elim
    · exact (hworkload hkey).elim
  · intro h
    obtain ⟨-, key, hkey, hshared⟩ := h.exists_service
    exact ⟨key, serviceKeys_subset hkey, serviceKeys_subset hshared⟩

end Postgres

/-! ### Steps that rest -/

/-- There is nothing to do for the step: an object is stored that its change leaves alone. -/
def Step.Rests (step : Step) (objects : List (ObjectKey × Json)) : Prop :=
  ∃ object, Settled step.id step.change objects object

lemma Step.Rests.of_lookup_eq {step : Step} {objects others : List (ObjectKey × Json)}
    (h : step.Rests objects) (heq : lookup others step.key = lookup objects step.key) :
    step.Rests others := by
  obtain ⟨object, hobject⟩ := h
  exact ⟨object, heq.trans hobject.stored, hobject.whole, hobject.same⟩

lemma Step.unchanged_iff_rests (step : Step) {m after : Memory} {object : step.kind.Object}
    {outcome : Outcome} (h : Effect step.kind step.id step.change m object outcome after)
    (hchange : step.kind.Proper step.change) (htyped : Typed m.objects) :
    outcome = .unchanged ↔ step.Rests m.objects := by
  rw [h.unchanged_iff]
  constructor
  · rintro ⟨doc, current, hget, hread, hsame⟩
    obtain ⟨live, hlive, rfl⟩ := htyped.exists_contains hget
    obtain rfl := Option.some.inj (hlive.read.symm.trans hread)
    exact ⟨live, hlive.stored, hlive.whole,
      Record.eq_of_encode_eq step.kind.wellNamed (hchange.whole hlive.whole) hlive.whole hsame⟩
  · rintro ⟨live, hstored, hwhole, hsame⟩
    exact ⟨_, live, hstored, Record.decode_encode_of_whole step.kind.wellNamed hwhole,
      congrArg Record.encode hsame⟩

lemma Memory.Effect.eq_of_unchanged {kind : Kind} {id : ObjectId}
    {change : kind.Object → kind.Object} {m after : Memory} {object : kind.Object}
    (h : Effect kind id change m object .unchanged after) : after = m := by
  cases h
  rfl

namespace Carried

variable {steps : List Step} {m last : Memory} {keys : List ObjectKey}

lemma lookup_eq_of_rests (h : Carried steps m keys last) (htyped : Typed m.objects)
    (hchange : ∀ step ∈ steps, step.kind.Proper step.change)
    (hkeys : (steps.map fun step => step.key).Nodup) :
    ∀ step ∈ steps, step.Rests m.objects →
      lookup last.objects step.key = lookup m.objects step.key := by
  induction h with
  | nil => exact nofun
  | @cons step rest m mid last object outcome keys heffect hrest ih =>
    obtain ⟨hfirst, hothers⟩ := List.forall_mem_cons.1 hchange
    obtain ⟨hhead, htail⟩ := List.nodup_cons.1 hkeys
    refine List.forall_mem_cons.2 ⟨fun hrests => ?_, fun other hother hrests => ?_⟩
    · obtain rfl := (step.unchanged_iff_rests heffect hfirst htyped).2 hrests
      obtain rfl := heffect.eq_of_unchanged
      exact hrest.lookup_eq hhead
    · have hsame := heffect.lookup_eq (ne_of_mem_of_not_mem (List.mem_map_of_mem hother) hhead)
      exact (ih (heffect.typed htyped) hothers htail other hother
        (hrests.of_lookup_eq hsame)).trans hsame

/-- **Nothing is written** exactly where all steps rest. -/
theorem keys_eq_nil_iff (h : Carried steps m keys last) (htyped : Typed m.objects)
    (hchange : ∀ step ∈ steps, step.kind.Proper step.change) :
    keys = [] ↔ ∀ step ∈ steps, step.Rests m.objects := by
  induction h with
  | nil => exact iff_of_true rfl nofun
  | @cons step rest m mid last object outcome keys heffect hrest ih =>
    obtain ⟨hfirst, hothers⟩ := List.forall_mem_cons.1 hchange
    rw [List.forall_mem_cons, ← step.unchanged_iff_rests heffect hfirst htyped]
    by_cases hchanged : outcome.isChanged
    · rw [if_pos hchanged]
      refine iff_of_false (List.cons_ne_nil _ _) fun hrests => ?_
      rw [hrests.1] at hchanged
      exact absurd hchanged nofun
    · obtain rfl : outcome = .unchanged := by simpa [Outcome.isChanged] using hchanged
      obtain rfl := heffect.eq_of_unchanged
      rw [if_neg hchanged, List.nil_append, ih htyped hothers, step.told_of_not_changed hchanged]
      exact (and_iff_right rfl).symm

end Carried

/-! ### Passes that are not disturbed -/

/-- No call is made to fail, and the pass is not cancelled. -/
structure Memory.Quiet (m : Memory) : Prop where
  failures : m.failures = []
  cancelled : m.cancelled = false

lemma Memory.Effect.quiet {kind : Kind} {id : ObjectId} {change : kind.Object → kind.Object}
    {m after : Memory} {object : kind.Object} {outcome : Outcome}
    (h : Effect kind id change m object outcome after) (hquiet : m.Quiet) : after.Quiet := by
  cases h with
  | unchanged => exact hquiet
  | created | patched => exact ⟨hquiet.failures, hquiet.cancelled⟩

namespace Pass

variable {α β : Type} {p : Pass α} {q : α → Pass β}

/-- Where nothing disturbs the pass, it ends well. -/
def Proceeds (p : Pass α) : Prop := ∀ m : Memory, Typed m.objects → m.Quiet →
  ∃ value last, p.run Memory.answer m = (.ok value, last) ∧ Typed last.objects ∧ last.Quiet

lemma Proceeds.bind (hp : Proceeds p) (hq : ∀ value, Proceeds (q value)) :
    Proceeds (p >>= q) := by
  intro m htyped hquiet
  obtain ⟨value, mid, hfirst, hmid, hstill⟩ := hp m htyped hquiet
  obtain ⟨w, last, hrest, hlast⟩ := hq value mid hmid hstill
  exact ⟨w, last, run_bind_of_run hfirst hrest, hlast⟩

lemma proceeds_pure (value : α) : Proceeds (pure value : Pass α) :=
  fun m htyped hquiet => ⟨value, m, rfl, htyped, hquiet⟩

lemma proceeds_ensureNotCancelled : Proceeds ensureNotCancelled :=
  fun m htyped hquiet => ⟨(), m, run_ensureNotCancelled hquiet.cancelled, htyped, hquiet⟩

lemma proceeds_announce (db : Postgres) (what : String) (outcome : Outcome) :
    Proceeds (announce db what outcome) := by
  unfold announce
  split
  · exact fun m htyped hquiet => ⟨(), _, rfl, htyped, hquiet.failures, hquiet.cancelled⟩
  · exact proceeds_pure ()

variable {kind : Kind} {change : kind.Object → kind.Object}

lemma proceeds_createOrPatch (id : ObjectId) (hchange : kind.Proper change) :
    Proceeds (createOrPatch kind id change) := by
  intro m htyped hquiet
  obtain ⟨object, outcome, after, hrun, heffect⟩ :=
    exists_effect id hchange.identity htyped (failure?_of_nil hquiet.failures kind)
  exact ⟨_, after, hrun, heffect.typed htyped, heffect.quiet hquiet⟩

variable {db : Postgres} {version : PostgresVersion} {options : Options}

lemma closed_proceeds : Closed Proceeds where
  of_pure := proceeds_pure
  bind := Proceeds.bind
  looked := proceeds_ensureNotCancelled
  told := proceeds_announce

lemma proceeds_ensureServices (db : Postgres) : Proceeds (ensureServices db) :=
  closed_proceeds.ensureServices (fun id _ h => proceeds_createOrPatch id h.proper) db

/-- Where the stateful set is the instance's own, the pass over it ends well, unless there is
something to do for it: then its pods may not get to run. -/
lemma ensureStatefulSet_proceeds {m : Memory} {set : StatefulSet} (htyped : Typed m.objects)
    (hquiet : m.Quiet) (hset : Contains m.objects .statefulSet ⟨db.ns, db.name⟩ set)
    (howned : ownsStatefulSet db set) :
    (∃ outcome last, (ensureStatefulSet db version options).run Memory.answer m =
      (.ok outcome, last)) ∨
    written ((ensureStatefulSet db version options).trace Memory.answer m) ≠ [] ∧
      ¬ (db.setStep version options).Rests m.objects := by
  have hfail := failure?_of_nil hquiet.failures .statefulSet
  have hlooked := run_ensureNotCancelled hquiet.cancelled
  have hchecked := run_checkStatefulSet (get_of_some hfail hset.stored hset.read)
  rw [if_pos howned] at hchecked
  have hproper : Kind.Proper .statefulSet (db.statefulSet version options) :=
    Postgres.proper_statefulSet
  obtain ⟨object, outcome, after, hrun, heffect⟩ :=
    exists_effect ⟨db.ns, db.name⟩ hproper.identity htyped hfail
  have hset' : (checkStatefulSet db >>= fun _ => createOrPatch .statefulSet ⟨db.ns, db.name⟩
      (db.statefulSet version options)).run Memory.answer m = (.ok (object, outcome), after) :=
    run_bind_of_run hchecked hrun
  have hrests := (db.setStep version options).unchanged_iff_rests heffect hproper htyped
  rw [ensureStatefulSet_eq]
  -- Only after a change pods are waited for, so that without one every call is answered.
  by_cases hchanged : outcome.isChanged
  · have hne : outcome ≠ .unchanged := by simpa [Outcome.isChanged] using hchanged
    refine .inr ⟨?_, fun h => hne (hrests.2 h)⟩
    rw [written_bind hlooked, written_bind hset', written_bind hchecked,
      written_createOrPatch _ hproper.identity.name, hrun, outcomeKeys, if_pos hchanged]
    simp
  · left
    have hquiet' := heffect.quiet hquiet
    have hsettled : (settleIn db options (object, outcome)).run Memory.answer after =
        (.ok (), after) := by
      rw [settleIn, if_neg hchanged]
      exact run_ensureNotCancelled hquiet'.cancelled
    have hbudget : Proceeds (ensureDisruptionBudget object) :=
      closed_proceeds.ensureDisruptionBudget object fun id =>
        proceeds_createOrPatch id object.steady_disruptionBudget.proper
    obtain ⟨_, last, hlast, -⟩ := hbudget after (heffect.typed htyped) hquiet'
    exact ⟨outcome, last, run_bind_of_run hlooked (run_bind_of_run hset'
      (run_bind_of_run hsettled (run_bind_of_run hlast rfl)))⟩

/-- **Nothing is written** over a stateful set of the instance's own exactly where every step
rests. -/
theorem written_reconcile_eq_nil_iff {m : Memory} {set : StatefulSet} (htyped : Typed m.objects)
    (hquiet : m.Quiet) (hset : Contains m.objects .statefulSet ⟨db.ns, db.name⟩ set)
    (howned : ownsStatefulSet db set) :
    written ((reconcile db version options).trace Memory.answer m) = [] ↔
      ∀ step ∈ db.steps version options set, step.Rests m.objects := by
  obtain ⟨_, mid, hservices, hmid, hstill⟩ := proceeds_ensureServices db m htyped hquiet
  have hframe : lookup mid.objects (setKey db) = lookup m.objects (setKey db) :=
    (carries_ensureServices db _ _ _ htyped hservices).lookup_eq db.setKey_not_mem_serviceSteps
  -- A pass that may break off in its wait has written the stateful set before.
  rcases ensureStatefulSet_proceeds hmid hstill (hset.of_lookup_eq hframe) howned with
    ⟨outcome, last, hrun⟩ | ⟨hwritten, hrests⟩
  · have hwhole : (reconcile db version options).run Memory.answer m = (.ok outcome, last) := by
      rw [reconcile_eq]
      exact run_bind_of_run hservices hrun
    obtain ⟨found, hfound, -, hcarried⟩ := carried_reconcile htyped hwhole
    have hproper := db.proper_steps version options found
    have hsame (h : (db.setStep version options).Rests m.objects) : found = set :=
      hfound.unique (hset.of_lookup_eq (hcarried.lookup_eq_of_rests htyped hproper
        (db.nodup_steps version options found) _ Postgres.setStep_mem h))
    rw [hcarried.keys_eq_nil_iff htyped hproper]
    constructor
    · intro h
      exact hsame (h _ Postgres.setStep_mem) ▸ h
    · intro h
      exact hsame (h _ Postgres.setStep_mem) ▸ h
  · refine iff_of_false (fun hnil => hwritten ?_) fun h =>
      hrests ((h _ Postgres.setStep_mem).of_lookup_eq hframe)
    rw [reconcile_eq, written_bind hservices] at hnil
    exact (List.append_eq_nil_iff.1 hnil).2

lemma Strict.written_eq_nil (hp : p.Strict) {m : Memory}
    (h : written (p.trace Stored.answer m.stored) = []) :
    written (p.trace Memory.answer m) = [] := by
  induction p generalizing m with
  | done | fail => rfl
  | call c next ih =>
    rw [trace, ← List.singleton_append, written_append, List.append_eq_nil_iff] at h ⊢
    rcases answer_stored c m with ⟨hreply, hstored⟩ | ⟨hrefused, -⟩
    · rw [← hreply, ← hstored] at h
      exact ⟨h.1, ih _ (hp _).2 h.2⟩
    · obtain ⟨error, herror⟩ := hrefused.exists_error
      have hnone : (⟨c, (Memory.answer c m).1⟩ : Exchange).written? = none :=
        Exchange.written?_of_error herror
      rw [written_singleton, hnone, (hp _).1 error herror]
      exact ⟨rfl, rfl⟩

lemma written_reconcile_of_rests {m : Memory} {set : StatefulSet} (htyped : Typed m.objects)
    (hset : Contains m.objects .statefulSet ⟨db.ns, db.name⟩ set) (howned : ownsStatefulSet db set)
    (h : ∀ step ∈ db.steps version options set, step.Rests m.objects) :
    written ((reconcile db version options).trace Memory.answer m) = [] := by
  have hfree : m.stored.memory.FailureFree := ⟨rfl, rfl, fun count => Int32.le_refl count⟩
  have hquiet : m.stored.memory.Quiet := ⟨rfl, rfl⟩
  have hsame : Typed m.stored.memory.objects := htyped
  have hnil := (written_reconcile_eq_nil_iff hsame hquiet hset howned).2 h
  rw [trace_of_failureFree hfree] at hnil
  exact (strict_reconcile db version options).written_eq_nil hnil

end Pass

/-! ### Two instances -/

namespace Postgres

variable {db other first second : Postgres} {objects others : List (ObjectKey × Json)}
  {key : ObjectKey}

/-- Under the key stands an object that is marked as the instance's. -/
def Has (db : Postgres) (objects : List (ObjectKey × Json)) (key : ObjectKey) : Prop :=
  ∃ object : key.kind.Object, Contains objects key.kind ⟨key.ns, key.name⟩ object ∧
    db.Marks (key.kind.metadata object)

lemma Has.of_lookup_eq (h : db.Has objects key) (heq : lookup others key = lookup objects key) :
    db.Has others key := by
  obtain ⟨object, hobject, hmarks⟩ := h
  exact ⟨object, hobject.of_lookup_eq heq, hmarks⟩

lemma Has.name_eq (h : db.Has objects key) (hother : other.Has objects key) :
    db.name = other.name := by
  obtain ⟨object, hobject, hmarks⟩ := h
  obtain ⟨found, hfound, hothers⟩ := hother
  obtain rfl := hobject.unique hfound
  exact Option.some.inj (hmarks.name.symm.trans hothers.name)

lemma Marks.owns {set : StatefulSet} (h : db.Marks set.metadata) : ownsStatefulSet db set :=
  decide_eq_true ⟨h.kind, h.name⟩

lemma has_services {version : PostgresVersion} {options : Options} {m last : Memory}
    {outcome : Outcome} (htyped : Typed m.objects)
    (h : (reconcile db version options).run Memory.answer m = (.ok outcome, last)) :
    ∀ key ∈ db.serviceKeys, db.Has last.objects key := by
  intro key hkey
  obtain ⟨part, hpart, rfl⟩ := List.mem_map.1 hkey
  exact marks_reconcile htyped h part (List.mem_append_left _ hpart)

lemma has_of_rests (h : ∀ step ∈ db.serviceSteps, step.Rests objects) :
    ∀ key ∈ db.serviceKeys, db.Has objects key := by
  intro key hkey
  rw [serviceKeys, ← map_serviceSteps, List.map_map] at hkey
  obtain ⟨step, hstep, rfl⟩ := List.mem_map.1 hkey
  obtain ⟨object, hobject⟩ := h step hstep
  refine ⟨object, ⟨hobject.stored, hobject.whole⟩, ?_⟩
  have hmarks := db.marks_serviceSteps step hstep object
  rw [hobject.same] at hmarks
  exact hmarks

lemma setKey_not_mem_keys (hne : ¬ (first.ns = second.ns ∧ first.name = second.name)) :
    setKey first ∉ second.keys := by
  simp only [keys_eq, List.mem_append, List.mem_map, List.mem_cons, List.not_mem_nil, or_false]
  rintro (⟨s, -, hkey⟩ | hkey | hkey)
  · exact absurd (congrArg ObjectKey.kind hkey) nofun
  · exact hne ⟨congrArg ObjectKey.ns hkey, congrArg ObjectKey.name hkey⟩
  · exact absurd (congrArg ObjectKey.kind hkey) nofun

end Postgres

namespace Pass

variable {db first second : Postgres} {version version' : PostgresVersion}
  {options options' : Options}

lemma exists_own_set {m last : Memory} {outcome : Outcome} (hname : db.name ≠ "")
    (htyped : Typed m.objects) (hplaced : db.Placed m.objects)
    (h : (reconcile db version options).run Memory.answer m = (.ok outcome, last)) :
    ∃ set, Contains last.objects .statefulSet ⟨db.ns, db.name⟩ set ∧ ownsStatefulSet db set ∧
      (db.steps version options set).map (fun step => step.key) = db.keys := by
  obtain ⟨set, hset, hkey, -⟩ := carried_reconcile htyped h
  obtain ⟨object, hobject, hmarks⟩ := marks_reconcile htyped h db.setPart
    (List.mem_append_right _ (List.mem_singleton_self _))
  obtain rfl := hset.unique hobject
  exact ⟨set, hset, hmarks.owns, map_key_steps version options hname (hkey hplaced)⟩

lemma steady_steps (h : db.Unambiguous) (version : PostgresVersion) (options : Options)
    (set : StatefulSet) :
    ∀ step ∈ db.steps version options set, step.kind.Steady step.change :=
  List.forall_mem_append.2 ⟨db.steady_serviceSteps, List.forall_mem_cons.2
    ⟨h.steady_statefulSet, List.forall_mem_singleton.2 set.steady_disruptionBudget⟩⟩

/-- After a pass over an instance that can be told apart every step rests. -/
lemma rests_of_run {m last : Memory} {outcome : Outcome} {set : StatefulSet} (h : db.Unambiguous)
    (htyped : Typed m.objects)
    (hrun : (reconcile db version options).run Memory.answer m = (.ok outcome, last))
    (hset : Contains last.objects .statefulSet ⟨db.ns, db.name⟩ set) :
    ∀ step ∈ db.steps version options set, step.Rests last.objects := by
  obtain ⟨found, hfound, -, hholds⟩ := reconcile_holds htyped hrun
  obtain rfl := hfound.unique hset
  intro step hstep
  obtain ⟨object, hobject, hmade⟩ := hholds step hstep
  exact ⟨object, hobject.stored, hobject.whole,
    hmade.same (steady_steps h version options found step hstep)⟩

/-- **Two instances disturb each other exactly where one of them is named like a service of the
other one**, where each stateful set that is there says itself that it is there: the pass over the
second instance then writes an object of the first one, and the next pass over the first one finds
something to do. Otherwise the latter does what it would have done at once, which is nothing for an
instance that can be told apart, even where its calls fail. -/
theorem reconcile_neighbours (hfirst : first.name ≠ "") (hsecond : second.name ≠ "")
    (hne : ¬ (first.ns = second.ns ∧ first.name = second.name)) {m mid between last : Memory}
    (htyped : Typed m.objects) (hplaced : first.Placed m.objects)
    (hothers : second.Placed m.objects) {outcome outcome' : Outcome}
    (hrun : (reconcile first version options).run Memory.answer m = (.ok outcome, mid))
    (hbetween : between.objects = mid.objects)
    (hthen : (reconcile second version' options').run Memory.answer between =
      (.ok outcome', last)) :
    ((∃ key ∈ written ((reconcile second version' options').trace Memory.answer between),
      key ∈ first.keys) ↔ first.Meets second) ∧
    (∀ soon again : Memory, soon.objects = mid.objects → again.objects = last.objects →
      soon.Quiet → again.Quiet →
        (written ((reconcile first version options).trace Memory.answer again) = [] ↔
          ¬ first.Meets second ∧
            written ((reconcile first version options).trace Memory.answer soon) = [])) ∧
    (first.Unambiguous → ¬ first.Meets second → ∀ again : Memory, again.objects = last.objects →
      written ((reconcile first version options).trace Memory.answer again) = []) := by
  have hmid : Typed mid.objects := typed_of_run htyped hrun
  have hstart : Typed between.objects := hbetween ▸ hmid
  have hlast : Typed last.objects := typed_of_run hstart hthen
  have hplaced' : second.Placed between.objects := by
    intro set hset
    have hframe := lookup_reconcile hfirst htyped hplaced hrun
      (Postgres.setKey_not_mem_keys fun h => hne ⟨h.1.symm, h.2.symm⟩)
    rw [hbetween] at hset
    exact hothers set (hset.of_lookup_eq hframe.symm)
  have hframe {key : ObjectKey} (hkey : key ∉ second.keys) :
      lookup last.objects key = lookup mid.objects key :=
    hbetween ▸ lookup_reconcile hsecond hstart hplaced' hthen hkey
  obtain ⟨set, hset, howned, hkeys⟩ := exists_own_set hfirst htyped hplaced hrun
  have hset' : Contains last.objects .statefulSet ⟨first.ns, first.name⟩ set :=
    hset.of_lookup_eq (hframe (Postgres.setKey_not_mem_keys hne))
  -- A shared service ends up with the labels of the second instance.
  have htaken (hmeets : first.Meets second) : ∃ key ∈ first.serviceKeys,
      key ∈ second.serviceKeys ∧ ¬ first.Has last.objects key := by
    obtain ⟨hns, key, hkey, hshared⟩ := hmeets.exists_service
    refine ⟨key, hkey, hshared, fun hhas => hne ⟨hns, ?_⟩⟩
    exact hhas.name_eq (Postgres.has_services hstart hthen key hshared)
  -- Without a shared service every step of the first instance sees what its own pass has left.
  have hagain (hmeets : ¬ first.Meets second) : ∀ step ∈ first.steps version options set,
      lookup last.objects step.key = lookup mid.objects step.key := by
    intro step hstep
    have hkey : step.key ∈ first.keys := hkeys ▸ List.mem_map_of_mem hstep
    exact hframe fun hshared => hmeets ((Postgres.exists_shared_iff hne).1 ⟨_, hkey, hshared⟩)
  refine ⟨?_, ?_, ?_⟩
  · rw [written_reconcile hsecond hstart hplaced' hthen]
    constructor
    · rintro ⟨key, hwritten, hkey⟩
      exact (Postgres.exists_shared_iff hne).1 ⟨key, hkey, (List.mem_filter.1 hwritten).1⟩
    · intro hmeets
      obtain ⟨key, hkey, hshared, hgone⟩ := htaken hmeets
      refine ⟨key, List.mem_filter.2 ⟨Postgres.serviceKeys_subset hshared, ?_⟩,
        Postgres.serviceKeys_subset hkey⟩
      refine isChanged_became_iff.2 fun hsame => hgone ?_
      exact (Postgres.has_services htyped hrun key hkey).of_lookup_eq (hbetween ▸ hsame)
  · intro soon again hsoon hobjects hquiet hquiet'
    rw [written_reconcile_eq_nil_iff (hsoon ▸ hmid) hquiet (hsoon ▸ hset) howned,
      written_reconcile_eq_nil_iff (hobjects ▸ hlast) hquiet' (hobjects ▸ hset') howned,
      hsoon, hobjects]
    constructor
    · intro h
      have hmeets (hmeets : first.Meets second) : False := by
        obtain ⟨key, hkey, -, hgone⟩ := htaken hmeets
        exact hgone (Postgres.has_of_rests
          (fun step hstep => h step (List.mem_append_left _ hstep)) key hkey)
      exact ⟨hmeets, fun step hstep =>
        (h step hstep).of_lookup_eq (hagain hmeets step hstep).symm⟩
    · rintro ⟨hmeets, h⟩ step hstep
      exact (h step hstep).of_lookup_eq (hagain hmeets step hstep)
  · intro hclear hmeets again hobjects
    refine written_reconcile_of_rests (hobjects ▸ hlast) (hobjects ▸ hset') howned ?_
    rw [hobjects]
    exact fun step hstep =>
      (rests_of_run hclear htyped hrun hset step hstep).of_lookup_eq (hagain hmeets step hstep)

/-- An instance that is named like the governing service of `migrated`. -/
def beside : Postgres where
  metadata := { name := some "db-pods", ns := some "demo", uid := some "beside" }

/-- The pass over that instance takes the governing service of `migrated`, and the next pass over
`migrated` takes it back. -/
theorem neighbours_collide : ∃ mid last,
    (reconcile migrated {} {}).run answer {} = (.ok .created, mid) ∧
    (reconcile beside {} {}).run answer mid = (.ok .created, last) ∧
    migrated.metadata.uid ≠ beside.metadata.uid ∧
    serviceKey migrated "db-pods" ∈ migrated.keys ∧
    serviceKey migrated "db-pods" ∈ written ((reconcile beside {} {}).trace answer mid) ∧
    written ((reconcile migrated {} {}).trace answer last) = [serviceKey migrated "db-pods"] := by
  have hevaluated : let mid := ((reconcile migrated {} {}).run answer {}).2
      let last := ((reconcile beside {} {}).run answer mid).2
      ((reconcile migrated {} {}).run answer {}).1 = .ok .created ∧
      ((reconcile beside {} {}).run answer mid).1 = .ok .created ∧
      migrated.metadata.uid ≠ beside.metadata.uid ∧
      serviceKey migrated "db-pods" ∈ migrated.keys ∧
      serviceKey migrated "db-pods" ∈ written ((reconcile beside {} {}).trace answer mid) ∧
      written ((reconcile migrated {} {}).trace answer last) =
        [serviceKey migrated "db-pods"] := by decide +kernel
  obtain ⟨hrun, hthen, hrest⟩ := hevaluated
  exact ⟨_, _, run_of_fst hrun, run_of_fst hthen, hrest⟩

/-- An instance that is named like no service of `migrated`. -/
def apart : Postgres := { beside with metadata := { beside.metadata with name := some "cache" } }

/-- A pass over such an instance writes no object of `migrated`, of which the next pass finds
nothing to do. -/
theorem reconcile_neighbours_apart : ∃ mid last,
    (reconcile migrated {} {}).run answer {} = (.ok .created, mid) ∧
    (reconcile apart {} {}).run answer mid = (.ok .created, last) ∧
    (∀ key ∈ written ((reconcile apart {} {}).trace answer mid), key ∉ migrated.keys) ∧
    ∀ again : Memory, again.objects = last.objects →
      written ((reconcile migrated {} {}).trace answer again) = [] := by
  have hevaluated : let mid := ((reconcile migrated {} {}).run answer {}).2
      ((reconcile migrated {} {}).run answer {}).1 = .ok .created ∧
      ((reconcile apart {} {}).run answer mid).1 = .ok .created := by decide +kernel
  obtain ⟨hfirst, hsecond⟩ := hevaluated
  have hrun := run_of_fst hfirst
  have hthen := run_of_fst hsecond
  have hmeets : ¬ migrated.Meets apart := by decide
  obtain ⟨hshared, -, hagain⟩ := reconcile_neighbours (by decide) (by decide) (by decide) typed_nil
    (Postgres.placed_nil _) (Postgres.placed_nil _) hrun rfl hthen
  exact ⟨_, _, hrun, hthen, fun key hwritten hkey => hmeets (hshared.1 ⟨key, hwritten, hkey⟩),
    hagain unambiguous_migrated hmeets⟩

end Pass

end PgOperator
