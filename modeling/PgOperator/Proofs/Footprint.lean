import Mathlib.Tactic.Lemma
import PgOperator.Proofs.Steps

/-!
What a pass over an instance touches, and what it tells.

A pass that ends well has carried out the steps of the instance (`carried_reconcile`): the services
that the instance asks for, the stateful set, and the budget of that set. So it stores exactly the
objects of the instance, each of them marked as belonging to it, writes those that had to be
changed in a fixed order, and tells of each such change but the budget's (`reconcile_footprint`).

The budget goes where the stateful set says that it is. This is the key of the set itself, unless
somebody has taken its name or its namespace out of its metadata (`Postgres.Placed`).
-/

namespace PgOperator

open Kube Memory Pass

/-! ### The objects of an instance -/

namespace Postgres

abbrev servicePart (db : Postgres) (name title : String) : Part :=
  ⟨.service, ⟨db.ns, name⟩, some title⟩

/-- The services of the instance: those for standbys and for exporters only where there are any. -/
def serviceParts (db : Postgres) : List Part :=
  [db.servicePart db.governingServiceName "governing service", db.servicePart db.name "Service"] ++
  (if 1 < db.replicas then [db.servicePart db.standbyServiceName "standby Service"] else []) ++
  (if db.exporterEnabled then [db.servicePart db.statsServiceName "stats service"] else [])

abbrev setPart (db : Postgres) : Part := ⟨.statefulSet, ⟨db.ns, db.name⟩, some "StatefulSet"⟩

/-- The disruption budget of the instance, of which events do not tell. -/
abbrev budgetPart (db : Postgres) : Part := ⟨.disruptionBudget, ⟨db.ns, db.name⟩, none⟩

/-- The objects of the instance, in the order in which a pass comes to them. -/
def parts (db : Postgres) : List Part := db.serviceParts ++ [db.setPart, db.budgetPart]

/-- The keys of the objects of the instance. -/
def keys (db : Postgres) : List ObjectKey := db.parts.map Part.key

/-- How the services of the instance are brought to their states. -/
def serviceSteps (db : Postgres) : List Step :=
  [⟨db.servicePart db.governingServiceName "governing service", db.governingService⟩,
    ⟨db.servicePart db.name "Service", db.databaseService .primary⟩] ++
  (if 1 < db.replicas then
    [⟨db.servicePart db.standbyServiceName "standby Service", db.databaseService .standby⟩]
  else []) ++
  match db.spec.monitor with
  | some monitor =>
    if db.exporterEnabled then
      [⟨db.servicePart db.statsServiceName "stats service",
        db.statsService monitor.exporter.port⟩]
    else []
  | none => []

abbrev setStep (db : Postgres) (version : PostgresVersion) (options : Options) : Step :=
  ⟨db.setPart, db.statefulSet version options⟩

end Postgres

abbrev Kube.StatefulSet.budgetStep (set : StatefulSet) : Step :=
  ⟨⟨.disruptionBudget, ⟨set.metadata.anyNamespace, set.metadata.anyName⟩, none⟩,
    set.disruptionBudget⟩

namespace Postgres

/-- All that a pass brings to its state, where it finds or makes the stateful set. -/
def steps (db : Postgres) (version : PostgresVersion) (options : Options) (set : StatefulSet) :
    List Step := db.serviceSteps ++ [db.setStep version options, set.budgetStep]

variable {db : Postgres} {version : PostgresVersion} {options : Options}

lemma exporterEnabled_of_none (h : db.spec.monitor = none) : db.exporterEnabled = false := by
  rw [exporterEnabled, h]

lemma exists_monitor (h : db.exporterEnabled) : ∃ monitor, db.spec.monitor = some monitor := by
  cases hmonitor : db.spec.monitor with
  | none => exact absurd h (by rw [exporterEnabled_of_none hmonitor]; decide)
  | some monitor => exact ⟨monitor, rfl⟩

lemma map_serviceSteps : db.serviceSteps.map Step.toPart = db.serviceParts := by
  unfold serviceSteps serviceParts
  cases hmonitor : db.spec.monitor with
  | none =>
    rw [exporterEnabled_of_none hmonitor]
    split <;> rfl
  | some monitor =>
    simp only [List.map_append, apply_ite (List.map Step.toPart)]
    rfl

lemma budgetStep_toPart {set : StatefulSet} (hname : db.name ≠ "")
    (hkey : ObjectKey.of .statefulSet set = db.setPart.key) :
    set.budgetStep.toPart = db.budgetPart := by
  obtain ⟨-, hns, hset⟩ := ObjectKey.mk.inj hkey
  have hany : set.metadata.anyName = db.name := by
    have hset : set.metadata.name.getD "" = db.name := hset
    rw [ObjectMeta.anyName]
    cases h : set.metadata.name with
    | none =>
      rw [h] at hset
      exact absurd hset.symm hname
    | some name =>
      rw [h] at hset
      exact hset
  rw [show set.budgetStep.toPart = ⟨.disruptionBudget, ⟨set.metadata.anyNamespace,
    set.metadata.anyName⟩, none⟩ from rfl, hany, show set.metadata.anyNamespace = db.ns from hns]

lemma map_steps (version : PostgresVersion) (options : Options) {set : StatefulSet}
    (hname : db.name ≠ "") (hkey : ObjectKey.of .statefulSet set = db.setPart.key) :
    (db.steps version options set).map Step.toPart = db.parts := by
  rw [steps, List.map_append, map_serviceSteps, parts, List.map_cons, List.map_cons,
    budgetStep_toPart hname hkey]
  rfl

/-- What is put behind the instance's name to name its services. -/
def suffixes (db : Postgres) : List String :=
  ["-pods", ""] ++ (if 1 < db.replicas then ["-standby"] else []) ++
    (if db.exporterEnabled then ["-stats"] else [])

lemma sublist_suffixes (db : Postgres) :
    List.Sublist db.suffixes ["-pods", "", "-standby", "-stats"] := by
  have hif (c : Prop) [Decidable c] (suffix : String) :
      List.Sublist (if c then [suffix] else []) [suffix] := by
    split
    · exact .refl _
    · exact List.nil_sublist _
  exact ((List.Sublist.refl ["-pods", ""]).append (hif _ "-standby")).append (hif _ "-stats")

lemma map_serviceParts (db : Postgres) : db.serviceParts.map Part.key =
    db.suffixes.map fun suffix => serviceKey db (db.name ++ suffix) := by
  simp only [serviceParts, suffixes, List.map_append, apply_ite (List.map Part.key),
    apply_ite (List.map _), List.map_cons, List.map_nil, String.append_empty]
  rfl

lemma keys_eq (db : Postgres) : db.keys =
    (db.suffixes.map fun suffix => serviceKey db (db.name ++ suffix)) ++
      [setKey db, db.budgetPart.key] := by
  rw [keys, parts, List.map_append, map_serviceParts]
  rfl

lemma nodup_of_budget (db : Postgres) {key : ObjectKey} (h : key.kind = .disruptionBudget) :
    ((db.suffixes.map fun suffix => serviceKey db (db.name ++ suffix)) ++
      [setKey db, key]).Nodup := by
  have hsuffixes : db.suffixes.Nodup := List.Nodup.sublist db.sublist_suffixes (by decide)
  have hservices : (db.suffixes.map fun suffix => serviceKey db (db.name ++ suffix)).Nodup :=
    List.pairwise_map.2 (hsuffixes.imp serviceKey_ne)
  have hkinds : ∀ other ∈ [setKey db, key], other.kind ≠ .service :=
    List.forall_mem_cons.2 ⟨nofun, List.forall_mem_singleton.2 (h ▸ nofun)⟩
  have hworkload : setKey db ≠ key := fun heq => absurd (heq ▸ h) nofun
  refine List.nodup_append.2 ⟨hservices, by simpa using hworkload, ?_⟩
  rintro _ hservice other hother rfl
  obtain ⟨suffix, -, rfl⟩ := List.mem_map.1 hservice
  exact hkinds _ hother rfl

lemma nodup_keys (db : Postgres) : db.keys.Nodup := by
  rw [keys_eq]
  exact db.nodup_of_budget rfl

lemma nodup_steps (db : Postgres) (version : PostgresVersion) (options : Options)
    (set : StatefulSet) :
    ((db.steps version options set).map fun step => step.key).Nodup := by
  have hkeys : (db.steps version options set).map (fun step => step.key) =
      (db.suffixes.map fun suffix => serviceKey db (db.name ++ suffix)) ++
        [setKey db, set.budgetStep.key] := by
    rw [steps, List.map_append, ← map_serviceParts, ← map_serviceSteps, List.map_map]
    rfl
  rw [hkeys]
  exact db.nodup_of_budget rfl

lemma forall_serviceSteps {P : Step → Prop}
    (hgoverning : P ⟨db.servicePart db.governingServiceName "governing service",
      db.governingService⟩)
    (hprimary : P ⟨db.servicePart db.name "Service", db.databaseService .primary⟩)
    (hstandby : P ⟨db.servicePart db.standbyServiceName "standby Service",
      db.databaseService .standby⟩)
    (hstats : ∀ port, P ⟨db.servicePart db.statsServiceName "stats service",
      db.statsService port⟩) :
    ∀ step ∈ db.serviceSteps, P step := by
  intro step hstep
  unfold serviceSteps at hstep
  rcases List.mem_append.1 hstep with hstep | hstep
  · rcases List.mem_append.1 hstep with hstep | hstep
    · rcases List.mem_cons.1 hstep with rfl | hstep
      · exact hgoverning
      · exact List.mem_singleton.1 hstep ▸ hprimary
    · split at hstep
      · exact List.mem_singleton.1 hstep ▸ hstandby
      · exact absurd hstep List.not_mem_nil
  · split at hstep
    · split at hstep
      · exact List.mem_singleton.1 hstep ▸ hstats _
      · exact absurd hstep List.not_mem_nil
    · exact absurd hstep List.not_mem_nil

lemma governing_mem : ⟨db.servicePart db.governingServiceName "governing service",
    db.governingService⟩ ∈ db.serviceSteps :=
  List.mem_append_left _ (List.mem_append_left _ List.mem_cons_self)

lemma primary_mem : ⟨db.servicePart db.name "Service", db.databaseService .primary⟩ ∈
    db.serviceSteps :=
  List.mem_append_left _ (List.mem_append_left _ (List.mem_cons_of_mem _ List.mem_cons_self))

lemma standby_mem (h : 1 < db.replicas) : ⟨db.servicePart db.standbyServiceName "standby Service",
    db.databaseService .standby⟩ ∈ db.serviceSteps := by
  rw [serviceSteps, if_pos h]
  exact List.mem_append_left _ (List.mem_append_right _ List.mem_cons_self)

lemma stats_mem {monitor : Monitor} (hmonitor : db.spec.monitor = some monitor)
    (h : db.exporterEnabled) : ⟨db.servicePart db.statsServiceName "stats service",
      db.statsService monitor.exporter.port⟩ ∈ db.serviceSteps := by
  simp only [serviceSteps, hmonitor, if_pos h]
  exact List.mem_append_right _ List.mem_cons_self

lemma setStep_mem {set : StatefulSet} :
    db.setStep version options ∈ db.steps version options set :=
  List.mem_append_right _ List.mem_cons_self

lemma steady_serviceSteps (db : Postgres) :
    ∀ step ∈ db.serviceSteps, step.kind.Steady step.change :=
  forall_serviceSteps db.steady_governingService (db.steady_databaseService .primary)
    (db.steady_databaseService .standby) db.steady_statsService

lemma setKey_not_mem_serviceSteps (db : Postgres) :
    setKey db ∉ db.serviceSteps.map fun step => step.key := by
  have hkinds : ∀ step ∈ db.serviceSteps, step.kind = .service :=
    forall_serviceSteps rfl rfl rfl fun _ => rfl
  intro hmem
  obtain ⟨step, hstep, hkey⟩ := List.mem_map.1 hmem
  exact absurd ((hkinds step hstep).symm.trans (congrArg ObjectKey.kind hkey)) nofun

lemma proper_statefulSet : Kind.Proper .statefulSet (db.statefulSet version options) where
  identity := ⟨fun _ => rfl, fun _ => rfl, fun _ => rfl⟩
  whole := whole_statefulSet

lemma proper_steps (db : Postgres) (version : PostgresVersion) (options : Options)
    (set : StatefulSet) :
    ∀ step ∈ db.steps version options set, step.kind.Proper step.change := by
  intro step hstep
  rcases List.mem_append.1 hstep with hstep | hstep
  · exact (db.steady_serviceSteps step hstep).proper
  · rcases List.mem_cons.1 hstep with rfl | hstep
    · exact proper_statefulSet
    · obtain rfl := List.mem_singleton.1 hstep
      exact set.steady_disruptionBudget.proper

end Postgres

/-! ### What a pass carries out -/

namespace Pass

variable {db : Postgres} {version : PostgresVersion} {options : Options} {m last : Memory}

lemma carries_ensureNamedService {mutate : Service → Service} (h : Kind.Steady .service mutate)
    (name title : String) : Carries [⟨db.servicePart name title, mutate⟩]
      (ensureNamedService db name title mutate) := by
  rw [ensureNamedService_eq]
  refine carries_ensureNotCancelled.bind fun _ m w last htyped hrun => ?_
  obtain ⟨_, _, _, -, -, -, hcarried⟩ := carried_step ⟨db.servicePart name title, mutate⟩ h.proper
    (fun v m last htold => (Prod.mk.inj (htold.symm.trans (run_announce_told db rfl v.2 m))).2)
    (fun v => writesOnce_announce db title v.2) htyped hrun
  exact hcarried

lemma carries_ensureService : Carries
    ([⟨db.servicePart db.name "Service", db.databaseService .primary⟩] ++
      if 1 < db.replicas then
        [⟨db.servicePart db.standbyServiceName "standby Service", db.databaseService .standby⟩]
      else []) (ensureService db) := by
  refine (carries_ensureNamedService (db.steady_databaseService .primary) _ _).bind
    fun primary => ?_
  by_cases hfew : db.replicas ≤ 1
  · rw [if_pos hfew, if_neg (Int32.not_lt.2 hfew)]
    exact carries_pure primary
  · rw [if_neg hfew, if_pos (Int32.not_le.1 hfew)]
    exact (carries_ensureNamedService (db.steady_databaseService .standby) _ _).bind
      fun _ => carries_pure _

lemma carries_ensureServices (db : Postgres) : Carries db.serviceSteps (ensureServices db) := by
  have hstats : Carries (match db.spec.monitor with
      | some monitor =>
        if db.exporterEnabled then
          [⟨db.servicePart db.statsServiceName "stats service",
            db.statsService monitor.exporter.port⟩]
        else []
      | none => []) (ensureStatsService db) := by
    unfold ensureStatsService
    cases db.spec.monitor with
    | none => exact carries_ensureNotCancelled.bind fun _ => carries_pure _
    | some monitor =>
      simp only
      split
      · exact carries_ensureNamedService (db.steady_statsService _) _ _
      · exact carries_ensureNotCancelled.bind fun _ => carries_pure _
  exact (carries_ensureNamedService db.steady_governingService _ _).bind fun _ =>
    carries_ensureService.bind fun _ => hstats

/-- The stateful set, brought to its state, and its pods, waited for after a change. -/
def ensureSettled (db : Postgres) (version : PostgresVersion) (options : Options) :
    Pass (StatefulSet × Outcome) :=
  createOrPatch .statefulSet ⟨db.ns, db.name⟩ (db.statefulSet version options) >>= fun v =>
    settleIn db options v >>= fun _ => pure v

lemma ensureStatefulSet_eq_settled : ensureStatefulSet db version options =
    ensureNotCancelled >>= fun _ => checkStatefulSet db >>= fun _ =>
      ensureSettled db version options >>= fun v =>
        createOrPatch .disruptionBudget ⟨v.1.metadata.anyNamespace, v.1.metadata.anyName⟩
          v.1.disruptionBudget >>= fun _ => pure () >>= fun _ => pure v.2 := by
  rw [ensureStatefulSet_eq]
  refine congrArg (ensureNotCancelled >>= ·) (funext fun _ => ?_)
  rw [bind_assoc]
  refine congrArg (checkStatefulSet db >>= ·) (funext fun _ => ?_)
  rw [ensureSettled, bind_assoc]
  refine congrArg (createOrPatch _ _ _ >>= ·) (funext fun v => ?_)
  rw [bind_assoc]
  refine congrArg (settleIn db options v >>= ·) (funext fun _ => ?_)
  rw [ensureDisruptionBudget, bind_assoc]
  rfl

lemma run_checkStatefulSet {set : StatefulSet}
    (hget : m.get .statefulSet ⟨db.ns, db.name⟩ = .ok (some set)) :
    (checkStatefulSet db).run Memory.answer m =
      (if ownsStatefulSet db set then .ok ()
        else .error (.namingCollision "StatefulSet" db.ns db.name), m) := by
  rw [checkStatefulSet_eq, run_call, Memory.answer, hget, checkFound]
  split <;> rfl

lemma run_checkStatefulSet_snd (m : Memory) :
    ((checkStatefulSet db).run Memory.answer m).2 = m := by
  rw [checkStatefulSet_eq, run_call, Memory.answer]
  have hended : (checkFound db (m.get .statefulSet ⟨db.ns, db.name⟩)).Ended := ended_checkFound _
  rcases hended with ⟨_, h⟩ | ⟨_, h⟩ <;> rw [h] <;> rfl

lemma carries_checkStatefulSet : Carries [] (checkStatefulSet db) :=
  carries_nil run_checkStatefulSet_snd writesOnce_checkStatefulSet

lemma of_run_settleIn {v : StatefulSet × Outcome}
    (h : (settleIn db options v).run Memory.answer m = (.ok (), last)) :
    last = m.told (db.setPart.notices v.2) := by
  have hwait (m : Memory) : ((awaitStatefulSet options v.1).run Memory.answer m).2 = m := by
    rw [awaitStatefulSet, awaitPods, run_call, Memory.answer]
    rcases ended_ofExcept (m.awaitPods _ _ _) with ⟨_, h⟩ | ⟨_, h⟩ <;> rw [h] <;> rfl
  by_cases hchanged : v.2.isChanged
  · rw [settleIn, if_pos hchanged] at h
    obtain ⟨_, mid, hwaited, h⟩ := of_run_bind h
    obtain ⟨_, told, htold, h⟩ := of_run_bind h
    have hmid : mid = m := (congrArg Prod.snd hwaited).symm.trans (hwait m)
    have hend : last = told := (congrArg Prod.snd h).symm.trans (run_ensureNotCancelled_snd told)
    have htitle : db.setPart.title = some "StatefulSet" := rfl
    rw [run_announce_told db htitle] at htold
    rw [hend, ← hmid, ← (Prod.mk.inj htold).2]
  · rw [settleIn, if_neg hchanged] at h
    rw [db.setPart.told_of_not_changed hchanged]
    exact (congrArg Prod.snd h).symm.trans (run_ensureNotCancelled_snd m)

/-- The stateful set that a pass finds or makes, under the key that the stored one asks for, or else
its own, and what follows of it. -/
lemma carried_ensureStatefulSet {outcome : Outcome} (htyped : Typed m.objects)
    (h : (ensureStatefulSet db version options).run Memory.answer m = (.ok outcome, last)) :
    ∃ set, Contains last.objects .statefulSet ⟨db.ns, db.name⟩ set ∧
      ((∃ live, Contains m.objects .statefulSet ⟨db.ns, db.name⟩ live ∧
        ObjectKey.of .statefulSet set = ObjectKey.of .statefulSet live) ∨
        ObjectKey.of .statefulSet set = db.setPart.key) ∧
      Carried [db.setStep version options, set.budgetStep] m
        (written ((ensureStatefulSet db version options).trace Memory.answer m)) last := by
  rw [ensureStatefulSet_eq_settled] at h ⊢
  obtain ⟨_, start, -, h, hstart, hlooked, hthen⟩ := carries_ensureNotCancelled.first htyped h
  obtain ⟨_, mid, -, h, hmid, hchecked, hthen'⟩ := carries_checkStatefulSet.first hstart h
  obtain ⟨v, settled, hsettled, hbudget⟩ := of_run_bind h
  obtain ⟨set, outcome, stored, rfl, heffect, rfl, hset⟩ :=
    carried_step (db.setStep version options) Postgres.proper_statefulSet
      (fun v m last => of_run_settleIn) writesOnce_settleIn hmid hsettled
  have hquiet (v : PodDisruptionBudget × Outcome) (m last : Memory)
      (hpure : (pure () : Pass Unit).run Memory.answer m = (.ok (), last)) :
      last = m.told (set.budgetStep.notices v.2) :=
    (Prod.mk.inj hpure).2.symm.trans (Part.told_nil set.budgetStep.toPart rfl v.2 m).symm
  obtain ⟨_, _, _, -, -, rfl, hcarried⟩ :=
    carried_step set.budgetStep set.steady_disruptionBudget.proper hquiet
      (fun _ => writesOnce_pure ()) (hset.typed hmid) hbudget
  have hsame : lookup mid.objects db.setPart.key = lookup m.objects db.setPart.key :=
    (hchecked.lookup_eq List.not_mem_nil).trans (hlooked.lookup_eq List.not_mem_nil)
  -- The budget is another kind of object, and before the stateful set nothing is written.
  refine ⟨set, ?_, ?_, hthen _ (hthen' _ ?_)⟩
  · exact (heffect.holds Postgres.proper_statefulSet hmid).1.of_lookup_eq
      (hcarried.lookup_eq (by simp [Part.key]))
  · exact (heffect.key_of Postgres.proper_statefulSet hmid).imp_left fun ⟨live, hlive, hkey⟩ =>
      ⟨live, hlive.of_lookup_eq hsame.symm, hkey⟩
  · rw [written_bind hsettled]
    exact hset.append hcarried

end Pass

namespace Postgres

/-- The stateful set that is stored under the instance's name, if there is one, asks for that key
itself. -/
def Placed (db : Postgres) (objects : List (ObjectKey × Json)) : Prop :=
  ∀ set, Contains objects .statefulSet ⟨db.ns, db.name⟩ set →
    ObjectKey.of .statefulSet set = db.setPart.key

lemma placed_nil (db : Postgres) : db.Placed [] := fun _ h => nomatch h.stored

/-- The metadata of an object of the instance: the instance owns it, and it carries both of its
labels. -/
structure Marks (db : Postgres) (metadata : ObjectMeta) : Prop where
  owner : db.ownerReference ∈ metadata.ownerReferences.getD []
  kind : (metadata.labels.getD .empty).get? Label.kind = some "Postgres"
  name : (metadata.labels.getD .empty).get? Label.name = some db.name

end Postgres

lemma Kube.ObjectMeta.mem_ensureOwner (metadata : ObjectMeta) (owner : OwnerReference) :
    owner ∈ (metadata.ensureOwner owner).ownerReferences.getD [] := by
  obtain ⟨found, hfound, hsame⟩ :=
    (lays_owner owner).laid_lay (metadata.ownerReferences.getD [])
  obtain rfl : owner = found := hsame
  exact List.mem_of_find?_eq_some hfound

namespace Postgres

variable {db : Postgres} {version : PostgresVersion} {options : Options}

lemma marks_layer {labels : Dict String}
    (hlabels : ∀ {key value}, db.selectors.get? key = some value → labels.get? key = some value)
    (metadata : ObjectMeta) (annotations : Option (Dict String)) :
    db.Marks ((metadata.ensureOwner db.ownerReference).layer labels annotations) := by
  have hget {key value : String} (h : db.selectors.get? key = some value) :
      ((metadata.labels.getD .empty).extend labels).get? key = some value := by
    rw [Dict.get?_extend, hlabels h]
    rfl
  exact ⟨metadata.mem_ensureOwner db.ownerReference, hget (get?_selectors db Label.kind),
    hget (get?_selectors db Label.name)⟩

lemma Marks.of_made {kind : Kind} {change : kind.Object → kind.Object} {object : kind.Object}
    (h : kind.Made change object) (hmarks : ∀ live, db.Marks (kind.metadata (change live))) :
    db.Marks (kind.metadata object) := by
  obtain ⟨live, ns, uid, version, rfl⟩ := h
  rw [Kind.stamp, Kind.metadata_withMetadata]
  exact ⟨(hmarks live).owner, (hmarks live).kind, (hmarks live).name⟩

lemma get?_statsLabels {key value : String} (h : db.selectors.get? key = some value) :
    db.statsLabels.get? key = some value := by
  have hne : key ≠ Label.role := by
    rintro rfl
    rw [get?_selectors] at h
    exact absurd h nofun
  rw [statsLabels, Dict.get?_insert_of_ne _ hne]
  exact get?_labels h

lemma marks_serviceSteps (db : Postgres) :
    ∀ step ∈ db.serviceSteps, ∀ live, db.Marks (step.kind.metadata (step.change live)) :=
  forall_serviceSteps (fun live => marks_layer get?_labels live.metadata none)
    (fun live => marks_layer get?_labels live.metadata _)
    (fun live => marks_layer get?_labels live.metadata _)
    (fun _ live => marks_layer get?_statsLabels live.metadata none)

lemma marks_statefulSet (live : StatefulSet) :
    db.Marks (db.statefulSet version options live).metadata :=
  marks_layer get?_labels live.metadata _

end Postgres

namespace Pass

variable {db : Postgres} {version : PostgresVersion} {options : Options} {m last : Memory}

/-- **A pass that ends well has carried out the steps of the instance**, up to the budget of the
stateful set that it finds or makes. -/
theorem carried_reconcile {outcome : Outcome} (htyped : Typed m.objects)
    (h : (reconcile db version options).run Memory.answer m = (.ok outcome, last)) :
    ∃ set, Contains last.objects .statefulSet ⟨db.ns, db.name⟩ set ∧
      (db.Placed m.objects → ObjectKey.of .statefulSet set = db.setPart.key) ∧
      Carried (db.steps version options set) m
        (written ((reconcile db version options).trace Memory.answer m)) last := by
  rw [reconcile_eq] at h ⊢
  obtain ⟨_, mid, -, h, hmid, hservices, hthen⟩ := (carries_ensureServices db).first htyped h
  obtain ⟨set, hset, hkey, hcarried⟩ := carried_ensureStatefulSet hmid h
  refine ⟨set, hset, fun hplaced => ?_, hthen _ hcarried⟩
  rcases hkey with ⟨live, hlive, hkey⟩ | hkey
  · exact hkey.trans (hplaced live (hlive.of_lookup_eq
      (hservices.lookup_eq db.setKey_not_mem_serviceSteps).symm))
  · exact hkey

/-- **What is stored after a pass that ends well** is what the changes make of it. -/
theorem reconcile_holds {outcome : Outcome} (htyped : Typed m.objects)
    (h : (reconcile db version options).run Memory.answer m = (.ok outcome, last)) :
    ∃ set, Contains last.objects .statefulSet ⟨db.ns, db.name⟩ set ∧
      (db.Placed m.objects → ObjectKey.of .statefulSet set = db.setPart.key) ∧
      ∀ step ∈ db.steps version options set, ∃ object,
        Contains last.objects step.kind step.id object ∧ step.kind.Made step.change object := by
  obtain ⟨set, hset, hkey, hcarried⟩ := carried_reconcile htyped h
  exact ⟨set, hset, hkey, hcarried.holds htyped (db.proper_steps version options set)
    (db.nodup_steps version options set)⟩

lemma map_key_steps (version : PostgresVersion) (options : Options) {set : StatefulSet}
    (hname : db.name ≠ "") (hkey : ObjectKey.of .statefulSet set = db.setPart.key) :
    (db.steps version options set).map (fun step => step.key) = db.keys := by
  rw [Postgres.keys, ← Postgres.map_steps version options hname hkey, List.map_map]
  rfl

lemma written_reconcile {outcome : Outcome} (hname : db.name ≠ "") (htyped : Typed m.objects)
    (hplaced : db.Placed m.objects)
    (h : (reconcile db version options).run Memory.answer m = (.ok outcome, last)) :
    written ((reconcile db version options).trace Memory.answer m) =
      db.keys.filter fun key => (became m.objects last.objects key).isChanged := by
  obtain ⟨set, -, hkey, hcarried⟩ := carried_reconcile htyped h
  rw [hcarried.written_eq (db.nodup_steps version options set),
    map_key_steps version options hname (hkey hplaced)]

lemma lookup_reconcile {outcome : Outcome} (hname : db.name ≠ "") (htyped : Typed m.objects)
    (hplaced : db.Placed m.objects)
    (h : (reconcile db version options).run Memory.answer m = (.ok outcome, last))
    {key : ObjectKey} (hkey : key ∉ db.keys) :
    lookup last.objects key = lookup m.objects key := by
  obtain ⟨set, -, hset, hcarried⟩ := carried_reconcile htyped h
  exact hcarried.lookup_eq (map_key_steps version options hname (hset hplaced) ▸ hkey)

lemma marks_reconcile {outcome : Outcome} (htyped : Typed m.objects)
    (h : (reconcile db version options).run Memory.answer m = (.ok outcome, last)) :
    ∀ part ∈ db.serviceParts ++ [db.setPart], ∃ object,
      Contains last.objects part.kind part.id object ∧ db.Marks (part.kind.metadata object) := by
  obtain ⟨set, -, -, hholds⟩ := reconcile_holds htyped h
  have hmarks : ∀ step ∈ db.serviceSteps ++ [db.setStep version options],
      ∀ live, db.Marks (step.kind.metadata (step.change live)) :=
    List.forall_mem_append.2 ⟨db.marks_serviceSteps,
      List.forall_mem_singleton.2 Postgres.marks_statefulSet⟩
  have hparts : (db.serviceSteps ++ [db.setStep version options]).map Step.toPart =
      db.serviceParts ++ [db.setPart] := by
    rw [List.map_append, Postgres.map_serviceSteps]
    rfl
  rw [← hparts]
  intro part hpart
  obtain ⟨step, hstep, rfl⟩ := List.mem_map.1 hpart
  have hmem : step ∈ db.steps version options set := by
    rw [Postgres.steps, List.append_cons]
    exact List.mem_append_left _ hstep
  obtain ⟨object, hobject, hmade⟩ := hholds step hmem
  exact ⟨object, hobject, .of_made hmade (hmarks step hstep)⟩

/-- A stateful set that asks for the key that it is stored under still does so after a pass. -/
lemma placed_of_run {outcome : Outcome} (htyped : Typed m.objects) (hplaced : db.Placed m.objects)
    (h : (reconcile db version options).run Memory.answer m = (.ok outcome, last)) :
    db.Placed last.objects := by
  obtain ⟨set, hset, hkey, -⟩ := carried_reconcile htyped h
  intro other hother
  rw [hother.unique hset]
  exact hkey hplaced

lemma typed_of_run {outcome : Outcome} (htyped : Typed m.objects)
    (h : (reconcile db version options).run Memory.answer m = (.ok outcome, last)) :
    Typed last.objects := by
  obtain ⟨set, -, -, hcarried⟩ := carried_reconcile htyped h
  exact hcarried.typed htyped

/-- **A pass touches exactly the objects of the instance**, where the stateful set that is there
says itself that it is there. It stores all of them, writes those that had to be changed, each one
once and in their order, and leaves all other objects as they are. In the end the services and the
stateful set are marked as the instance's, the budget belongs to the stateful set, and each change
but the budget's has been told of, by what has become of the object. -/
theorem reconcile_footprint {outcome : Outcome} (hname : db.name ≠ "") (htyped : Typed m.objects)
    (hplaced : db.Placed m.objects)
    (h : (reconcile db version options).run Memory.answer m = (.ok outcome, last)) :
    db.keys.Nodup ∧
    written ((reconcile db version options).trace Memory.answer m) =
      db.keys.filter (fun key => (became m.objects last.objects key).isChanged) ∧
    (∀ key ∉ db.keys, lookup last.objects key = lookup m.objects key) ∧
    (∀ part ∈ db.serviceParts ++ [db.setPart], ∃ object,
      Contains last.objects part.kind part.id object ∧ db.Marks (part.kind.metadata object)) ∧
    (∃ set budget, Contains last.objects .statefulSet db.setPart.id set ∧
      Contains last.objects .disruptionBudget db.budgetPart.id budget ∧
      set.ownerReference ∈ budget.metadata.ownerReferences.getD []) ∧
    last.notices = m.notices ++ db.parts.flatMap fun part =>
      part.notices (became m.objects last.objects part.key) := by
  refine ⟨db.nodup_keys, written_reconcile hname htyped hplaced h,
    fun key => lookup_reconcile hname htyped hplaced h, marks_reconcile htyped h, ?_, ?_⟩
  · obtain ⟨set, hset, hkey, hholds⟩ := reconcile_holds htyped h
    have hmem : set.budgetStep ∈ db.steps version options set :=
      List.mem_append_right _ (List.mem_cons_of_mem _ List.mem_cons_self)
    obtain ⟨budget, hbudget, live, ns, uid, version, rfl⟩ := hholds _ hmem
    have hid : set.budgetStep.id = db.budgetPart.id :=
      congrArg Part.id (Postgres.budgetStep_toPart hname (hkey hplaced))
    exact ⟨set, _, hset, hid ▸ hbudget, ObjectMeta.mem_ensureOwner _ _⟩
  · obtain ⟨set, -, hkey, hcarried⟩ := carried_reconcile htyped h
    rw [hcarried.notices_eq (db.nodup_steps version options set),
      ← Postgres.map_steps version options hname (hkey hplaced), List.flatMap_map]

/-- The instance of `migrated` with two standbys. -/
def grown : Postgres := { migrated with spec := { migrated.spec with replicas := some 3 } }

/-- Standbys are added to an instance: their service is created, the stateful set is patched, and
nothing else is written. -/
theorem reconcile_footprint_grown : ∃ first last,
    (reconcile migrated {} {}).run answer {} = (.ok .created, first) ∧
    (reconcile grown {} {}).run answer first = (.ok .patched, last) ∧
    (grown.keys.filter fun key => (became first.objects last.objects key).isChanged) =
      [serviceKey grown "db-standby", setKey grown] ∧
    ∀ key ∉ grown.keys, lookup last.objects key = lookup first.objects key := by
  have hevaluated : let first := ((reconcile migrated {} {}).run answer {}).2
      ((reconcile migrated {} {}).run answer {}).1 = .ok .created ∧
      ((reconcile grown {} {}).run answer first).1 = .ok .patched ∧
      written ((reconcile grown {} {}).trace answer first) =
        [serviceKey grown "db-standby", setKey grown] := by decide +kernel
  obtain ⟨hfirst, hsecond, hkeys⟩ := hevaluated
  have hrun := run_of_fst hfirst
  have hthen := run_of_fst hsecond
  have htyped := typed_of_run typed_nil hrun
  have hplaced := placed_of_run typed_nil (Postgres.placed_nil _) hrun
  have hname : grown.name ≠ "" := by decide
  obtain ⟨-, hwritten, hothers, -⟩ := reconcile_footprint hname htyped hplaced hthen
  exact ⟨_, _, hrun, hthen, hwritten.symm.trans hkeys, hothers⟩

/-- The stateful set of an instance, with the instance's labels, whose namespace has been taken out
of its metadata. -/
def homeless : StatefulSet where
  metadata := { name := some "db", labels := some migrated.selectors }

/-- Only that stateful set is there. -/
def misplaced : Memory where
  objects := [(setKey migrated, Record.encode homeless)]

lemma typed_misplaced : Typed misplaced.objects := typed_nil.store "demo" "db" _

/-- A pass over such a stateful set ends well, and the budget of the instance is not there: it has
been created in the default namespace. -/
theorem budget_misplaced : ∃ last, Typed misplaced.objects ∧
    (reconcile migrated {} {}).run answer misplaced = (.ok .patched, last) ∧
    lookup last.objects migrated.budgetPart.key = none ∧
    became misplaced.objects last.objects ⟨.disruptionBudget, "default", "db"⟩ = .created := by
  have hevaluated : let last := ((reconcile migrated {} {}).run answer misplaced).2
      ((reconcile migrated {} {}).run answer misplaced).1 = .ok .patched ∧
      lookup last.objects migrated.budgetPart.key = none ∧
      became misplaced.objects last.objects ⟨.disruptionBudget, "default", "db"⟩ = .created := by
    decide +kernel
  obtain ⟨hrun, hmissing, helsewhere⟩ := hevaluated
  exact ⟨_, typed_misplaced, run_of_fst hrun, hmissing, helsewhere⟩

end Pass

end PgOperator
