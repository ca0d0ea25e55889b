import Mathlib.Tactic.Lemma
import PgOperator.Proofs.Footprint
import PgOperator.Proofs.Workload

/-!
The objects of an instance agree with each other.

They are written one after the other, each over whatever was there, but each is what its own change
makes (`Carried.holds`), and what one of them says about the others does not depend on what was
there: the pods get the labels by which the stateful set, the budget and the services choose them,
the services for members differ in the role that they ask for, the stateful set is governed by a
service that is stored, and the exporter listens where its service sends (`reconcile_agrees`).
-/

namespace PgOperator

open Kube Memory Pass

/-! ### Selectors -/

/-- The labels have every term of the selector. -/
def Dict.Selects (selector labels : Dict String) : Prop :=
  ∀ key value, selector.get? key = some value → labels.get? key = some value

lemma Dict.selects_extend (labels selector : Dict String) :
    selector.Selects (labels.extend selector) := by
  intro key value h
  rw [Dict.get?_extend, h]
  rfl

lemma Dict.not_selects_both (selector : Dict String) (key : String) {value other : String}
    (hne : value ≠ other) (labels : Dict String) :
    ¬ ((selector.insert key value).Selects labels ∧
      (selector.insert key other).Selects labels) := by
  rintro ⟨h, hother⟩
  have hvalue := h key value (Dict.get?_insert_self selector key value)
  have hvalue' := hother key other (Dict.get?_insert_self selector key other)
  exact hne (Option.some.inj (hvalue.symm.trans hvalue'))

namespace Postgres

variable {db : Postgres} {version : PostgresVersion} {options : Options}

lemma get?_selectors_iff (db : Postgres) (key value : String) :
    db.selectors.get? key = some value ↔
      key = Label.kind ∧ value = "Postgres" ∨ key = Label.name ∧ value = db.name := by
  rw [get?_selectors]
  by_cases hkind : Label.kind = key
  · subst hkind
    simp [eq_comm, (by decide : Label.kind ≠ Label.name)]
  · by_cases hname : Label.name = key
    · subst hname
      simp [eq_comm, hkind]
    · simp [hkind, hname, Ne.symm hkind, Ne.symm hname]

end Postgres

/-! ### How many members may be away -/

/-- A minority of the members, and one at least; the least number has no predecessor. -/
lemma toInt_maxUnavailable {replicas : Int32} (h : replicas ≠ Int32.minValue) :
    (maxUnavailable replicas).toInt = max 1 ((replicas.toInt - 1) / 2) := by
  have hleast : replicas.toInt ≠ -2 ^ 31 := fun heq => h (Int32.toInt_inj.1 heq)
  have hle := replicas.le_toInt
  have hlt := replicas.toInt_lt
  have hsub : (replicas - 1).toInt = replicas.toInt - 1 := by
    rw [Int32.toInt_sub, show (1 : Int32).toInt = 1 from rfl,
      Int.bmod_eq_of_le (by omega) (by omega)]
  -- The quotient is rounded towards zero, which makes a difference for negative numbers only.
  have hdiv : ((replicas - 1) / 2).toInt = (replicas.toInt - 1) / 2 +
      if 0 ≤ replicas.toInt - 1 ∨ 2 ∣ replicas.toInt - 1 then 0 else 1 := by
    rw [Int32.toInt_div_of_ne_right _ _ (by decide), hsub]
    exact Int.tdiv_eq_ediv
  have hone : (replicas - 1) / 2 < 1 ↔ ((replicas - 1) / 2).toInt < 1 := Int32.lt_iff_toInt_lt
  unfold maxUnavailable
  extract_lets minority
  split at hdiv
  all_goals
    by_cases hfew : minority < 1
    · have hminority := hone.1 hfew
      rw [if_pos hfew, show (1 : Int32).toInt = 1 from rfl]
      omega
    · have hminority := hone.not.1 hfew
      rw [if_neg hfew, show minority.toInt = _ from hdiv]
      omega

/-! ### The exporter's port -/

namespace Postgres

variable {db : Postgres} {version : PostgresVersion} {options : Options}

lemma exporterContainer?_of_enabled (version : PostgresVersion) {monitor : Monitor}
    (hmonitor : db.spec.monitor = some monitor) (h : db.exporterEnabled) :
    ∃ c port, db.exporterContainer? version = some c ∧ c.ports = some [port] ∧
      port.name = some exporterPortName ∧ port.containerPort = monitor.exporter.port := by
  unfold exporterContainer?
  rw [hmonitor, h]
  exact ⟨_, _, rfl, rfl, rfl, rfl⟩

lemma exists_exporter_port (version : PostgresVersion) (options : Options) {monitor : Monitor}
    (hmonitor : db.spec.monitor = some monitor)
    (h : db.exporterEnabled) (live : StatefulSet) :
    ∃ c ∈ (db.statefulSet version options live).pod.containers, ∃ port, c.ports = some [port] ∧
      port.name = some exporterPortName ∧ port.containerPort = monitor.exporter.port := by
  obtain ⟨desired, port, hdesired, hports, hname, hnumber⟩ :=
    exporterContainer?_of_enabled version hmonitor h
  have hcontainers : (db.statefulSet version options live).pod.containers =
      lay (·.name) mergeContainer (upsertContainer live.pod.containers
        (db.databaseContainer version options db.volumes)) desired := by
    rw [pod_statefulSet, containers_podSpec, containers, hdesired]
    rfl
  have hfound := find?_lay_self (keepsKey_container desired) (upsertContainer live.pod.containers
    (db.databaseContainer version options db.volumes))
  rw [← hcontainers] at hfound
  refine ⟨_, List.mem_of_find?_eq_some hfound, ?_⟩
  -- The exporter's container is merged into the one of its name, or stands for itself.
  cases (upsertContainer live.pod.containers (db.databaseContainer version options
    db.volumes)).find? fun c => c.name = desired.name with
  | none => exact ⟨port, hports, hname, hnumber⟩
  | some old =>
    exact ⟨_, congrArg (Option.map (mergeContainerPorts (old.ports.getD []))) hports, hname,
      hnumber⟩

/-! ### What the objects say about each other -/

/-- Some stored objects of an instance agree with each other. -/
structure Agrees (db : Postgres) (objects : List (ObjectKey × Json)) (set : StatefulSet)
    (budget : PodDisruptionBudget) (governing primary : Service) : Prop where
  setStored : Contains objects .statefulSet ⟨db.ns, db.name⟩ set
  /-- The budget goes by the namespace and the name that the stateful set has. -/
  budgetStored : Contains objects .disruptionBudget
    ⟨set.metadata.anyNamespace, set.metadata.anyName⟩ budget
  /-- The stateful set names a service of its namespace, and that one has no address. -/
  governingStored : Contains objects .service ⟨db.ns, set.specification.serviceName⟩ governing
  headless : governing.spec.bind (·.clusterIP) = some "None"
  primaryStored : Contains objects .service ⟨db.ns, db.name⟩ primary
  /-- Pods are selected by the two labels of the instance, and by no others. -/
  selectors : ∀ key value, db.selectors.get? key = some value ↔
    key = Label.kind ∧ value = "Postgres" ∨ key = Label.name ∧ value = db.name
  pods : db.selectors.Selects (set.templateMetadata.labels.getD .empty)
  setSelects : set.specification.selector = { matchLabels := some db.selectors }
  budgetSelects : budget.spec.bind (·.selector) = some { matchLabels := some db.selectors }
  governingSelects : governing.spec.bind (·.selector) = some db.selectors
  primarySelects :
    primary.spec.bind (·.selector) = some (db.selectors.insert Label.role "primary")
  standby : 1 < db.replicas → ∃ standby : Service,
    Contains objects .service ⟨db.ns, db.standbyServiceName⟩ standby ∧
    standby.spec.bind (·.selector) = some (db.selectors.insert Label.role "replica")
  /-- No pod is selected both as the primary and as a standby. -/
  roles : ∀ labels, ¬ ((db.selectors.insert Label.role "primary").Selects labels ∧
    (db.selectors.insert Label.role "replica").Selects labels)
  /-- The exporters' service sends to the port of a container, by its name and by its number. -/
  stats : db.exporterEnabled → ∃ (stats : Service) (port : ServicePort),
    Contains objects .service ⟨db.ns, db.statsServiceName⟩ stats ∧
    stats.spec.bind (·.selector) = some db.selectors ∧
    stats.spec.bind (·.ports) = some [port] ∧
    ∃ c ∈ set.pod.containers, ∃ exposed ∈ c.ports.getD [], ∃ name,
      port.targetPort = some (.text name) ∧ exposed.name = some name ∧
      exposed.containerPort = port.port
  minAvailable : budget.spec.bind (·.minAvailable) = none
  maxUnavailable : ∃ away : Int32, budget.spec.bind (·.maxUnavailable) = some (.int away) ∧
    away.toInt = max 1 ((db.replicas.toInt - 1) / 2) ∧
    (3 ≤ db.replicas.toInt → db.replicas.toInt < 2 * (db.replicas.toInt - away.toInt))

lemma ports_statsService (port : Int32) (live : Service) :
    ∃ p : ServicePort, (db.statsService port live).spec.bind (·.ports) = some [p] ∧
      p.targetPort = some (.text exporterPortName) ∧ p.port = port := by
  let exporter : ServicePort := {
    name := some exporterPortName
    protocol := some "TCP"
    port := port
    targetPort := some (.text exporterPortName) }
  have hports : (db.statsService port live).spec.bind (·.ports) =
      some (mergeServicePorts ((live.spec.getD {}).ports.getD []) [exporter]) := rfl
  rw [hports, mergeServicePorts_singleton]
  split
  · exact ⟨_, rfl, rfl, rfl⟩
  · exact ⟨_, rfl, rfl, rfl⟩

end Postgres

namespace Pass

variable {db : Postgres} {version : PostgresVersion} {options : Options} {m last : Memory}

/-- **The objects of an instance agree with each other** after every pass that ends well, whatever
was stored before. Their budget is the one under the instance's own name, where the stateful set
that was there said itself that it is there. -/
theorem reconcile_agrees {outcome : Outcome} (hname : db.name ≠ "")
    (hleast : db.replicas ≠ Int32.minValue) (htyped : Typed m.objects)
    (h : (reconcile db version options).run Memory.answer m = (.ok outcome, last)) :
    ∃ set budget governing primary, db.Agrees last.objects set budget governing primary ∧
      (db.Placed m.objects → Contains last.objects .disruptionBudget db.budgetPart.id budget) := by
  obtain ⟨set, hset, hkey, hholds⟩ := reconcile_holds htyped h
  have hservices : ∀ step ∈ db.serviceSteps, _ := fun step hstep =>
    hholds step (List.mem_append_left _ hstep)
  have hworkload : ∀ step ∈ [db.setStep version options, set.budgetStep], _ := fun step hstep =>
    hholds step (List.mem_append_right _ hstep)
  obtain ⟨_, hsame, live, ns, uid, rv, rfl⟩ := hworkload _ List.mem_cons_self
  obtain rfl := hset.unique hsame
  obtain ⟨budget, hbudget, live', ns', uid', rv', rfl⟩ :=
    hworkload _ (List.mem_cons_of_mem _ List.mem_cons_self)
  obtain ⟨governing, hgoverning, _, _, _, _, rfl⟩ := hservices _ Postgres.governing_mem
  obtain ⟨primary, hprimary, _, _, _, _, rfl⟩ := hservices _ Postgres.primary_mem
  refine ⟨_, _, _, _, {
    setStored := hset
    budgetStored := hbudget
    governingStored := hgoverning
    headless := rfl
    primaryStored := hprimary
    selectors := db.get?_selectors_iff
    pods := Dict.selects_extend _ _
    setSelects := rfl
    budgetSelects := rfl
    governingSelects := rfl
    primarySelects := rfl
    standby := ?_
    roles := db.selectors.not_selects_both Label.role (by decide)
    stats := ?_
    minAvailable := rfl
    maxUnavailable := ?_ }, fun hplaced => ?_⟩
  · intro hmany
    obtain ⟨_, hstandby, _, _, _, _, rfl⟩ := hservices _ (Postgres.standby_mem hmany)
    exact ⟨_, hstandby, rfl⟩
  · intro hexporter
    obtain ⟨monitor, hmonitor⟩ := Postgres.exists_monitor hexporter
    obtain ⟨_, hstats, liveStats, _, _, _, rfl⟩ :=
      hservices _ (Postgres.stats_mem hmonitor hexporter)
    obtain ⟨port, hport, htarget, hnumber⟩ :=
      Postgres.ports_statsService monitor.exporter.port liveStats
    obtain ⟨c, hc, exposed, hexposed, hname, hsent⟩ :=
      Postgres.exists_exporter_port version options hmonitor hexporter live
    exact ⟨_, port, hstats, rfl, hport, c, hc, exposed, hexposed ▸ List.mem_singleton_self exposed,
      exporterPortName, htarget, hname, hsent.trans hnumber.symm⟩
  · have haway := toInt_maxUnavailable hleast
    exact ⟨maxUnavailable db.replicas, rfl, haway, fun hmany => by omega⟩
  · have hid := congrArg Part.id (Postgres.budgetStep_toPart hname (hkey hplaced))
    exact hid ▸ hbudget

/-- Three members with exporters. -/
def watched : Postgres where
  metadata := { name := some "db", ns := some "demo" }
  spec := { replicas := some 3, monitor := some { agent := "prometheus.io/operator" } }

/-- A budget that asks for two members at least. -/
def strictBudget : PodDisruptionBudget where
  metadata := { name := some "db", ns := some "demo" }
  spec := some { minAvailable := some (.int 2) }

/-- A stateful set with the labels of that instance, and nothing in it. -/
def housed : StatefulSet where
  metadata := { name := some "db", ns := some "demo", labels := some watched.selectors }

/-- That stateful set is there, and that budget. -/
def guarded : Memory := (Memory.insert {} .statefulSet housed).insert .disruptionBudget strictBudget

lemma placed_guarded : watched.Placed guarded.objects := by
  intro set hset
  have hwhole : Record.Whole housed :=
    whole_statefulSet_iff.2 ⟨whole_objectMeta_iff.2 rfl, Record.whole_of_eq_none rfl, rfl⟩
  have hhoused : Contains guarded.objects .statefulSet ⟨watched.ns, watched.name⟩ housed :=
    ⟨rfl, hwhole⟩
  rw [hset.unique hhoused]
  rfl

theorem reconcile_agrees_watched : ∃ last,
    (reconcile watched {} {}).run answer guarded = (.ok .patched, last) ∧
    ∃ set budget governing primary, watched.Agrees last.objects set budget governing primary ∧
      Contains last.objects .disruptionBudget ⟨"demo", "db"⟩ budget := by
  have htyped : Typed guarded.objects :=
    (Typed.insert typed_nil .statefulSet housed).insert .disruptionBudget strictBudget
  have hevaluated : ((reconcile watched {} {}).run answer guarded).1 = .ok .patched := by
    decide +kernel
  have hrun := run_of_fst hevaluated
  have hname : watched.name ≠ "" := by decide
  have hleast : watched.replicas ≠ Int32.minValue := by decide
  obtain ⟨set, budget, governing, primary, hagrees, hplaced⟩ :=
    reconcile_agrees hname hleast htyped hrun
  exact ⟨_, hrun, set, budget, governing, primary, hagrees, hplaced placed_guarded⟩

/-- The stateful set that says nothing of its namespace is there, and a budget under the instance's
name. -/
def adrift : Memory := misplaced.insert .disruptionBudget strictBudget

/-- A pass over them ends well, and the budget is left as it was: it still asks for two members. -/
theorem budget_left_strict : ∃ last, Typed adrift.objects ∧
    migrated.name ≠ "" ∧ migrated.replicas ≠ Int32.minValue ∧
    (reconcile migrated {} {}).run answer adrift = (.ok .patched, last) ∧
    Contains last.objects .disruptionBudget migrated.budgetPart.id strictBudget ∧
    strictBudget.spec.bind (·.minAvailable) = some (.int 2) := by
  have htyped : Typed adrift.objects := typed_misplaced.insert .disruptionBudget strictBudget
  have hevaluated : let last := ((reconcile migrated {} {}).run answer adrift).2
      ((reconcile migrated {} {}).run answer adrift).1 = .ok .patched ∧
      lookup last.objects migrated.budgetPart.key = some (Record.encode strictBudget) := by
    decide +kernel
  have hwhole : Record.Whole strictBudget :=
    whole_disruptionBudget_iff.2 ⟨whole_objectMeta_iff.2 rfl, rfl⟩
  obtain ⟨hrun, hleft⟩ := hevaluated
  exact ⟨_, htyped, by decide, by decide, run_of_fst hrun, ⟨hleft, hwhole⟩, rfl⟩

end Pass

end PgOperator
