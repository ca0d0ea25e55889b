import Mathlib.Tactic.Lemma
import PgOperator.Proofs.Overlay
import PgOperator.Proofs.Served
import PgOperator.Proofs.Workload

/-!
What the API server completes inside the values that the operator writes.

A reference to a field of the pod gets the version of the API, a check over gRPC a service, a
request of a handler its scheme, and resources the requests that follow from their limits. Of all
this only the checks are merged with the live ones, and not in their gRPC part: variables, handlers
and resources are replaced as a whole. So the stateful set that comes back is what the operator
asks for if and only if there was nothing to complete (`Postgres.statefulSet_completed_iff`), and
an instance whose members are told their namespace by the operator always has something
(`Postgres.statefulSet_completed_ne`).
-/

namespace PgOperator

open Kube

namespace Kube

/-! ### What the server completes -/

/-- The reference with the version of the API. -/
def ObjectFieldSelector.completed (ref : ObjectFieldSelector) : ObjectFieldSelector :=
  { ref with apiVersion := ref.apiVersion.or (some "v1") }

/-- The variable with the version of the API, where it refers to a field of the pod. -/
def EnvVar.completed (var : EnvVar) : EnvVar :=
  { var with
    valueFrom := var.valueFrom.map fun source =>
      { source with fieldRef := source.fieldRef.map (·.completed) } }

/-- The health request for a service, be it the one without a name. -/
def GRPCAction.completed (action : GRPCAction) : GRPCAction :=
  { action with service := action.service.or (some "") }

/-- The probe with a service in its gRPC part. -/
def Probe.completed (probe : Probe) : Probe :=
  { probe with grpc := probe.grpc.map (·.completed) }

def LifecycleHandler.completed (handler : LifecycleHandler) : LifecycleHandler :=
  { handler with httpGet := handler.httpGet.map (·.defaulted) }

def Lifecycle.completed (lifecycle : Lifecycle) : Lifecycle where
  postStart := lifecycle.postStart.map (·.completed)
  preStop := lifecycle.preStop.map (·.completed)

def ResourceRequirements.completed (resources : ResourceRequirements) : ResourceRequirements :=
  match resources.limits with
  | some limits =>
    if limits.isEmpty then resources
    else { resources with requests := some (limits.extend (resources.requests.getD .empty)) }
  | none => resources

/-- The container with its variables, checks, handlers and resources completed. -/
def Container.completed (c : Container) : Container :=
  { c with
    env := c.env.map (List.map (·.completed))
    livenessProbe := c.livenessProbe.map (·.completed)
    readinessProbe := c.readinessProbe.map (·.completed)
    lifecycle := c.lifecycle.map (·.completed)
    resources := c.resources.map (·.completed) }

def PodSpec.completed (pod : PodSpec) : PodSpec :=
  { pod with
    initContainers := pod.initContainers.map (List.map (·.completed))
    containers := pod.containers.map (·.completed) }

/-- The stateful set as the server gives it back. -/
def StatefulSet.completed (set : StatefulSet) : StatefulSet :=
  { set with
    spec := set.spec.map fun spec =>
      { spec with
        template := { spec.template with spec := spec.template.spec.map (·.completed) } } }

def PodSpec.withContainers (pod : PodSpec) (containers : List Container) : PodSpec :=
  { pod with containers := containers }

lemma PodSpec.withContainers_inj (pod : PodSpec) {containers containers' : List Container} :
    pod.withContainers containers = pod.withContainers containers' ↔ containers = containers' :=
  ⟨congrArg PodSpec.containers, fun h => h ▸ rfl⟩

def StatefulSet.withPod (set : StatefulSet) (pod : PodSpec) : StatefulSet :=
  { set with
    spec := some { set.specification with
      template := { set.specification.template with spec := some pod } } }

lemma StatefulSet.withPod_inj (set : StatefulSet) {pod pod' : PodSpec} :
    set.withPod pod = set.withPod pod' ↔ pod = pod' :=
  ⟨congrArg StatefulSet.pod, fun h => h ▸ rfl⟩

/-! ### Completed containers -/

/-- Nothing of a container is left to complete. Of several variables of one name the first one
counts, as it is in the container, and the last one, as it is merged. -/
structure Container.Complete (c : Container) : Prop where
  env : ∀ env, c.env = some env →
    ∀ name last, env.findRev? (fun var => name = var.name) = some last →
      (env.find? fun var => name = var.name).map (·.completed) = some last
  livenessProbe : c.livenessProbe.map (·.completed) = c.livenessProbe
  readinessProbe : c.readinessProbe.map (·.completed) = c.readinessProbe
  lifecycle : c.lifecycle.map (·.completed) = c.lifecycle
  resources : c.resources.map (·.completed) = c.resources

lemma mergeProbe_completed (probe : Option Probe) :
    mergeProbe (probe.map (·.completed)) probe = probe := by
  cases probe with
  | none => rfl
  | some probe =>
    obtain ⟨get, _⟩ := probe
    cases get <;> simp [mergeProbe, Probe.completed]

lemma mergeContainer_completed {c : Container}
    (hmounts : ∀ mounts, c.volumeMounts = some mounts → (mounts.map (·.name)).Nodup)
    (hports : ∀ ports, c.ports = some ports → (ports.map (·.containerPort)).Nodup) :
    mergeContainer c.completed c =
      { c with env := c.env.map fun env => upsertEnv (env.map (·.completed)) env } := by
  have hmountsSelf := laidOver_self fun mounts hc => upsertMounts_self (hmounts mounts hc)
  have hresources : c.resources.or (c.resources.map (·.completed)) = c.resources := by
    cases c.resources <;> rfl
  have henv : laidOver upsertEnv (c.env.map (List.map (·.completed))) c.env =
      c.env.map fun env => upsertEnv (env.map (·.completed)) env := by
    cases c.env <;> rfl
  simp only [mergeContainer_eq, Container.completed, mergeProbe_completed, Option.or_self,
    map_mergeContainerPorts_self hports, hmountsSelf, hresources, henv]

lemma upsertEnv_completed_eq_iff (env : List EnvVar) :
    upsertEnv (env.map (·.completed)) env = env.map (·.completed) ↔
      ∀ name last, env.findRev? (fun var => name = var.name) = some last →
        (env.find? fun var => name = var.name).map (·.completed) = some last := by
  refine upsertAll_eq_self_iff.trans (forall_congr' fun name => forall_congr' fun last => ?_)
  rw [List.find?_map]
  rfl

/-- Merging a container into the completed one undoes the completion, so nothing may be left to
complete. -/
lemma mergeContainer_completed_eq_iff {c : Container}
    (hmounts : ∀ mounts, c.volumeMounts = some mounts → (mounts.map (·.name)).Nodup)
    (hports : ∀ ports, c.ports = some ports → (ports.map (·.containerPort)).Nodup) :
    mergeContainer c.completed c = c.completed ↔ c.Complete := by
  rw [mergeContainer_completed hmounts hports]
  constructor
  · intro h
    refine ⟨fun env henv => ?_, (congrArg Container.livenessProbe h).symm,
      (congrArg Container.readinessProbe h).symm, (congrArg Container.lifecycle h).symm,
      (congrArg Container.resources h).symm⟩
    have hvars := congrArg Container.env h
    simp only [Container.completed, henv, Option.map_some, Option.some.injEq] at hvars
    exact (upsertEnv_completed_eq_iff env).1 hvars
  · intro h
    have hvars : (c.env.map fun env => upsertEnv (env.map (·.completed)) env) =
        c.env.map (List.map (·.completed)) :=
      Option.map_congr fun env henv => (upsertEnv_completed_eq_iff env).2 (h.env env henv)
    rw [Container.completed, hvars, h.livenessProbe, h.readinessProbe, h.lifecycle, h.resources]

end Kube

namespace Postgres

variable {db : Postgres} {version : PostgresVersion} {options : Options}

/-! ### The containers of the instance -/

lemma nodup_mounts_of_mem_containers {c : Container}
    (hc : c ∈ db.containers version options db.volumes) {mounts : List VolumeMount}
    (heq : c.volumeMounts = some mounts) : (mounts.map (·.name)).Nodup := by
  rcases List.mem_cons.1 hc with rfl | hc
  · exact distinct_databaseContainer.mounts mounts heq
  · obtain ⟨-, -, -, -, hmounts, -⟩ := exporterContainer?_eq_some (Option.mem_toList.1 hc)
    exact absurd (hmounts.symm.trans heq).symm (Option.some_ne_none mounts)

lemma nodup_ports_of_mem_containers {c : Container}
    (hc : c ∈ db.containers version options db.volumes) {ports : List ContainerPort}
    (heq : c.ports = some ports) : (ports.map (·.containerPort)).Nodup := by
  rcases List.mem_cons.1 hc with rfl | hc
  · exact distinct_databaseContainer.ports ports heq
  · obtain ⟨-, -, -, -, -, port, hports⟩ := exporterContainer?_eq_some (Option.mem_toList.1 hc)
    obtain rfl := Option.some.inj (hports.symm.trans heq)
    exact List.pairwise_singleton _ _

lemma mergeContainer_completed_eq_iff_of_mem {c : Container}
    (hc : c ∈ db.containers version options db.volumes) :
    mergeContainer c.completed c = c.completed ↔ c.Complete :=
  mergeContainer_completed_eq_iff (fun _ => nodup_mounts_of_mem_containers hc)
    fun _ => nodup_ports_of_mem_containers hc

/-! ### The pod -/

section Pod

variable (hinits : db.spec.podTemplate.spec.initContainers = [])

include hinits

lemma podSpec_withContainers (live : PodSpec) (containers : List Container) :
    db.podSpec version options
        ((db.podSpec version options live).withContainers containers) =
      (db.podSpec version options live).withContainers
        (upsertContainers containers (db.containers version options db.volumes)) := by
  simp only [PodSpec.withContainers, podSpec_eq, hinits, List.isEmpty_nil, if_true,
    (setsOrLeaves_givenOr _).again, Option.getD_some, mergedVolumes_mergedVolumes]

lemma completed_podSpec :
    (db.podSpec version options {}).completed =
      (db.podSpec version options {}).withContainers
        ((db.containers version options db.volumes).map (·.completed)) := by
  have hcontainers : upsertContainers [] (db.containers version options db.volumes) =
      db.containers version options db.volumes :=
    foldl_lay_nil (fun c _ => keepsKey_container c) nodup_names_containers
  simp only [PodSpec.completed, PodSpec.withContainers, podSpec_eq, hinits, List.isEmpty_nil,
    if_true, hcontainers, Option.map_none]

lemma podSpec_completed :
    db.podSpec version options (db.podSpec version options {}).completed =
      (db.podSpec version options {}).withContainers
        ((db.containers version options db.volumes).map fun c => mergeContainer c.completed c) := by
  have hcontainers : upsertContainers
      ((db.containers version options db.volumes).map (·.completed))
        (db.containers version options db.volumes) =
      (db.containers version options db.volumes).map fun c => mergeContainer c.completed c :=
    foldl_lay_map (fun _ => rfl) (fun c _ => keepsKey_container c) nodup_names_containers
  rw [completed_podSpec hinits, podSpec_withContainers hinits, hcontainers]

lemma podSpec_completed_eq_iff :
    db.podSpec version options (db.podSpec version options {}).completed =
        (db.podSpec version options {}).completed ↔
      ∀ c ∈ db.containers version options db.volumes, c.Complete := by
  rw [podSpec_completed hinits, completed_podSpec hinits, PodSpec.withContainers_inj,
    List.map_inj_left]
  exact forall₂_congr fun c hc => mergeContainer_completed_eq_iff_of_mem hc

end Pod

/-! ### The stateful set -/

lemma statefulSet_withPod (live : StatefulSet) (pod : PodSpec) :
    db.statefulSet version options ((db.statefulSet version options live).withPod pod) =
      (db.statefulSet version options live).withPod (db.podSpec version options pod) := by
  have hmeta := (ObjectMeta.steady_layer_ensureOwner db.ownerReference db.labels
    db.spec.podTemplate.controller.annotations).again live.metadata
  refine congrArg₂ (fun metadata spec => StatefulSet.mk metadata spec live.status) hmeta
    (congrArg some ?_)
  simp only [StatefulSet.withPod, StatefulSet.specification, statefulSet, Option.getD_some,
    ObjectMeta.layer_layer, claimTemplates_claimTemplates]

lemma completed_statefulSet (live : StatefulSet) :
    (db.statefulSet version options live).completed =
      (db.statefulSet version options live).withPod
        (db.podSpec version options live.pod).completed := rfl

lemma statefulSet_completed_eq_iff (live : StatefulSet) :
    db.statefulSet version options (db.statefulSet version options live).completed =
        (db.statefulSet version options live).completed ↔
      db.podSpec version options (db.podSpec version options live.pod).completed =
        (db.podSpec version options live.pod).completed := by
  rw [completed_statefulSet, statefulSet_withPod, StatefulSet.withPod_inj]

/-- **Convergence under completion**: the stateful set that an operator has made and the server has
completed is what the operator asks for, if and only if nothing was left to complete in the
containers of the instance. -/
theorem statefulSet_completed_iff (db : Postgres) (version : PostgresVersion) (options : Options)
    (metadata : ObjectMeta) (hinits : db.spec.podTemplate.spec.initContainers = []) :
    db.statefulSet version options (db.statefulSet version options { metadata }).completed =
        (db.statefulSet version options { metadata }).completed ↔
      ∀ c ∈ db.containers version options db.volumes, c.Complete :=
  (statefulSet_completed_eq_iff { metadata }).trans (podSpec_completed_eq_iff hinits)

/-- An instance whose user says where its members are. -/
def located : Postgres where
  metadata := { name := some "db", ns := some "demo" }
  spec := { podTemplate := { spec := { env := [plainVar "NAMESPACE" "demo"] } } }

/-- None of the variables refers to a field of the pod, so nothing is left to complete. -/
theorem statefulSet_completed_iff_located :
    located.statefulSet {} {} (located.statefulSet {} {} {}).completed =
      (located.statefulSet {} {} {}).completed := by
  refine (statefulSet_completed_iff located {} {} {} rfl).2 fun c hc => ?_
  obtain rfl := List.mem_singleton.1 hc
  refine ⟨fun env henv => (upsertEnv_completed_eq_iff env).1 ?_, rfl, rfl, rfl, rfl⟩
  obtain rfl := Option.some.inj henv
  decide +kernel

/-! ### The variable of the namespace -/

/-- The variable that tells a member its namespace. -/
def namespaceVar : EnvVar := fieldVar "NAMESPACE" "metadata.namespace"

lemma exists_derivedEnv (db : Postgres) : ∃ vars, db.derivedEnv = namespaceVar :: vars ∧
    ∀ var ∈ vars, var.name ≠ "NAMESPACE" := by
  refine ⟨_, rfl, ?_⟩
  refine List.forall_mem_append.2 ⟨List.forall_mem_append.2 ⟨List.forall_mem_append.2
    ⟨List.forall_mem_append.2 ⟨?_, ?_⟩, ?_⟩, ?_⟩, ?_⟩
  · simp
  · simp [replicationEnv]
  · cases db.spec.leaderElection <;> simp [leaderElectionEnv]
  · cases db.archive? with
    | none => exact List.forall_mem_nil _
    | some storage =>
      intro var hvar
      obtain ⟨rest, hname⟩ := exists_name_of_mem_archiveEnv var hvar
      simp [hname, ← String.toList_inj]
  · cases db.restore? with
    | none => exact List.forall_mem_nil _
    | some wal =>
      intro var hvar
      rcases name_of_mem_restoreEnv var hvar with ⟨rest, hname⟩ | hmem
      · simp [hname, ← String.toList_inj]
      · rintro heq
        exact absurd (heq ▸ hmem) (by decide)

lemma namespace_mem_containerEnv (db : Postgres) (options : Options) :
    "NAMESPACE" ∈ (db.containerEnv options).map (·.name) := by
  have hderived : "NAMESPACE" ∈ db.derivedEnv.map (·.name) :=
    List.mem_map.2 ⟨namespaceVar, List.mem_cons_self, rfl⟩
  have henv : "NAMESPACE" ∈ db.env.map (·.name) :=
    (mem_keys_foldl_lay fun var _ => keepsKey_replace var).2 (.inl hderived)
  exact (mem_keys_foldl_lay fun var _ => keepsKey_replace var).2 (.inr henv)

section Namespace

variable (huser : ∀ var ∈ db.spec.podTemplate.spec.env, var.name ≠ "NAMESPACE")

include huser

lemma eq_namespaceVar_of_mem_containerEnv :
    ∀ var ∈ db.containerEnv options, var.name = "NAMESPACE" → var = namespaceVar := by
  obtain ⟨vars, hderived, hvars⟩ := db.exists_derivedEnv
  have henv : ∀ var ∈ db.env, var.name = "NAMESPACE" → var = namespaceVar := by
    refine forall_mem_foldl_lay ?_ (fun var hvar hname => absurd hname (huser var hvar))
      fun _ _ var hvar hname => absurd hname (huser var hvar)
    rw [hderived]
    exact List.forall_mem_cons.2 ⟨fun _ => rfl, fun var hvar hname => absurd hname (hvars var hvar)⟩
  refine forall_mem_foldl_lay ?_ henv fun _ _ var hvar => henv var hvar
  simp

/-- The version of the API is left to complete in the variable of the namespace. -/
lemma not_complete_databaseContainer :
    ¬ (db.databaseContainer version options db.volumes).Complete := by
  intro hcomplete
  have hown : ∀ var ∈ db.containerEnv options, var.name = "NAMESPACE" → var = namespaceVar :=
    eq_namespaceVar_of_mem_containerEnv huser
  obtain ⟨var, hvar, hname⟩ := List.mem_map.1 (namespace_mem_containerEnv db options)
  obtain ⟨last, hlast⟩ := exists_findRev?_of_mem EnvVar.name hvar
  obtain ⟨first, hfirst, hcompleted⟩ := Option.map_eq_some_iff.1 (hcomplete.env _ rfl _ last hlast)
  have hfirstName := List.find?_some hfirst
  obtain ⟨hlastMem, hlastName⟩ := mem_of_findRev?_key hlast
  -- Both the first and the last variable of the name are the operator's.
  rw [hown first (List.mem_of_find?_eq_some hfirst)
      ((of_decide_eq_true hfirstName).symm.trans hname),
    hown last hlastMem (hlastName.symm.trans hname)] at hcompleted
  exact absurd hcompleted (by decide)

/-- **Completion undone in every pass**: where the user does not set the variable of the namespace,
the operator takes the version of the API out of it again. -/
theorem statefulSet_completed_ne (hinits : db.spec.podTemplate.spec.initContainers = [])
    (metadata : ObjectMeta) :
    db.statefulSet version options (db.statefulSet version options { metadata }).completed ≠
      (db.statefulSet version options { metadata }).completed := by
  intro h
  have hpod := (statefulSet_completed_eq_iff { metadata }).1 h
  exact not_complete_databaseContainer huser
    ((podSpec_completed_eq_iff hinits).1 hpod _ List.mem_cons_self)

end Namespace

/-- An instance of which the user says no more than its name. -/
def bare : Postgres where
  metadata := { name := some "db", ns := some "demo" }

/-- The barest instance is patched in every pass. -/
theorem statefulSet_loses_apiVersion :
    bare.statefulSet {} {} (bare.statefulSet {} {} {}).completed ≠
      (bare.statefulSet {} {} {}).completed :=
  statefulSet_completed_ne (List.forall_mem_nil _) rfl {}

end Postgres

end PgOperator
