import Mathlib.Data.List.Forall2
import Mathlib.Tactic.Lemma
import PgOperator.Proofs.Services

/-!
What the API server fills in on the ports of a service.

A port that says none gets the protocol TCP, a node port, and its own number as the target. The
database service takes the live allocation over for its own port only: the user's ports of other
names are put behind it as the instance gives them, whatever is live. So the service that comes
back is what the operator asks for if and only if nothing was filled in there
(`Postgres.databaseService_allocated_iff`).
-/

namespace PgOperator

open Kube

namespace Kube

/-! ### What the server fills in -/

structure ServicePort.Allocated (old new : ServicePort) : Prop where
  protocol : new.protocol = old.protocol ∨ new.protocol = old.protocol.or (some "TCP")
  nodePort : Fills old.nodePort new.nodePort
  targetPort : new.targetPort = old.targetPort ∨
    new.targetPort = old.targetPort.or (some (.int old.port))
  others : new =
    { old with
      protocol := new.protocol
      nodePort := new.nodePort
      targetPort := new.targetPort }

/-- A specification of which the server may fill in fields of the ports. -/
structure ServiceSpec.Allocated (old new : ServiceSpec) : Prop where
  ports : Option.Rel (List.Forall₂ ServicePort.Allocated) old.ports new.ports
  others : new = { old with ports := new.ports }

structure Service.Allocated (old new : Service) : Prop where
  spec : Option.Rel ServiceSpec.Allocated old.spec new.spec
  others : new = { old with spec := new.spec }

def Service.portList (service : Service) : List ServicePort :=
  (service.spec.bind (·.ports)).getD []

def Service.withPorts (service : Service) (ports : List ServicePort) : Service :=
  { service with spec := some { service.spec.getD {} with ports := some ports } }

lemma Service.portList_withPorts (service : Service) (ports : List ServicePort) :
    (service.withPorts ports).portList = ports := rfl

lemma Service.withPorts_inj (service : Service) {ports ports' : List ServicePort} :
    service.withPorts ports = service.withPorts ports' ↔ ports = ports' :=
  ⟨fun h => congrArg Service.portList h, fun h => h ▸ rfl⟩

lemma Service.Allocated.exists_withPorts {old new : Service} (h : old.Allocated new)
    {ports : List ServicePort} (hports : old.spec.bind (·.ports) = some ports) :
    ∃ ports', List.Forall₂ ServicePort.Allocated ports ports' ∧ new = old.withPorts ports' := by
  obtain ⟨metadata, spec, status⟩ := old
  obtain ⟨spec, rfl, hspec⟩ := Option.bind_eq_some_iff.1 hports
  obtain ⟨spec', hspec', hrel⟩ := exists_of_rel_some h.spec
  obtain ⟨ports', hports', hall⟩ := exists_of_rel_some (hspec ▸ hrel.ports)
  refine ⟨ports', hall, h.others.trans ?_⟩
  rw [hspec', hrel.others, hports']
  rfl

/-- The port with its protocol, a node port if there is one to allocate, and its target. -/
def ServicePort.allocated (nodePort : Option Int32) (port : ServicePort) : ServicePort :=
  { port with
    protocol := port.protocol.or (some "TCP")
    nodePort := port.nodePort.or nodePort
    targetPort := port.targetPort.or (some (.int port.port)) }

/-- The service with all that the server sets on its ports, with the given node ports. -/
def Service.allocated (nodePorts : ServicePort → Option Int32) (service : Service) : Service :=
  { service with
    spec := service.spec.map fun spec =>
      { spec with ports := spec.ports.map (List.map fun port => port.allocated (nodePorts port)) } }

lemma Service.allocated_allocated (nodePorts : ServicePort → Option Int32) (service : Service) :
    service.Allocated (service.allocated nodePorts) := by
  have hport (port : ServicePort) : port.Allocated (port.allocated (nodePorts port)) :=
    ⟨.inr rfl, fills_or _ _, .inr rfl, rfl⟩
  exact ⟨rel_map (fun _ => ⟨rel_map (forall₂_map hport) _, rfl⟩) _, rfl⟩

lemma fills_of_eq_or {α : Type} {old new default : Option α}
    (h : new = old ∨ new = old.or default) :
    Fills old new := by
  rcases h with rfl | rfl
  · exact .refl _
  · exact fills_or _ _

lemma ServicePort.Allocated.eq_allocate {old new : ServicePort} (h : old.Allocated new)
    (htarget : old.targetPort ≠ none) : new = old.allocate new.nodePort new.protocol := by
  obtain ⟨target, htarget⟩ := Option.ne_none_iff_exists'.1 htarget
  have hsame : new.targetPort = old.targetPort :=
    (fills_of_eq_or h.targetPort target htarget).trans htarget.symm
  refine h.others.trans ?_
  rw [hsame]
  rfl

/-! ### The service's own port -/

lemma overlayPort_target {port : ServicePort} (h : port.targetPort ≠ none) (upper : ServicePort) :
    (overlayPort port upper).targetPort ≠ none := by
  cases htarget : upper.targetPort with
  | none => simpa [overlayPort, htarget] using h
  | some target => by_cases hzero : isZeroTarget target <;> simp [overlayPort, htarget, hzero, h]

lemma foldl_overlayPort_target (overrides : List ServicePort) {port : ServicePort}
    (h : port.targetPort ≠ none) : (overrides.foldl overlayPort port).targetPort ≠ none := by
  induction overrides generalizing port with
  | nil => exact h
  | cons upper rest ih => exact ih (overlayPort_target h upper)

end Kube

namespace Postgres

variable {db : Postgres} {role : ServiceRole}

/-- The ports of a database service: its own one, which has a target, and behind it the user's ports
of other names as they are given. -/
lemma exists_databaseServicePorts (db : Postgres) (role : ServiceRole) (live : List ServicePort) :
    ∃ own, own.targetPort ≠ none ∧ db.databaseServicePorts role live =
      own :: overlayServicePorts [] ((role.template db).spec.ports.filter
        fun upper => ¬ some role.portName = upper.name) :=
  ⟨_, foldl_overlayPort_target _ (by exact nofun), overlay_merge_eq rfl rfl live _⟩

lemma databaseService_withPorts (db : Postgres) (role : ServiceRole) (live : Service)
    (ports : List ServicePort) : db.databaseService role (live.withPorts ports) =
      (db.databaseService role live).withPorts (db.databaseServicePorts role ports) := rfl

/-- The ports that come back are asked for again if and only if those behind the service's own one
are the user's. -/
lemma databaseServicePorts_allocated_iff {live new : List ServicePort}
    (h : List.Forall₂ ServicePort.Allocated (db.databaseServicePorts role live) new) :
    db.databaseServicePorts role new = new ↔
      new.tail = (db.databaseServicePorts role live).tail := by
  obtain ⟨own, htarget, hports⟩ := db.exists_databaseServicePorts role live
  rw [hports] at h
  obtain ⟨own', others, hown, -, rfl⟩ := List.forall₂_cons_left_iff.1 h
  have hagain := overlay_merge_filled rfl rfl hports hown.nodePort (fills_of_eq_or hown.protocol)
    others
  rw [← hown.eq_allocate htarget] at hagain
  rw [hports, List.tail_cons, List.tail_cons]
  exact (Eq.congr_left hagain).trans (List.cons_eq_cons.trans ⟨fun h => h.2.symm,
    fun h => ⟨rfl, h.symm⟩⟩)

/-- **Convergence of the services under allocation**: the service that an operator has written and
the server has filled in is what the operator asks for, if and only if nothing was filled in on the
ports behind the service's own. -/
theorem databaseService_allocated_iff (db : Postgres) (role : ServiceRole) (live new : Service)
    (h : (db.databaseService role live).Allocated new) :
    db.databaseService role new = new ↔
      new.portList.tail = (db.databaseService role live).portList.tail := by
  obtain ⟨ports, hports, rfl⟩ := h.exists_withPorts rfl
  have hagain := (db.steady_databaseService role).again live
  rw [databaseService_withPorts, hagain, Service.withPorts_inj, Service.portList_withPorts]
  exact databaseServicePorts_allocated_iff hports

/-- An instance whose primary is reached at a port of every node, perhaps with more ports. -/
def exposed (extra : List ServicePort) : Postgres where
  metadata := { name := some "db", ns := some "demo" }
  spec := { serviceTemplate := { spec := { type := some "NodePort", ports := extra } } }

/-- The server allocates a node port, and the next pass leaves it as it is. -/
theorem databaseService_allocated_iff_exposed :
    let service := (exposed []).databaseService .primary {}
    let new := service.allocated fun _ => some 30432
    new ≠ service ∧ (exposed []).databaseService .primary new = new := by
  refine ⟨fun heq => ?_, (databaseService_allocated_iff _ _ _ _
    (Service.allocated_allocated _ _)).2 rfl⟩
  exact absurd (congrArg Service.portList heq) (by decide)

/-- A port for metrics on the same service is allocated a node port, too, which the next pass takes
away. -/
theorem databaseService_loses_nodePort :
    ∃ (db : Postgres) (role : ServiceRole) (live new : Service),
      (db.databaseService role live).Allocated new ∧ db.databaseService role new ≠ new := by
  let metrics : ServicePort := { name := some "metrics", port := 9187 }
  let nodePorts (port : ServicePort) : Option Int32 :=
    if port.name = metrics.name then some 30187 else some 30432
  refine ⟨exposed [metrics], .primary, {}, _, Service.allocated_allocated nodePorts _,
    fun heq => ?_⟩
  exact absurd (congrArg Service.portList heq) (by decide)

end Postgres

end PgOperator
