import Mathlib.Tactic.Lemma
import PgOperator.Desired
import PgOperator.Proofs.Filling
import PgOperator.Proofs.Steady

/-!
The services and the disruption budget are steady.

Of the live ports only the node port and the protocol of a service's own port matter. The user's
ports are laid over it one after the other, and each either sets such a field or leaves it, so
that the field is the same when they are laid over the result, and what is filled in where they
all leave it stays (`overlay_merge_filled`).
-/

namespace PgOperator

open Kube

/-! ### Folds whose steps set a value or leave it -/

/-- The step sets a fixed value, or leaves the value there is. -/
def SetsOrLeaves {α : Type} (f : α → α) : Prop := (∀ a, f a = a) ∨ ∃ value, ∀ a, f a = value

/-- A number that is given and positive, or else the live one. -/
def positiveOr (given live : Option Int32) : Option Int32 :=
  match given with
  | some n => if 0 < n then some n else live
  | none => live

lemma setsOrLeaves_positiveOr (given : Option Int32) : SetsOrLeaves (positiveOr given) := by
  cases given with
  | none => exact .inl fun _ => rfl
  | some n =>
    by_cases h : 0 < n
    · exact .inr ⟨some n, fun _ => if_pos h⟩
    · exact .inl fun _ => if_neg h

lemma setsOrLeaves_givenOr (given : Option String) : SetsOrLeaves (Postgres.givenOr given) := by
  cases given with
  | none => exact .inl fun _ => rfl
  | some text =>
    by_cases h : text = ""
    · exact .inl fun _ => if_pos h
    · exact .inr ⟨some text, fun _ => if_neg h⟩

lemma SetsOrLeaves.again {α : Type} {f : α → α} (h : SetsOrLeaves f) (a : α) : f (f a) = f a := by
  rcases h with h | ⟨value, h⟩
  · rw [h, h]
  · rw [h, h]

lemma positiveOr_eq_or (given live : Option Int32) :
    positiveOr given live = (given.filter fun n => 0 < n).or live := by
  cases given with
  | none => rfl
  | some n => by_cases h : 0 < n <;> simp [positiveOr, Option.filter, h]

section Given

variable {α β : Type} (given : β → Option α) (items : List β)

lemma foldl_or (live : Option α) : items.foldl (fun live b => (given b).or live) live =
    (items.foldl (fun live b => (given b).or live) none).or live := by
  induction items generalizing live with
  | nil => rfl
  | cons b rest ih =>
    rw [List.foldl_cons, List.foldl_cons, ih, ih ((given b).or none), Option.or_none,
      Option.or_assoc]

lemma foldl_or_filled {live filled : Option α}
    (h : Fills (items.foldl (fun live b => (given b).or live) live) filled) :
    items.foldl (fun live b => (given b).or live) filled = filled := by
  rw [foldl_or] at h ⊢
  exact h.or_eq (or_or_self _ _)

end Given

/-! ### Ports -/

namespace Kube

lemma keepsKey_overlayPort (upper : ServicePort) : KeepsKey (·.name) overlayPort upper :=
  fun _ hname => hname

lemma overlayServicePorts_cons (port : ServicePort) (rest overrides : List ServicePort) :
    overlayServicePorts (port :: rest) overrides =
      (overrides.filter fun upper => port.name = upper.name).foldl overlayPort port ::
        overlayServicePorts rest (overrides.filter fun upper => ¬ port.name = upper.name) :=
  foldl_lay_cons (fun upper _ => keepsKey_overlayPort upper) port rest

/-- The port with a node port and a protocol. -/
def ServicePort.allocate (port : ServicePort) (nodePort : Option Int32) (protocol : Option String) :
    ServicePort := { port with nodePort := nodePort, protocol := protocol }

lemma overlayPort_allocate (port upper : ServicePort) (nodePort : Option Int32)
    (protocol : Option String) :
    overlayPort (port.allocate nodePort protocol) upper =
      (overlayPort port upper).allocate (positiveOr upper.nodePort nodePort)
        (upper.protocol.or protocol) := by
  cases h : upper.nodePort <;> simp [overlayPort, ServicePort.allocate, positiveOr, h]

lemma foldl_overlayPort_allocate (overrides : List ServicePort) (port : ServicePort)
    (nodePort : Option Int32) (protocol : Option String) :
    overrides.foldl overlayPort (port.allocate nodePort protocol) =
      (overrides.foldl overlayPort port).allocate
        (overrides.foldl (fun live upper => (upper.nodePort.filter fun n => 0 < n).or live)
          nodePort)
        (overrides.foldl (fun live upper => upper.protocol.or live) protocol) := by
  induction overrides generalizing port nodePort protocol with
  | nil => rfl
  | cons upper rest ih =>
    simp only [List.foldl_cons, overlayPort_allocate, positiveOr_eq_or, ih]

lemma foldl_overlayPort_filled {overrides : List ServicePort} {port result : ServicePort}
    (h : overrides.foldl overlayPort port = result) {nodePort : Option Int32}
    {protocol : Option String} (hnode : Fills result.nodePort nodePort)
    (hprotocol : Fills result.protocol protocol) :
    overrides.foldl overlayPort (port.allocate nodePort protocol) =
      result.allocate nodePort protocol := by
  have hresult := (foldl_overlayPort_allocate overrides port port.nodePort port.protocol).symm
  have hnodes := congrArg ServicePort.nodePort (hresult.trans h)
  have hprotocols := congrArg ServicePort.protocol (hresult.trans h)
  rw [foldl_overlayPort_allocate, h, foldl_or_filled _ overrides (hnodes ▸ hnode),
    foldl_or_filled _ overrides (hprotocols ▸ hprotocol)]

lemma mergeServicePorts_singleton (live : List ServicePort) (port : ServicePort) :
    mergeServicePorts live [port] = [match live.find? fun p => p.name = port.name with
      | some old => port.allocate (port.nodePort.or old.nodePort) (port.protocol.or old.protocol)
      | none => port] := by
  cases h : live.find? fun p => p.name = port.name <;>
    simp [mergeServicePorts, h, ServicePort.allocate]

lemma mergeServicePorts_mergeServicePorts (live : List ServicePort) (port : ServicePort) :
    mergeServicePorts (mergeServicePorts live [port]) [port] = mergeServicePorts live [port] := by
  rw [mergeServicePorts_singleton live, mergeServicePorts_singleton]
  cases live.find? fun p => p.name = port.name with
  | none => simp [ServicePort.allocate]
  | some old => simp [ServicePort.allocate, or_or_self]

lemma name_foldl_overlayPort (overrides : List ServicePort) (port : ServicePort) :
    (overrides.foldl overlayPort port).name = port.name := by
  induction overrides generalizing port with
  | nil => rfl
  | cons upper rest ih => exact ih (overlayPort port upper)

lemma mergeServicePorts_eq_allocate {port : ServicePort} (hnode : port.nodePort = none)
    (hprotocol : port.protocol = none) (live : List ServicePort) :
    mergeServicePorts live [port] =
      [port.allocate ((live.find? fun p => p.name = port.name).bind (·.nodePort))
        ((live.find? fun p => p.name = port.name).bind (·.protocol))] := by
  rw [mergeServicePorts_singleton]
  cases live.find? fun p => p.name = port.name with
  | none => simp [ServicePort.allocate, ← hnode, ← hprotocol]
  | some old => simp [ServicePort.allocate, hnode, hprotocol]

/-- The ports of a service: its own port, which gives no allocation and takes the live one, under
the overrides of its name, and behind it the overrides of other names. -/
lemma overlay_merge_eq {port : ServicePort} (hnode : port.nodePort = none)
    (hprotocol : port.protocol = none) (live overrides : List ServicePort) :
    overlayServicePorts (mergeServicePorts live [port]) overrides =
      (overrides.filter fun upper => port.name = upper.name).foldl overlayPort
          (port.allocate ((live.find? fun p => p.name = port.name).bind (·.nodePort))
            ((live.find? fun p => p.name = port.name).bind (·.protocol))) ::
        overlayServicePorts [] (overrides.filter fun upper => ¬ port.name = upper.name) := by
  rw [mergeServicePorts_eq_allocate hnode hprotocol, overlayServicePorts_cons]
  rfl

lemma overlay_merge_filled {port : ServicePort} (hnode : port.nodePort = none)
    (hprotocol : port.protocol = none) {overrides live : List ServicePort} {first : ServicePort}
    {rest : List ServicePort}
    (h : overlayServicePorts (mergeServicePorts live [port]) overrides = first :: rest)
    {nodePort : Option Int32} {protocol : Option String} (hnodes : Fills first.nodePort nodePort)
    (hprotocols : Fills first.protocol protocol) (others : List ServicePort) :
    overlayServicePorts
        (mergeServicePorts (first.allocate nodePort protocol :: others) [port]) overrides =
      first.allocate nodePort protocol :: rest := by
  rw [overlay_merge_eq hnode hprotocol] at h ⊢
  obtain ⟨hfirst, rfl⟩ := List.cons_eq_cons.1 h
  have hname : first.name = port.name := by
    rw [← hfirst, name_foldl_overlayPort]
    rfl
  have hfind : (first.allocate nodePort protocol :: others).find? (fun p => p.name = port.name) =
      some (first.allocate nodePort protocol) := List.find?_cons_of_pos (decide_eq_true hname)
  rw [hfind]
  exact congrArg (· :: _) (foldl_overlayPort_filled hfirst hnodes hprotocols)

lemma overlay_merge_again {port : ServicePort} (hnode : port.nodePort = none)
    (hprotocol : port.protocol = none) {overrides live result : List ServicePort}
    (h : overlayServicePorts (mergeServicePorts live [port]) overrides = result) :
    overlayServicePorts (mergeServicePorts result [port]) overrides = result := by
  obtain ⟨first, rest, rfl⟩ : ∃ first rest, result = first :: rest :=
    ⟨_, _, h.symm.trans (overlay_merge_eq hnode hprotocol live overrides)⟩
  exact overlay_merge_filled hnode hprotocol h (Fills.refl _) (Fills.refl _) rest

end Kube

/-! ### Services -/

namespace Postgres

theorem steady_governingService (db : Postgres) : Kind.Steady .service db.governingService := by
  let specify (spec : ServiceSpec) : ServiceSpec := { spec with
    type := some "ClusterIP"
    clusterIP := some "None"
    selector := some db.selectors
    publishNotReadyAddresses := some true }
  have hspec (spec : ServiceSpec) : specify (specify spec) = specify spec := rfl
  have hmeta := ObjectMeta.steady_ensureOwner_layer db.ownerReference db.labels none
  exact Kind.steady_revise .service hmeta (Kind.whole_revise .service hmeta nofun) hspec

theorem steady_statsService (db : Postgres) (port : Int32) :
    Kind.Steady .service (db.statsService port) := by
  let specify (spec : ServiceSpec) : ServiceSpec := { spec with
    selector := some db.selectors
    ports := some (mergeServicePorts (spec.ports.getD []) [{
      name := some exporterPortName
      protocol := some "TCP"
      port := port
      targetPort := some (.text exporterPortName) }]) }
  have hspec (spec : ServiceSpec) : specify (specify spec) = specify spec := by
    simp only [specify, Option.getD_some, mergeServicePorts_mergeServicePorts]
  have hmeta := ObjectMeta.steady_ensureOwner_layer db.ownerReference db.statsLabels none
  exact Kind.steady_revise .service hmeta (Kind.whole_revise .service hmeta nofun) hspec

theorem steady_databaseService (db : Postgres) (role : ServiceRole) :
    Kind.Steady .service (db.databaseService role) := by
  let overrides := (role.template db).spec
  let specify (spec : ServiceSpec) : ServiceSpec := { spec with
    selector := some (db.selectors.insert Label.role role.label)
    ports := some (db.databaseServicePorts role (spec.ports.getD []))
    clusterIP := givenOr overrides.clusterIP spec.clusterIP
    type := givenOr overrides.type spec.type
    externalIPs := overrides.externalIPs
    loadBalancerIP := overrides.loadBalancerIP
    loadBalancerSourceRanges := overrides.loadBalancerSourceRanges
    externalTrafficPolicy := overrides.externalTrafficPolicy <|> spec.externalTrafficPolicy
    healthCheckNodePort := positiveOr overrides.healthCheckNodePort spec.healthCheckNodePort }
  have hports (live : List ServicePort) : db.databaseServicePorts role
      (db.databaseServicePorts role live) = db.databaseServicePorts role live :=
    overlay_merge_again rfl rfl rfl
  have hspec (spec : ServiceSpec) : specify (specify spec) = specify spec := by
    simp [specify, hports, (setsOrLeaves_givenOr _).again, (setsOrLeaves_positiveOr _).again,
      or_or_self]
  have hmeta := ObjectMeta.steady_ensureOwner_layer db.ownerReference db.labels
    (role.template db).annotations
  exact Kind.steady_revise .service hmeta (Kind.whole_revise .service hmeta nofun) hspec

end Postgres

/-! ### The disruption budget -/

theorem Kube.StatefulSet.steady_disruptionBudget (set : StatefulSet) :
    Kind.Steady .disruptionBudget set.disruptionBudget := by
  let specify (spec : PodDisruptionBudgetSpec) : PodDisruptionBudgetSpec := { spec with
    selector := set.spec.map (·.selector)
    minAvailable := none
    maxUnavailable := some (.int (maxUnavailable set.replicas)) }
  have hspec (spec : PodDisruptionBudgetSpec) : specify (specify spec) = specify spec := rfl
  have hmeta := ObjectMeta.steady_layer_ensureOwner set.ownerReference
    (set.metadata.labels.getD .empty) none
  exact Kind.steady_revise .disruptionBudget hmeta
    (Kind.whole_revise .disruptionBudget hmeta nofun) hspec

end PgOperator
