import Mathlib.Tactic.Lemma
import PgOperator.Proofs.Allocation
import PgOperator.Proofs.Overlay

/-!
The ports of a database service.

They are a role's own port, with what is live of its allocation, under the user's ports
(`PortsUnder`): those of its own name are laid over it, and behind it stand the other names, each
once, in the order in which they come first. Nothing else that is live shows
(`Postgres.databaseService_ports`).
-/

namespace PgOperator

open Kube

lemma findSomeRev?_append {α β : Type} (given : β → Option α) (items more : List β) :
    (items ++ more).findSomeRev? given =
      (more.findSomeRev? given).or (items.findSomeRev? given) := by
  simp only [List.findSomeRev?_eq_findSome?_reverse, List.reverse_append, List.findSome?_append]

namespace Kube

/-! ### One port -/

namespace ServicePort

/-- A port under others: each field is the last one that is set. The number zero, a node port that
is not positive, and the zero or the empty target set nothing. -/
def under (port : ServicePort) (uppers : List ServicePort) : ServicePort where
  name := port.name
  port := (uppers.findSomeRev? fun p => if p.port = 0 then none else some p.port).getD port.port
  targetPort := (uppers.findSomeRev? fun p =>
    p.targetPort.filter fun t => t ≠ .int 0 ∧ t ≠ .text "").or port.targetPort
  nodePort := (uppers.findSomeRev? fun p => p.nodePort.filter fun n => 0 < n).or port.nodePort
  protocol := (uppers.findSomeRev? (·.protocol)).or port.protocol
  appProtocol := (uppers.findSomeRev? (·.appProtocol)).or port.appProtocol

lemma under_append (port : ServicePort) (uppers more : List ServicePort) :
    port.under (uppers ++ more) = (port.under uppers).under more := by
  simp only [under, findSomeRev?_append, Option.or_assoc, Option.getD_or]

end ServicePort

lemma isZeroTarget_iff {target : IntOrText} :
    isZeroTarget target = true ↔ target = .int 0 ∨ target = .text "" := by
  cases target <;> simp [isZeroTarget]

lemma targetPort_overlayPort (port upper : ServicePort) : (overlayPort port upper).targetPort =
    (upper.targetPort.filter fun t => t ≠ .int 0 ∧ t ≠ .text "").or port.targetPort := by
  unfold overlayPort
  cases upper.targetPort with
  | none => rfl
  | some target =>
    by_cases hzero : isZeroTarget target = true
    · rcases isZeroTarget_iff.1 hzero with rfl | rfl <;> rfl
    · obtain ⟨hint, htext⟩ := not_or.1 (mt isZeroTarget_iff.2 hzero)
      simp [hzero, hint, htext, Option.filter]

lemma overlayPort_eq_under (port upper : ServicePort) :
    overlayPort port upper = port.under [upper] := by
  have hnumber : (overlayPort port upper).port =
      (if upper.port = 0 then none else some upper.port).getD port.port := by
    unfold overlayPort
    split <;> rfl
  have hnode : (overlayPort port upper).nodePort =
      (upper.nodePort.filter fun n => 0 < n).or port.nodePort := positiveOr_eq_or _ _
  have hprotocol : (overlayPort port upper).protocol = upper.protocol.or port.protocol := by
    simp [overlayPort]
  have happ : (overlayPort port upper).appProtocol = upper.appProtocol.or port.appProtocol := by
    simp [overlayPort]
  show ServicePort.mk port.name (overlayPort port upper).port (overlayPort port upper).targetPort
    (overlayPort port upper).nodePort (overlayPort port upper).protocol
    (overlayPort port upper).appProtocol = port.under [upper]
  rw [hnumber, targetPort_overlayPort, hnode, hprotocol, happ]
  simp [ServicePort.under]

lemma foldl_overlayPort (uppers : List ServicePort) (port : ServicePort) :
    uppers.foldl overlayPort port = port.under uppers := by
  induction uppers generalizing port with
  | nil => rfl
  | cons upper rest ih =>
    rw [List.foldl_cons, ih, overlayPort_eq_under, ← ServicePort.under_append,
      List.singleton_append]

example : (ServicePort.under { port := 5432 } [{ port := 6000 }, { port := 0 }]).port = 6000 := by
  decide

/-! ### The list of ports -/

/-- A service's own port under the ports of a user. There is one port of each name, the own one
first and then the user's names in the order in which they come first. The user's ports of the own
name are laid over the own port; each other name has the first port that the user gives it, under
the later ones. -/
structure PortsUnder (own : ServicePort) (user ports : List ServicePort) : Prop where
  distinct : (ports.map (·.name)).Nodup
  names : ports.map (·.name) = own.name :: newKeys (·.name) [own] user
  first : ports.head? = some (own.under (user.filter fun p => p.name = own.name))
  others : ∀ port ∈ ports.tail, ∃ first later,
    (user.filter fun p => p.name = port.name) = first :: later ∧ port = first.under later

lemma keepsKey_of_mem_ports (user : List ServicePort) :
    ∀ upper ∈ user, KeepsKey (·.name) overlayPort upper := fun upper _ =>
  keepsKey_overlayPort upper

lemma overlayServicePorts_singleton (own : ServicePort) (user : List ServicePort) :
    ∃ rest, overlayServicePorts [own] user =
      own.under (user.filter fun p => p.name = own.name) :: rest := by
  refine ⟨overlayServicePorts [] (user.filter fun p => ¬ own.name = p.name), ?_⟩
  rw [overlayServicePorts_cons, foldl_overlayPort, decide_key_comm]

theorem portsUnder_overlay (own : ServicePort) (user : List ServicePort) :
    PortsUnder own user (overlayServicePorts [own] user) := by
  have hdistinct : ((overlayServicePorts [own] user).map (·.name)).Nodup :=
    nodup_keys_foldl_lay (keepsKey_of_mem_ports user) (List.pairwise_singleton _ _)
  obtain ⟨rest, hports⟩ := overlayServicePorts_singleton own user
  refine ⟨hdistinct, ?names, ?first, fun port hport => ?others⟩
  case names => exact map_key_foldl_lay (keepsKey_of_mem_ports user) [own]
  case first => rw [hports, List.head?_cons]
  case others =>
    have hfound := find?_key_of_mem hdistinct (List.mem_of_mem_tail hport)
    rw [hports, List.tail_cons] at hport
    rw [hports] at hdistinct
    have hown : own.name ≠ port.name := fun heq =>
      (List.nodup_cons.1 hdistinct).1 (List.mem_map.2 ⟨port, hport, heq.symm⟩)
    -- Nothing but the user's ports of this name is laid over each other.
    have hlaid := (find?_foldl_lay (keepsKey_of_mem_ports user) port.name [own]).symm.trans hfound
    rw [List.find?_cons_of_neg (by simpa using hown), List.find?_nil] at hlaid
    cases hsame : user.filter fun p => p.name = port.name with
    | nil =>
      rw [hsame] at hlaid
      exact absurd hlaid nofun
    | cons first later =>
      rw [hsame, List.foldl_cons] at hlaid
      refine ⟨first, later, rfl, ?_⟩
      exact (Option.some.inj ((foldl_layOver_some later first).symm.trans hlaid)).symm.trans
        (foldl_overlayPort later first)

end Kube

namespace Postgres

/-- **The ports of a database service** are its own one, with the node port and the protocol of the
first live port of its name, under the ports of the user's template. Asking for them again changes
nothing. -/
theorem databaseService_ports (db : Postgres) (role : ServiceRole) (live : Service) :
    let old := live.portList.find? fun p => p.name = some role.portName
    let own : ServicePort := {
      name := some role.portName
      port := 5432
      targetPort := some (.text "api")
      nodePort := old.bind (·.nodePort)
      protocol := old.bind (·.protocol) }
    let service := db.databaseService role live
    PortsUnder own (role.template db).spec.ports service.portList ∧
      db.databaseService role service = service := by
  intro old own service
  have hlive : live.portList = (live.spec.getD {}).ports.getD [] := by
    cases h : live.spec <;> simp [Service.portList, h]
  have hmerged : mergeServicePorts live.portList [{ own with nodePort := none, protocol := none }] =
      [own] := mergeServicePorts_eq_allocate rfl rfl live.portList
  have hports : service.portList = overlayServicePorts [own] (role.template db).spec.ports := by
    rw [← hmerged, hlive]
    rfl
  exact ⟨hports ▸ portsUnder_overlay own _, (db.steady_databaseService role).again live⟩

end Postgres

end PgOperator
