import Mathlib.Data.List.Induction
import Mathlib.Tactic.Lemma
import PgOperator.Proofs.Overlay
import PgOperator.Proofs.Workload

/-!
Merging the same containers again.

A container that is new goes to the list as it is; the next time it is merged into itself. So
merging again changes something where a container says something twice: of two variables or mounts
of one name the first one is made equal to the last one, and a port without a protocol takes that of
the first port of its number. Apart from that it changes nothing (`upsertContainers_again_iff`).
-/

namespace PgOperator

open Kube

/-! ### Steps that do away with earlier ones -/

/-- A step taken again changes nothing, also if there is another step between. -/
structure Absorbs {σ δ : Type} (step : σ → δ → σ) : Prop where
  again : ∀ s d, step (step s d) d = step s d
  past : ∀ s d e, step (step (step s d) e) d = step (step s e) d

namespace Absorbs

variable {σ δ : Type} {step : σ → δ → σ}

lemma past_foldl (h : Absorbs step) (s : σ) (d : δ) (between : List δ) :
    step (between.foldl step (step s d)) d = step (between.foldl step s) d := by
  induction between generalizing s with
  | nil => exact h.again s d
  | cons e rest ih =>
    calc step (rest.foldl step (step (step s d) e)) d
        = step (rest.foldl step (step (step (step s d) e) d)) d := (ih _).symm
      _ = step (rest.foldl step (step (step s e) d)) d := by rw [h.past]
      _ = step (rest.foldl step (step s e)) d := ih _

lemma foldl_foldl (h : Absorbs step) (ds : List δ) (s : σ) :
    ds.foldl step (ds.foldl step s) = ds.foldl step s := by
  induction ds using List.reverseRecOn with
  | nil => rfl
  | append_singleton ds d ih =>
    simp only [List.foldl_append, List.foldl_cons, List.foldl_nil]
    rw [h.past_foldl, ih]

end Absorbs

lemma or_past {α : Type} (a d e : Option α) : d.or (e.or (d.or a)) = d.or (e.or a) := by
  cases d <;> simp

lemma or_past_none {α : Type} (d e : Option α) : d.or (e.or d) = d.or e := by
  cases d <;> simp

lemma or_eq_right_iff {α : Type} {a b : Option α} :
    a.or b = b ↔ ∀ x, a = some x → b = some x := by
  cases a <;> simp [eq_comm]

/-! ### Lists in which keys repeat -/

/-- The first item of each key is like the last one of that key, if there is no later one. -/
def FirstLikeLast {α κ : Type} [DecidableEq κ] (key : α → κ) (items later : List α) : Prop :=
  ∀ k ∉ later.map key,
    items.find? (fun x => k = key x) = items.findRev? fun x => k = key x

section Lists

variable {α κ : Type} [DecidableEq κ] {key : α → κ}

lemma upsertAll_append_eq_self_iff (items later : List α) :
    upsertAll key (upsertAll key items later) (items ++ later) = upsertAll key items later ↔
      FirstLikeLast key items later := by
  rw [upsertAll_eq_self_iff]
  simp only [findRev?_append, find?_upsertAll]
  refine forall_congr' fun k => ?_
  cases hlater : later.findRev? fun x => k = key x with
  | some last =>
    have hmem : k ∈ later.map key := by
      obtain ⟨hlast, rfl⟩ := mem_of_findRev?_key hlater
      exact List.mem_map_of_mem hlast
    exact ⟨fun _ hk => absurd hmem hk, fun _ _ h => h⟩
  | none =>
    simp only [Option.none_or]
    constructor
    · intro h _
      cases hlast : items.findRev? fun x => k = key x with
      | some last => exact h last hlast
      | none => exact find?_key_eq_none.2 (findRev?_key_eq_none.1 hlast)
    · intro h last hlast
      rw [h (findRev?_key_eq_none.1 hlater), hlast]

end Lists

namespace Kube

/-! ### Settings -/

lemma mergeProbe_past (live desired other : Option Probe) :
    mergeProbe (mergeProbe (mergeProbe live desired) other) desired =
      mergeProbe (mergeProbe live other) desired := by
  cases desired with
  | none => cases mergeProbe live other <;> rfl
  | some desired =>
    cases other with
    | none => cases live <;> rfl
    | some other =>
      obtain ⟨get, _⟩ := desired
      obtain ⟨otherGet, _⟩ := other
      cases live with
      | none => cases get <;> cases otherGet <;> simp [mergeProbe, or_past_none]
      | some live =>
        obtain ⟨liveGet, _⟩ := live
        cases get <;> cases otherGet <;> cases liveGet <;>
          simp [mergeProbe, or_past, or_past_none]

/-- A list with nothing in it, if there is one. -/
def emptied {α : Type} (items : Option (List α)) : Option (List α) := items.map fun _ => []

@[simp] lemma emptied_map {α : Type} (f : List α → List α) (items : Option (List α)) :
    emptied (items.map f) = emptied items := by
  cases items <;> rfl

@[simp] lemma emptied_emptied {α : Type} (items : Option (List α)) :
    emptied (emptied items) = emptied items :=
  emptied_map _ items

@[simp] lemma emptied_or {α : Type} (items others : Option (List α)) :
    emptied (items.or others) = (emptied items).or (emptied others) := by
  cases items <;> rfl

@[simp] lemma emptied_laidOver {α : Type} (merge : List α → List α → List α)
    (live desired : Option (List α)) :
    emptied (laidOver merge live desired) = (emptied desired).or (emptied live) := by
  cases desired <;> rfl

lemma eq_of_emptied_eq {α : Type} {items others : Option (List α)}
    (hgiven : emptied items = emptied others) (hitems : items.getD [] = others.getD []) :
    items = others := by
  cases items with
  | none =>
    cases others with
    | none => rfl
    | some others => exact absurd hgiven nofun
  | some items =>
    cases others with
    | none => exact absurd hgiven nofun
    | some others => exact congrArg some hitems

namespace Container

def portList (c : Container) : List ContainerPort := c.ports.getD []

/-- The container with nothing in its lists of variables, mounts and ports. -/
def settings (c : Container) : Container :=
  { c with env := emptied c.env, volumeMounts := emptied c.volumeMounts, ports := emptied c.ports }

lemma portList_mergeContainer (live desired : Container) :
    (mergeContainer live desired).portList =
      mergeContainerPorts live.portList desired.portList := by
  simp only [portList, mergeContainer_eq]
  cases desired.ports <;> rfl

lemma ext_lists {c d : Container} (hsettings : c.settings = d.settings)
    (henv : c.envList = d.envList) (hmounts : c.mountList = d.mountList)
    (hports : c.portList = d.portList) : c = d := by
  have henv : c.env = d.env := eq_of_emptied_eq (congrArg Container.env hsettings) henv
  have hmounts : c.volumeMounts = d.volumeMounts :=
    eq_of_emptied_eq (congrArg Container.volumeMounts hsettings) hmounts
  have hports : c.ports = d.ports := eq_of_emptied_eq (congrArg Container.ports hsettings) hports
  calc c = { c.settings with env := c.env, volumeMounts := c.volumeMounts, ports := c.ports } := rfl
    _ = { d.settings with env := d.env, volumeMounts := d.volumeMounts, ports := d.ports } := by
      rw [hsettings, henv, hmounts, hports]
    _ = d := rfl

end Container

/-- The settings that come out of merging. -/
def mergeSettings (live desired : Container) : Container := (mergeContainer live desired).settings

lemma mergeSettings_eq (live desired : Container) : mergeSettings live desired =
    { mergeContainer live desired with
      env := (emptied desired.env).or (emptied live.env)
      volumeMounts := (emptied desired.volumeMounts).or (emptied live.volumeMounts)
      ports := emptied desired.ports } := by
  simp only [mergeSettings, mergeContainer_eq, Container.settings, emptied_laidOver, emptied_map]

lemma mergeSettings_settings (live desired : Container) :
    mergeSettings live.settings desired = mergeSettings live desired := by
  simp only [mergeSettings_eq, mergeContainer_eq, Container.settings, emptied_emptied]

lemma settings_foldl_mergeContainer (desired : List Container) (live : Container) :
    (desired.foldl mergeContainer live).settings = desired.foldl mergeSettings live.settings :=
  (List.foldl_hom Container.settings mergeSettings_settings).symm

lemma absorbs_mergeSettings : Absorbs mergeSettings where
  again live desired := by
    simp only [mergeSettings_eq, mergeContainer_eq, mergeProbe_mergeProbe, or_or_self,
      emptied_or, emptied_emptied]
  past live desired other := by
    simp only [mergeSettings_eq, mergeContainer_eq, mergeProbe_past, or_past, emptied_or,
      emptied_emptied]

lemma mergeSettings_self (c : Container) : mergeSettings c c = c.settings := by
  simp only [mergeSettings_eq, mergeContainer_eq, mergeProbe_self, Option.or_self,
    Container.settings]

/-! ### Variables and mounts -/

section Lists

variable {α κ : Type} [DecidableEq κ] {key : α → κ} {list : Container → List α}
variable (hlist : ∀ live desired,
  list (mergeContainer live desired) = upsertAll key (list live) (list desired))

include hlist

lemma list_foldl_mergeContainer (desired : List Container) (live : Container) :
    list (desired.foldl mergeContainer live) =
      upsertAll key (list live) (desired.flatMap list) := by
  induction desired generalizing live with
  | nil => rfl
  | cons c rest ih => rw [List.foldl_cons, ih, hlist, List.flatMap_cons, upsertAll_append]

lemma list_foldl_again (desired : List Container) (live : Container) :
    list (desired.foldl mergeContainer (desired.foldl mergeContainer live)) =
      list (desired.foldl mergeContainer live) := by
  rw [list_foldl_mergeContainer hlist, list_foldl_mergeContainer hlist, upsertAll_upsertAll_self]

/-- The list of a new container is merged into itself. -/
lemma list_foldl_again_iff_of_new (first : Container) (later : List Container) :
    list ((first :: later).foldl mergeContainer (later.foldl mergeContainer first)) =
        list (later.foldl mergeContainer first) ↔
      FirstLikeLast key (list first) (later.flatMap list) := by
  rw [list_foldl_mergeContainer hlist, list_foldl_mergeContainer hlist, List.flatMap_cons]
  exact upsertAll_append_eq_self_iff _ _

end Lists

/-! ### Ports -/

/-- The protocol of the first port of a number. -/
def protocolOf (ports : List ContainerPort) (number : Int32) : Option String :=
  (ports.find? fun port => port.containerPort = number).bind (·.protocol)

/-- The first port of a number leaves its protocol out. -/
def LeavesProtocol (ports : List ContainerPort) (number : Int32) : Prop :=
  ∃ port, ports.find? (fun port => port.containerPort = number) = some port ∧ port.protocol = none

/-- The ports of containers merged one after the other. -/
def mergeAllPorts (live : List ContainerPort) (desired : List Container) : List ContainerPort :=
  desired.foldl (fun ports c => mergeContainerPorts ports c.portList) live

lemma mergeAllPorts_concat (live : List ContainerPort) (earlier : List Container)
    (last : Container) : mergeAllPorts live (earlier ++ [last]) =
      mergeContainerPorts (mergeAllPorts live earlier) last.portList := by
  simp [mergeAllPorts]

lemma portList_foldl_mergeContainer (desired : List Container) (live : Container) :
    (desired.foldl mergeContainer live).portList = mergeAllPorts live.portList desired :=
  (List.foldl_hom Container.portList fun live c =>
    (Container.portList_mergeContainer live c).symm).symm

lemma mergeContainerPorts_nil (ports : List ContainerPort) : mergeContainerPorts [] ports = ports :=
  (List.map_congr_left fun port _ => by simp).trans (List.map_id ports)

lemma mergeContainerPorts_eq_iff {live other desired : List ContainerPort} :
    mergeContainerPorts live desired = mergeContainerPorts other desired ↔
      ∀ port ∈ desired, port.protocol = none →
        protocolOf live port.containerPort = protocolOf other port.containerPort := by
  refine List.map_inj_left.trans (forall₂_congr fun port _ => ?_)
  simp only [ContainerPort.mk.injEq, true_and, and_true]
  cases port.protocol with
  | none => simp [protocolOf]
  | some protocol => simp

lemma protocolOf_mergeContainerPorts (live desired : List ContainerPort) (number : Int32) :
    protocolOf (mergeContainerPorts live desired) number =
      (desired.find? fun port => port.containerPort = number).bind fun port =>
        port.protocol.or (protocolOf live number) := by
  rw [protocolOf, find?_mergeContainerPorts]
  cases hport : desired.find? fun port => port.containerPort = number with
  | none => rfl
  | some port =>
    have hnumber : port.containerPort = number := by simpa using List.find?_some hport
    simp [protocolOf, hnumber]

lemma LeavesProtocol.protocolOf_merge {desired : List ContainerPort} {number : Int32}
    (h : LeavesProtocol desired number) (live : List ContainerPort) :
    protocolOf (mergeContainerPorts live desired) number = protocolOf live number := by
  obtain ⟨port, hport, hnone⟩ := h
  simp [protocolOf_mergeContainerPorts, hport, hnone]

lemma protocolOf_merge_congr {desired : List ContainerPort} {number : Int32}
    (h : ¬ LeavesProtocol desired number) (live other : List ContainerPort) :
    protocolOf (mergeContainerPorts live desired) number =
      protocolOf (mergeContainerPorts other desired) number := by
  rw [protocolOf_mergeContainerPorts, protocolOf_mergeContainerPorts]
  cases hport : desired.find? fun port => port.containerPort = number with
  | none => rfl
  | some port =>
    obtain ⟨protocol, hgiven⟩ := Option.ne_none_iff_exists'.1 fun hnone => h ⟨port, hport, hnone⟩
    simp [hgiven]

lemma protocolOf_mergeAll_congr {desired : List Container} {number : Int32}
    (h : ¬ ∀ c ∈ desired, LeavesProtocol c.portList number) (live other : List ContainerPort) :
    protocolOf (mergeAllPorts live desired) number =
      protocolOf (mergeAllPorts other desired) number := by
  induction desired using List.reverseRecOn with
  | nil => exact absurd (fun c hc => absurd hc List.not_mem_nil) h
  | append_singleton earlier last ih =>
    rw [mergeAllPorts_concat, mergeAllPorts_concat]
    by_cases hlast : LeavesProtocol last.portList number
    · rw [hlast.protocolOf_merge, hlast.protocolOf_merge]
      refine ih fun hall => h fun c hc => ?_
      rcases List.mem_append.1 hc with hc | hc
      · exact hall c hc
      · exact List.mem_singleton.1 hc ▸ hlast
    · exact protocolOf_merge_congr hlast _ _

lemma protocolOf_mergeAll_of_leaves {desired : List Container} {number : Int32}
    (h : ∀ c ∈ desired, LeavesProtocol c.portList number) (live : List ContainerPort) :
    protocolOf (mergeAllPorts live desired) number = protocolOf live number := by
  induction desired generalizing live with
  | nil => rfl
  | cons c rest ih =>
    obtain ⟨hc, hrest⟩ := List.forall_mem_cons.1 h
    exact (ih hrest _).trans (hc.protocolOf_merge live)

/-- A port of the last container whose protocol is left out everywhere gets none from the ports
beside it: if the first port of its number has a protocol, the live one has it already. -/
def PortsSettle (live : List ContainerPort) (desired : List Container) : Prop :=
  ∀ last ∈ desired.getLast?, ∀ port ∈ last.portList, port.protocol = none →
    (∀ c ∈ desired.dropLast, LeavesProtocol c.portList port.containerPort) →
      ∀ protocol, protocolOf last.portList port.containerPort = some protocol →
        protocolOf live port.containerPort = some protocol

lemma mergeAllPorts_again_iff (live : List ContainerPort) (desired : List Container) :
    mergeAllPorts (mergeAllPorts live desired) desired = mergeAllPorts live desired ↔
      PortsSettle live desired := by
  cases desired using List.reverseRecOn with
  | nil => simp [PortsSettle, mergeAllPorts]
  | append_singleton earlier last =>
    simp only [PortsSettle, List.getLast?_concat, List.dropLast_concat, Option.mem_some_iff,
      forall_eq', mergeAllPorts_concat]
    refine mergeContainerPorts_eq_iff.trans (forall₃_congr fun port hport _ => ?_)
    by_cases hleave : ∀ c ∈ earlier, LeavesProtocol c.portList port.containerPort
    · obtain ⟨first, hfirst⟩ : ∃ first, last.portList.find?
          (fun p => p.containerPort = port.containerPort) = some first :=
        Option.isSome_iff_exists.1 (List.find?_isSome.2 ⟨port, hport, decide_eq_true rfl⟩)
      have hown : protocolOf last.portList port.containerPort = first.protocol := by
        rw [protocolOf, hfirst, Option.bind_some]
      rw [protocolOf_mergeAll_of_leaves hleave, protocolOf_mergeAll_of_leaves hleave,
        protocolOf_mergeContainerPorts, hfirst, hown, protocolOf_mergeAll_of_leaves hleave]
      exact or_eq_right_iff.trans ⟨fun h _ => h, fun h => h hleave⟩
    · exact ⟨fun _ hall => absurd hall hleave, fun _ => protocolOf_mergeAll_congr hleave _ _⟩

/-! ### Containers -/

/-- What it takes that containers of one name may be merged again. Ports have to settle; and where
there was no container of the name, the variables and mounts of the first one must not repeat names
with different values, but for those which the others replace. -/
structure Repeatable (live : Option Container) (desired : List Container) : Prop where
  env : live = none → ∀ first ∈ desired.head?,
    FirstLikeLast (·.name) first.envList (desired.tail.flatMap (·.envList))
  mounts : live = none → ∀ first ∈ desired.head?,
    FirstLikeLast (·.name) first.mountList (desired.tail.flatMap (·.mountList))
  ports : PortsSettle ((live.map (·.portList)).getD []) desired

lemma again_iff_of_some (live : Container) (desired : List Container) :
    desired.foldl mergeContainer (desired.foldl mergeContainer live) =
      desired.foldl mergeContainer live ↔ Repeatable (some live) desired := by
  have hports := mergeAllPorts_again_iff live.portList desired
  rw [← portList_foldl_mergeContainer, ← portList_foldl_mergeContainer] at hports
  constructor
  · intro h
    exact ⟨nofun, nofun, hports.1 (congrArg Container.portList h)⟩
  · intro h
    refine Container.ext_lists ?_ (list_foldl_again Container.envList_mergeContainer desired live)
      (list_foldl_again Container.mountList_mergeContainer desired live) (hports.2 h.ports)
    rw [settings_foldl_mergeContainer, settings_foldl_mergeContainer]
    exact absorbs_mergeSettings.foldl_foldl desired live.settings

lemma again_iff_of_none (first : Container) (later : List Container) :
    (first :: later).foldl mergeContainer (later.foldl mergeContainer first) =
      later.foldl mergeContainer first ↔ Repeatable none (first :: later) := by
  have henv := list_foldl_again_iff_of_new Container.envList_mergeContainer first later
  have hmounts := list_foldl_again_iff_of_new Container.mountList_mergeContainer first later
  have hports :
      ((first :: later).foldl mergeContainer (later.foldl mergeContainer first)).portList =
        (later.foldl mergeContainer first).portList ↔ PortsSettle [] (first :: later) := by
    have hnew : mergeAllPorts first.portList later = mergeAllPorts [] (first :: later) :=
      congrArg (mergeAllPorts · later) (mergeContainerPorts_nil first.portList).symm
    rw [portList_foldl_mergeContainer, portList_foldl_mergeContainer, hnew,
      mergeAllPorts_again_iff]
  constructor
  · intro h
    refine ⟨fun _ c hc => ?_, fun _ c hc => ?_, hports.1 (congrArg Container.portList h)⟩
    · obtain rfl : first = c := Option.some.inj hc
      exact henv.1 (congrArg Container.envList h)
    · obtain rfl : first = c := Option.some.inj hc
      exact hmounts.1 (congrArg Container.mountList h)
  · intro h
    refine Container.ext_lists ?_ (henv.2 (h.env rfl first rfl))
      (hmounts.2 (h.mounts rfl first rfl)) (hports.2 h.ports)
    -- Its settings are as if the new container had been merged into itself before.
    have hself : later.foldl mergeSettings first.settings =
        (first :: later).foldl mergeSettings first.settings := by
      rw [List.foldl_cons, mergeSettings_settings, mergeSettings_self]
    rw [settings_foldl_mergeContainer, settings_foldl_mergeContainer, hself]
    exact absorbs_mergeSettings.foldl_foldl (first :: later) first.settings

lemma again_iff {live : Option Container} {desired : List Container} (h : desired ≠ []) :
    (∃ found, desired.foldl (layOver mergeContainer) live = some found ∧
      desired.foldl mergeContainer found = found) ↔ Repeatable live desired := by
  cases live with
  | some live =>
    rw [foldl_layOver_some, ← again_iff_of_some]
    simp
  | none =>
    obtain ⟨first, later, rfl⟩ := List.exists_cons_of_ne_nil h
    have hfirst : (first :: later).foldl (layOver mergeContainer) none =
        some (later.foldl mergeContainer first) := foldl_layOver_some later first
    rw [hfirst, ← again_iff_of_none]
    simp

/-- **Merging containers again** changes nothing if and only if the containers of each name may be
merged again. -/
theorem upsertContainers_again_iff (live desired : List Container) :
    upsertContainers (upsertContainers live desired) desired = upsertContainers live desired ↔
      ∀ name ∈ desired.map (·.name),
        Repeatable (live.find? (·.name = name)) (desired.filter (·.name = name)) := by
  have hkeeps : ∀ c ∈ desired, KeepsKey (·.name) mergeContainer c := fun c _ => keepsKey_container c
  refine (foldl_lay_eq_self_iff hkeeps).trans (forall₂_congr fun name hname => ?_)
  have hsome : desired.filter (·.name = name) ≠ [] := by
    obtain ⟨c, hc, rfl⟩ := List.mem_map.1 hname
    exact List.ne_nil_of_mem (List.mem_filter.2 ⟨hc, decide_eq_true rfl⟩)
  rw [← again_iff hsome, ← find?_foldl_lay hkeeps]
  rfl

/-- A container that sees one volume at two paths. -/
def twoPaths : Container where
  name := "prepare"
  image := some "busybox"
  volumeMounts := some
    [{ name := "cache", mountPath := "/primary" }, { name := "cache", mountPath := "/backup" }]

/-- It goes to the list as it is, and loses its first path when it is merged again. -/
theorem upsertContainers_twoPaths :
    upsertContainers [] [twoPaths] = [twoPaths] ∧
      upsertContainers (upsertContainers [] [twoPaths]) [twoPaths] ≠
        upsertContainers [] [twoPaths] := by
  refine ⟨rfl, fun h => ?_⟩
  have hmounts := congrArg (List.map (·.mountList)) h
  exact absurd hmounts (by decide)

end Kube

end PgOperator
