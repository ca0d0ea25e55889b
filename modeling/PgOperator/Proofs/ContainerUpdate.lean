import Mathlib.Data.List.Forall2
import Mathlib.Tactic.Lemma
import PgOperator.Proofs.Overlay
import PgOperator.Proofs.ServerDefaults
import PgOperator.Proofs.Workload

/-!
What becomes of a container when a desired one is merged into it.

A new container goes to the list as it is, with everything that it sets. One that is there already
takes over the image, the command, the variables and whatever else merging looks at. The rest it
does not take over: how it leaves its last words, its working directory, the probe at its start, and
other fields are there only if they were there before (`Container.Distinct.updates`).
-/

namespace PgOperator

open Kube

namespace Kube

/-! ### What a container has of another one -/

/-- The container has what merging looks at in the desired one. Probes and ports may have further
fields set, lists of variables and mounts further items. -/
structure Container.HasMerged (found desired : Container) : Prop where
  image : Fills desired.image found.image
  imagePullPolicy : Fills desired.imagePullPolicy found.imagePullPolicy
  command : Fills desired.command found.command
  args : Fills desired.args found.args
  resources : Fills desired.resources found.resources
  lifecycle : Fills desired.lifecycle found.lifecycle
  securityContext : Fills desired.securityContext found.securityContext
  livenessProbe : ∀ probe, desired.livenessProbe = some probe →
    ∃ probe', found.livenessProbe = some probe' ∧ probe.Filled probe'
  readinessProbe : ∀ probe, desired.readinessProbe = some probe →
    ∃ probe', found.readinessProbe = some probe' ∧ probe.Filled probe'
  ports : ∀ ports, desired.ports = some ports →
    ∃ ports', found.ports = some ports' ∧ List.Forall₂ ContainerPort.Filled ports ports'
  env : ∀ env, desired.env = some env →
    ∃ env', found.env = some env' ∧ ∀ var ∈ env, env'.find? (·.name = var.name) = some var
  volumeMounts : ∀ mounts, desired.volumeMounts = some mounts →
    ∃ mounts', found.volumeMounts = some mounts' ∧
      ∀ mount ∈ mounts, mounts'.find? (·.name = mount.name) = some mount

/-- The container has what merging does not look at in the desired one. -/
structure Container.HasRest (found desired : Container) : Prop where
  terminationMessagePath : Fills desired.terminationMessagePath found.terminationMessagePath
  terminationMessagePolicy : Fills desired.terminationMessagePolicy found.terminationMessagePolicy
  other : Container.otherFields.Filled desired.other found.other

/-- The container has everything that the desired one sets. -/
structure Container.Has (found desired : Container) : Prop extends
  found.HasMerged desired, found.HasRest desired

lemma Container.hasRest_self (c : Container) : c.HasRest c :=
  ⟨.refl _, .refl _, Container.otherFields.filled_refl c.other⟩

lemma Container.hasRest_mergeContainer_iff {live desired : Container} :
    (mergeContainer live desired).HasRest desired ↔ live.HasRest desired :=
  ⟨fun h => ⟨h.terminationMessagePath, h.terminationMessagePolicy, h.other⟩,
    fun h => ⟨h.terminationMessagePath, h.terminationMessagePolicy, h.other⟩⟩

/-! ### What merging takes over -/

lemma rel_mergeGet (live desired : Option HTTPGetAction) :
    Option.Rel HTTPGetAction.Filled desired (mergeGet live desired) := by
  cases desired with
  | none => exact .none
  | some get =>
    cases live with
    | none => exact .some ⟨.refl _, rfl⟩
    | some live =>
      rw [mergeGet_some]
      exact .some ⟨fills_or _ _, rfl⟩

lemma exists_mergeProbe (live : Option Probe) (probe : Probe) :
    ∃ probe', mergeProbe live (some probe) = some probe' ∧ probe.Filled probe' := by
  cases live with
  | none =>
    have hget := rel_mergeGet none probe.httpGet
    rw [mergeGet_none] at hget
    exact ⟨probe, rfl, hget, .refl _, .refl _, .refl _, .refl _, rfl⟩
  | some live =>
    exact ⟨_, mergeProbe_some live probe, rel_mergeGet live.httpGet _, fills_or _ _, fills_or _ _,
      fills_or _ _, fills_or _ _, rfl⟩

lemma forall₂_mergeContainerPorts (live desired : List ContainerPort) :
    List.Forall₂ ContainerPort.Filled desired (mergeContainerPorts live desired) := by
  rw [mergeContainerPorts_eq]
  refine forall₂_map (fun port => ⟨?_, rfl⟩) desired
  simp only [withProtocol, Option.orElse_eq_orElse, Option.orElse_eq_or]
  exact fills_or _ _

lemma exists_laidOver {α κ : Type} [DecidableEq κ] {key : α → κ} {items : List α}
    (hkeys : (items.map key).Nodup) (live : Option (List α)) :
    ∃ merged, laidOver (upsertAll key) live (some items) = some merged ∧
      ∀ item ∈ items, merged.find? (fun x => key x = key item) = some item :=
  ⟨_, rfl, fun _ hitem => find?_upsertAll_of_mem hkeys hitem⟩

lemma Container.Distinct.hasMerged_mergeContainer {c : Container} (h : c.Distinct)
    (live : Container) : (mergeContainer live c).HasMerged c := by
  rw [mergeContainer_eq]
  exact {
    image := .refl _
    imagePullPolicy := fills_or _ _
    command := fills_or _ _
    args := fills_or _ _
    resources := fills_or _ _
    lifecycle := .refl _
    securityContext := fills_or _ _
    livenessProbe := fun probe hprobe => hprobe ▸ exists_mergeProbe live.livenessProbe probe
    readinessProbe := fun probe hprobe => hprobe ▸ exists_mergeProbe live.readinessProbe probe
    ports := fun ports hports => hports ▸ ⟨_, rfl, forall₂_mergeContainerPorts _ ports⟩
    env := fun env henv => henv ▸ exists_laidOver (h.env env henv) live.env
    volumeMounts := fun mounts hmounts =>
      hmounts ▸ exists_laidOver (h.mounts mounts hmounts) live.volumeMounts }

lemma Container.Distinct.hasMerged_self {c : Container} (h : c.Distinct) : c.HasMerged c := by
  have hself := h.hasMerged_mergeContainer c
  rwa [h.lays.combine_self] at hself

/-! ### Containers of a list -/

/-- What becomes of the container of the desired one's name: it has what merging looks at, and it
has everything if and only if it is new or the one before had the rest. -/
def Container.Updates (desired : Container) (before after : Option Container) : Prop :=
  ∃ found, after = some found ∧ found.HasMerged desired ∧
    (found.Has desired ↔ ∀ live, before = some live → live.HasRest desired)

lemma Container.Distinct.updates_layOver {c : Container} (h : c.Distinct)
    (live : Option Container) : c.Updates live (layOver mergeContainer live c) := by
  cases live with
  | none =>
    refine ⟨c, rfl, h.hasMerged_self, fun _ live hlive => absurd hlive nofun, fun _ => ?_⟩
    exact ⟨h.hasMerged_self, c.hasRest_self⟩
  | some live =>
    have hmerged := h.hasMerged_mergeContainer live
    refine ⟨mergeContainer live c, rfl, hmerged, ?_, ?_⟩
    · intro hall old hold
      obtain rfl : live = old := Option.some.inj hold
      exact Container.hasRest_mergeContainer_iff.1 hall.toHasRest
    · exact fun hrest => ⟨hmerged, Container.hasRest_mergeContainer_iff.2 (hrest live rfl)⟩

/-- **A desired container in a list of containers**, and an init container of the user's in the
stateful set. -/
theorem Container.Distinct.updates {c : Container} (h : c.Distinct) :
    (∀ containers : List Container, c.Updates (containers.find? (·.name = c.name))
      ((upsertContainer containers c).find? (·.name = c.name))) ∧
    ∀ (db : Postgres) (version : PostgresVersion) (options : Options) (live : StatefulSet),
      db.spec.podTemplate.spec.initContainers.filter (·.name = c.name) = [c] →
        c.Updates (live.pod.inits.find? (·.name = c.name))
          ((db.statefulSet version options live).pod.inits.find? (·.name = c.name)) := by
  constructor
  · intro containers
    have hfound := find?_lay_self (keepsKey_container c) containers
    exact hfound ▸ h.updates_layOver (containers.find? (·.name = c.name))
  · intro db version options live hone
    have hkeeps : ∀ init ∈ db.spec.podTemplate.spec.initContainers,
        KeepsKey (·.name) mergeContainer init := fun init _ => keepsKey_container init
    have hfound := find?_foldl_lay hkeeps c.name live.pod.inits
    rw [hone] at hfound
    rw [Postgres.pod_statefulSet, Postgres.inits_podSpec]
    exact hfound ▸ h.updates_layOver (live.pod.inits.find? (·.name = c.name))

/-- A container that works in the given directory. -/
def preparation (directory : Option String) : Container where
  name := "prepare"
  image := some "busybox"
  other := (none, none, none, none, none, none, none, none, directory, ())

/-- An instance whose pods are prepared in a directory. -/
def prepared : Postgres where
  spec := { podTemplate := { spec := { initContainers := [preparation (some "/work")] } } }

lemma distinct_preparation (directory : Option String) : (preparation directory).Distinct :=
  ⟨nofun, nofun, nofun⟩

theorem has_preparation :
    (∃ found, (upsertContainer [] (preparation (some "/work"))).find? (·.name = "prepare") =
        some found ∧ found.Has (preparation (some "/work"))) ∧
      ∃ found, (prepared.statefulSet {} {} {}).pod.inits.find? (·.name = "prepare") =
        some found ∧ found.Has (preparation (some "/work")) := by
  obtain ⟨hlist, hset⟩ := Container.Distinct.updates (distinct_preparation (some "/work"))
  obtain ⟨found, hfound, -, hhas⟩ := hlist []
  obtain ⟨init, hinit, -, hinitHas⟩ := hset prepared {} {} {} rfl
  exact ⟨⟨found, hfound, hhas.2 fun _ hnone => absurd hnone nofun⟩,
    ⟨init, hinit, hinitHas.2 fun _ hnone => absurd hnone nofun⟩⟩

/-- A directory that is set after the container was created stays unset. -/
theorem not_has_preparation :
    (preparation (some "/work")).Distinct ∧
      (upsertContainer [preparation none] (preparation (some "/work"))).find?
        (·.name = "prepare") = some (preparation none) ∧
      ¬ (preparation none).Has (preparation (some "/work")) := by
  refine ⟨distinct_preparation _, rfl, fun h => ?_⟩
  obtain ⟨directory, hdirectory, -⟩ := h.other.2.2.2.2.2.2.2.2.1 "/work" rfl
  exact absurd hdirectory nofun

end Kube

end PgOperator
