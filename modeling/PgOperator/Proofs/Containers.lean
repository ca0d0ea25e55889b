import Mathlib.Tactic.Lemma
import PgOperator.Merge
import PgOperator.Proofs.Overlay

/-!
Merging containers, and merging them again.

A container that repeats no variable, mount or port may be merged over a live one twice: the
second time changes nothing (`Distinct.lays`).
-/

namespace PgOperator.Kube

/-! ### Probes -/

lemma mergeProbe_mergeProbe (live desired : Option Probe) :
    mergeProbe (mergeProbe live desired) desired = mergeProbe live desired := by
  cases desired with
  | none => cases live <;> rfl
  | some desired =>
    cases live with
    | none =>
      obtain ⟨get, _⟩ := desired
      cases get <;> simp [mergeProbe]
    | some live =>
      obtain ⟨get, _⟩ := desired
      obtain ⟨liveGet, _⟩ := live
      cases get <;> cases liveGet <;> simp [mergeProbe, or_or_self]

lemma mergeProbe_self (desired : Option Probe) : mergeProbe desired desired = desired := by
  cases desired with
  | none => rfl
  | some desired =>
    obtain ⟨get, _⟩ := desired
    cases get <;> simp [mergeProbe]

/-! ### Ports -/

lemma find?_mergeContainerPorts (live desired : List ContainerPort) (number : Int32) :
    (mergeContainerPorts live desired).find? (fun port => port.containerPort = number) =
      (desired.find? fun port => port.containerPort = number).map fun port =>
        { port with
          protocol := port.protocol <|>
            (live.find? fun p => p.containerPort = port.containerPort).bind (·.protocol) } :=
  List.find?_map ..

lemma mergeContainerPorts_congr {live other desired : List ContainerPort}
    (h : ∀ port ∈ desired,
      (port.protocol <|>
        (live.find? fun p => p.containerPort = port.containerPort).bind (·.protocol)) =
      (port.protocol <|>
        (other.find? fun p => p.containerPort = port.containerPort).bind (·.protocol))) :
    mergeContainerPorts live desired = mergeContainerPorts other desired := by
  refine List.map_congr_left fun port hport => ?_
  rw [h port hport]

lemma mergeContainerPorts_mergeContainerPorts {desired : List ContainerPort}
    (h : (desired.map (·.containerPort)).Nodup) (live : List ContainerPort) :
    mergeContainerPorts (mergeContainerPorts live desired) desired =
      mergeContainerPorts live desired := by
  refine mergeContainerPorts_congr fun port hport => ?_
  rw [find?_mergeContainerPorts, find?_key_of_mem h hport]
  simp [or_or_self]

lemma mergeContainerPorts_self {desired : List ContainerPort}
    (h : (desired.map (·.containerPort)).Nodup) :
    mergeContainerPorts desired desired = desired := by
  refine (List.map_congr_left fun port hport => ?_).trans (List.map_id desired)
  rw [find?_key_of_mem h hport]
  simp

lemma map_mergeContainerPorts_self {desired : Option (List ContainerPort)}
    (h : ∀ ports, desired = some ports → (ports.map (·.containerPort)).Nodup) :
    desired.map (mergeContainerPorts (desired.getD [])) = desired := by
  cases desired with
  | none => rfl
  | some ports => exact congrArg some (mergeContainerPorts_self (h ports rfl))

/-! ### Variables and mounts -/

lemma lays_var (var : EnvVar) : Lays (·.name) (fun _ var : EnvVar => var) var := lays_replace var

lemma upsertEnv_upsertEnv (env vars : List EnvVar) :
    upsertEnv (upsertEnv env vars) vars = upsertEnv env vars :=
  upsertAll_upsertAll_self env vars

lemma upsertEnv_self {vars : List EnvVar} (h : (vars.map (·.name)).Nodup) :
    upsertEnv vars vars = vars :=
  foldl_lay_self (fun var _ => lays_var var) h

lemma nodup_names_upsertEnv {env : List EnvVar} (h : (env.map (·.name)).Nodup)
    (vars : List EnvVar) :
    ((upsertEnv env vars).map (·.name)).Nodup :=
  nodup_keys_foldl_lay (fun var _ => keepsKey_replace var) h

lemma lays_mount (mount : VolumeMount) : Lays (·.name) (fun _ mount : VolumeMount => mount) mount :=
  lays_replace mount

lemma upsertMounts_upsertMounts (live mounts : List VolumeMount) :
    mounts.foldl upsertMount (mounts.foldl upsertMount live) = mounts.foldl upsertMount live :=
  upsertAll_upsertAll_self live mounts

lemma upsertMounts_self {mounts : List VolumeMount} (h : (mounts.map (·.name)).Nodup) :
    mounts.foldl upsertMount mounts = mounts :=
  foldl_lay_self (fun mount _ => lays_mount mount) h

/-! ### Containers -/

/-- No variable, mount or port of the container has the name or the number of another one. -/
structure Container.Distinct (c : Container) : Prop where
  env : ∀ env, c.env = some env → (env.map (·.name)).Nodup
  mounts : ∀ mounts, c.volumeMounts = some mounts → (mounts.map (·.name)).Nodup
  ports : ∀ ports, c.ports = some ports → (ports.map (·.containerPort)).Nodup

/-- What a given list makes of the live one, which stays where none is given. -/
def laidOver {α : Type} (merge : List α → List α → List α) (live desired : Option (List α)) :
    Option (List α) :=
  (desired.map (merge (live.getD []))).or live

lemma laidOver_laidOver {α : Type} {merge : List α → List α → List α}
    (h : ∀ live items, merge (merge live items) items = merge live items)
    (live desired : Option (List α)) :
    laidOver merge (laidOver merge live desired) desired = laidOver merge live desired := by
  cases desired <;> simp [laidOver, h]

lemma laidOver_self {α : Type} {merge : List α → List α → List α} {desired : Option (List α)}
    (h : ∀ items, desired = some items → merge items items = items) :
    laidOver merge desired desired = desired := by
  cases desired with
  | none => rfl
  | some items => simp [laidOver, h items rfl]

lemma mergeContainer_eq (live desired : Container) : mergeContainer live desired =
    { live with
      image := desired.image
      ports := desired.ports.map (mergeContainerPorts (live.ports.getD []))
      livenessProbe := mergeProbe live.livenessProbe desired.livenessProbe
      readinessProbe := mergeProbe live.readinessProbe desired.readinessProbe
      lifecycle := desired.lifecycle
      imagePullPolicy := desired.imagePullPolicy.or live.imagePullPolicy
      command := desired.command.or live.command
      args := desired.args.or live.args
      resources := desired.resources.or live.resources
      securityContext := desired.securityContext.or live.securityContext
      env := laidOver upsertEnv live.env desired.env
      volumeMounts :=
        laidOver (fun live mounts => mounts.foldl upsertMount live) live.volumeMounts
          desired.volumeMounts } := by
  rw [mergeContainer]
  cases desired.env <;> cases desired.volumeMounts <;> simp [laidOver]

lemma keepsKey_container (c : Container) : KeepsKey (·.name) mergeContainer c := fun _ h => h

/-- **Merging a container again changes nothing**, where it repeats none of its parts. -/
theorem Container.Distinct.lays {c : Container} (h : c.Distinct) :
    Lays (·.name) mergeContainer c where
  key_combine := keepsKey_container c
  combine_combine live := by
    have hports : c.ports.map (mergeContainerPorts
        ((c.ports.map (mergeContainerPorts (live.ports.getD []))).getD [])) =
          c.ports.map (mergeContainerPorts (live.ports.getD [])) := by
      cases hc : c.ports with
      | none => rfl
      | some ports => simp [mergeContainerPorts_mergeContainerPorts (h.ports ports hc)]
    simp only [mergeContainer_eq, mergeProbe_mergeProbe, or_or_self, hports,
      laidOver_laidOver upsertEnv_upsertEnv, laidOver_laidOver upsertMounts_upsertMounts]
  combine_self := by
    simp only [mergeContainer_eq, mergeProbe_self, Option.or_self,
      map_mergeContainerPorts_self h.ports,
      laidOver_self fun env hc => upsertEnv_self (h.env env hc),
      laidOver_self fun mounts hc => upsertMounts_self (h.mounts mounts hc)]

end PgOperator.Kube
