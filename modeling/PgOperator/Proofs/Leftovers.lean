import Mathlib.Tactic.Lemma
import PgOperator.Proofs.WellFormed

/-!
What the live stateful set remembers of earlier passes.

Merging by name takes nothing away, so over a history of passes the names of volumes, mounts and
variables add up (`mem_after_iff`). The credentials and scripts for filling a data directory are
asked for until the data is restored. They stay afterwards wherever a pass has asked for them
before (`leftovers_after_restoration`).
-/

namespace PgOperator

open Kube

namespace Kube.StatefulSet

variable {live : StatefulSet} {history : List (Postgres × PostgresVersion × Options)}

lemma after_concat (live : StatefulSet) (history : List (Postgres × PostgresVersion × Options))
    (db : Postgres) (version : PostgresVersion) (options : Options) :
    live.after (history ++ [(db, version, options)]) =
      db.statefulSet version options (live.after history) := by
  rw [after, List.foldl_append]
  rfl

lemma mem_after_iff {κ : Type} (seen : StatefulSet → List κ)
    (asked : Postgres × PostgresVersion × Options → List κ) {k : κ}
    (hstep : ∀ e ∈ history, ∀ live : StatefulSet,
      k ∈ seen (e.1.statefulSet e.2.1 e.2.2 live) ↔ k ∈ seen live ∨ k ∈ asked e) :
    k ∈ seen (live.after history) ↔ k ∈ seen live ∨ ∃ e ∈ history, k ∈ asked e := by
  induction history generalizing live with
  | nil => simp [after]
  | cons e rest ih =>
    obtain ⟨hfirst, hothers⟩ := List.forall_mem_cons.1 hstep
    have hrest : k ∈ seen (live.after (e :: rest)) ↔
        k ∈ seen (e.1.statefulSet e.2.1 e.2.2 live) ∨ ∃ e ∈ rest, k ∈ asked e := ih hothers
    rw [hrest, hfirst, List.exists_mem_cons_iff, or_assoc]

/-- The names of the database container's mounts. -/
def mountNames (set : StatefulSet) : List String := set.databaseMounts.map (·.name)

variable {name : String}

lemma mem_volumeNames_after (h : name ≠ VolumeSet.dataName) :
    name ∈ (live.after history).volumeNames ↔
      name ∈ live.volumeNames ∨
        ∃ e ∈ history, name ∈ e.1.volumes.mounted.map (·.volume.name) := by
  refine mem_after_iff volumeNames (fun e => e.1.volumes.mounted.map (·.volume.name))
    fun e _ live => ?_
  rw [Postgres.mem_volumeNames_statefulSet h, Postgres.mem_names_volumes h]

lemma mem_mountNames_after (h : name ≠ VolumeSet.dataName) :
    name ∈ (live.after history).mountNames ↔
      name ∈ live.mountNames ∨
        ∃ e ∈ history, name ∈ e.1.volumes.mounted.map (·.volume.name) := by
  refine mem_after_iff mountNames (fun e => e.1.volumes.mounted.map (·.volume.name))
    fun e _ live => ?_
  rw [mountNames, Postgres.databaseMounts_statefulSet, ← Postgres.mem_names_mounts h]
  exact mem_keys_foldl_lay fun mount _ => keepsKey_replace mount

lemma mem_mountNames_iff (h : name ≠ VolumeSet.dataName) :
    name ∈ (({} : StatefulSet).after history).mountNames ↔
      name ∈ (({} : StatefulSet).after history).volumeNames := by
  rw [mem_mountNames_after h, mem_volumeNames_after h]
  exact or_congr_left (iff_of_false List.not_mem_nil List.not_mem_nil)

end Kube.StatefulSet

namespace Postgres

variable {db : Postgres} {history : List (Postgres × PostgresVersion × Options)}

/-! ### What filling a data directory takes -/

lemma mem_names_restoreSecret :
    "wal-g-restore" ∈ (db.restoreSecret ++ db.initScript).map (·.volume.name) ↔
      ∃ wal, db.restore? = some wal ∧ wal.storage.isRemote = true := by
  have hscript : "wal-g-restore" ∉ db.initScript.map (·.volume.name) := fun hmem =>
    absurd (db.mountedUnder_initScript.names.subset hmem) (by decide)
  rw [List.map_append, List.mem_append, or_iff_left hscript, restoreSecret]
  cases db.restore? with
  | none => simp
  | some wal =>
    cases hremote : wal.storage.isRemote with
    | false => simp [hremote]
    | true =>
      simp only [hremote, if_true]
      exact iff_of_true List.mem_cons_self ⟨wal, rfl, hremote⟩

lemma mem_names_initScript :
    "initial-script" ∈ (db.restoreSecret ++ db.initScript).map (·.volume.name) ↔
      (db.spec.init.bind (·.script)).isSome = true := by
  have hsecret : "initial-script" ∉ db.restoreSecret.map (·.volume.name) := fun hmem =>
    absurd (db.mountedUnder_restoreSecret.names.subset hmem) (by decide)
  rw [List.map_append, List.mem_append, or_iff_right hsecret, initScript]
  cases db.spec.init.bind (·.script) with
  | none => simp
  | some script => exact iff_of_true List.mem_cons_self rfl

lemma restoration_eq_of_spec_eq {other : Postgres} (h : other.spec = db.spec) :
    other.restoreSecret ++ other.initScript = db.restoreSecret ++ db.initScript := by
  simp only [restoreSecret, initScript, restore?, h]

/-! ### After the restoration -/

/-- What a specification asks for until the data is restored is mounted after that, too, if and only
if there has been a pass before. -/
lemma exists_mounted_iff {version : PostgresVersion} {options : Options} {name : String}
    (hname : name ∈ ["wal-g-restore", "initial-script"]) (hrestored : db.restored = true)
    (hhistory : ∀ e ∈ history, e.1.spec = db.spec ∧ e.1.restored = false) :
    (∃ e ∈ history ++ [(db, version, options)], name ∈ e.1.volumes.mounted.map (·.volume.name)) ↔
      history ≠ [] ∧ name ∈ (db.restoreSecret ++ db.initScript).map (·.volume.name) := by
  simp only [mem_names_mounted hname]
  constructor
  · rintro ⟨e, he, hunrestored, hmem⟩
    rcases List.mem_append.1 he with he | he
    · rw [restoration_eq_of_spec_eq (hhistory e he).1] at hmem
      exact ⟨List.ne_nil_of_mem he, hmem⟩
    · rw [List.mem_singleton.1 he, hrestored] at hunrestored
      exact absurd hunrestored nofun
  · rintro ⟨hne, hmem⟩
    obtain ⟨e, he⟩ := List.exists_mem_of_ne_nil history hne
    obtain ⟨hspec, hunrestored⟩ := hhistory e he
    exact ⟨e, List.mem_append_left _ he, hunrestored, (restoration_eq_of_spec_eq hspec).symm ▸ hmem⟩

/-- **Left over from the restoration**: after a pass over an instance that reports its data as
restored, volume and mount of the restore credentials are there if and only if there has been a pass
before that report and the instance is restored from a remote archive, and those of the script if
and only if there has been such a pass and the instance has a script. -/
theorem leftovers_after_restoration (db : Postgres) (version : PostgresVersion) (options : Options)
    (history : List (Postgres × PostgresVersion × Options)) (hrestored : db.restored = true)
    (hhistory : ∀ e ∈ history, e.1.spec = db.spec ∧ e.1.restored = false) :
    let set := ({} : StatefulSet).after (history ++ [(db, version, options)])
    ("wal-g-restore" ∈ set.volumeNames ↔
      history ≠ [] ∧ ∃ wal, db.restore? = some wal ∧ wal.storage.isRemote = true) ∧
    ("initial-script" ∈ set.volumeNames ↔
      history ≠ [] ∧ (db.spec.init.bind (·.script)).isSome = true) ∧
    ∀ name ∈ ["wal-g-restore", "initial-script"],
      (name ∈ set.mountNames ↔ name ∈ set.volumeNames) := by
  intro set
  have hdata {name : String} (hname : name ∈ ["wal-g-restore", "initial-script"]) :
      name ≠ VolumeSet.dataName := fun heq => absurd (heq ▸ hname) (by decide)
  have hvolumes {name : String} (hname : name ∈ ["wal-g-restore", "initial-script"]) :
      name ∈ set.volumeNames ↔
        history ≠ [] ∧ name ∈ (db.restoreSecret ++ db.initScript).map (·.volume.name) := by
    refine (StatefulSet.mem_volumeNames_after (hdata hname)).trans ?_
    exact (or_iff_right List.not_mem_nil).trans (exists_mounted_iff hname hrestored hhistory)
  refine ⟨?_, ?_, fun name hname => StatefulSet.mem_mountNames_iff (hdata hname)⟩
  · rw [hvolumes (by decide), mem_names_restoreSecret]
  · rw [hvolumes (by decide), mem_names_initScript]

/-- The report that the data is restored. -/
def restoredStatus : PostgresStatus where
  conditions := [{ type := dataRestored, status := "True" }]

/-- An instance that is restored from a bucket. -/
def recovering : Postgres where
  metadata := { name := some "db", ns := some "demo" }
  spec := { init := some { postgresWal := some { storage := {
    storageSecretName := some "s3-credentials"
    s3 := some { bucket := "wal" } } } } }

/-- The credentials are still mounted when they are no longer needed. -/
theorem leftovers_after_restoration_recovering :
    "wal-g-restore" ∈ (({} : StatefulSet).after [(recovering, {}, {}),
      ({ recovering with status := some restoredStatus }, {}, {})]).mountNames := by
  obtain ⟨hsecret, -, hmounts⟩ := leftovers_after_restoration
    { recovering with status := some restoredStatus } {} {} [(recovering, {}, {})] (by decide)
    (List.forall_mem_singleton.2 ⟨rfl, by decide⟩)
  exact (hmounts _ (by decide)).2 (hsecret.2 ⟨nofun, _, rfl, rfl⟩)

/-- The script of an instance stays in the pod, and mounted, after its data is restored. -/
theorem script_left_over :
    (seeded .durable).restored = false ∧
    ({ seeded .durable with status := some restoredStatus } : Postgres).restored = true ∧
    let set := ({ seeded .durable with status := some restoredStatus } : Postgres).statefulSet {} {}
      ((seeded .durable).statefulSet {} {} {})
    "initial-script" ∈ set.volumeNames ∧ "initial-script" ∈ set.mountNames := by
  decide +kernel

end Postgres

end PgOperator
