import Mathlib.Tactic.Lemma
import PgOperator.Proofs.Members
import PgOperator.Proofs.Overlay

/-!
The environment of the database container.

The variables that follow from an instance have different names, whichever groups of them are there
and whatever stores they are for (`nodup_names_derivedEnv`). The environment is the list of them
under the user's variables, and the container's is the same with the operator's own variable in
front (`env_overlaid`).
-/

namespace PgOperator

open Kube

namespace Postgres

variable {db : Postgres}

/-! ### Names -/

/-- The names of variables that say where a store is, or how to reach it. -/
def storeNames (stem : String) : List String :=
  [stem ++ "_S3_PREFIX", stem ++ "_S3_ENDPOINT", stem ++ "_S3_REGION", stem ++ "_GS_PREFIX",
    stem ++ "_AZ_PREFIX", stem ++ "_SWIFT_PREFIX", stem ++ "_FILE_PREFIX"]

/-- The names of all variables that may follow from an instance, in their order. -/
def derivedNames : List String :=
  ["NAMESPACE", "PRIMARY_HOST", "POSTGRES_USER", "POSTGRES_PASSWORD"] ++ ["STANDBY", "STREAMING"] ++
    ["LEASE_DURATION", "RENEW_DEADLINE", "RETRY_PERIOD"] ++ "ARCHIVE" :: storeNames "ARCHIVE" ++
    "RESTORE" :: (storeNames "RESTORE" ++ recoveryNames)

lemma sublist_names_s3Env (stem : String) (store : S3Store) :
    ((s3Env stem store).map (·.name)).Sublist [stem ++ "_S3_ENDPOINT", stem ++ "_S3_REGION"] := by
  simp only [s3Env]
  split <;> split <;> simp

lemma sublist_names_remoteEnv (stem : String) (backend : Backend) (dir : String) :
    ((remoteEnv stem backend dir).map (·.name)).Sublist (storeNames stem) := by
  have hname : (remoteVar stem backend dir).name =
      stem ++ ("_" ++ (backend.infixText ++ "_PREFIX")) := by
    simp only [remoteVar, name_plainVar, String.append_assoc]
  cases backend with
  | s3 store =>
    have hrest : ((s3Env stem store).map (·.name)).Sublist (storeNames stem).tail :=
      (sublist_names_s3Env stem store).trans (List.sublist_append_left _ _)
    rw [remoteEnv, List.map_cons, hname]
    exact hrest.cons_cons _
  | gcs store | azure store | swift store | file store =>
    simp [remoteEnv, hname, Backend.infixText, storeNames]

lemma sublist_names_archiveEnv (db : Postgres) (storage : StorageBackend) :
    ((archiveEnv db storage).map (·.name)).Sublist ("ARCHIVE" :: storeNames "ARCHIVE") := by
  rw [archiveEnv, List.map_cons]
  refine List.Sublist.cons_cons _ ?_
  split
  · exact List.nil_sublist _
  · exact List.singleton_sublist.2 (by simp [storeNames])
  · exact sublist_names_remoteEnv _ _ _

lemma sublist_names_recoveryTargetEnv (target : RecoveryTarget) :
    ((recoveryTargetEnv target).map (·.name)).Sublist recoveryNames := by
  have hnames : recoveryNames =
      ["PITR", "TARGET_INCLUSIVE"] ++ ["TARGET_TIME"] ++ ["TARGET_TIMELINE"] ++
        ["TARGET_XID"] := rfl
  simp only [recoveryTargetEnv, List.map_append, hnames]
  refine List.Sublist.append (List.Sublist.append (List.Sublist.append ?always ?time) ?timeline)
    ?xid
  case always => exact List.Sublist.refl _
  case time | timeline | xid =>
    split
    · split <;> simp
    · exact List.nil_sublist _

lemma sublist_names_restoreEnv (wal : WalSource) : ((restoreEnv wal).map (·.name)).Sublist
    ("RESTORE" :: (storeNames "RESTORE" ++ recoveryNames)) := by
  rw [restoreEnv, List.map_append, List.map_cons, List.cons_append]
  refine List.Sublist.cons_cons _ (List.Sublist.append ?_ ?_)
  · split
    · exact List.nil_sublist _
    · exact List.singleton_sublist.2 (by simp [storeNames])
    · exact sublist_names_remoteEnv _ _ _
  · split
    · exact sublist_names_recoveryTargetEnv _
    · exact List.nil_sublist _

lemma sublist_names_derivedEnv (db : Postgres) :
    (db.derivedEnv.map (·.name)).Sublist derivedNames := by
  simp only [derivedEnv, List.map_append]
  refine List.Sublist.append (List.Sublist.append (List.Sublist.append ?always ?election) ?archive)
    ?restore
  case always => exact List.Sublist.refl _
  case election =>
    split
    · exact List.Sublist.refl _
    · exact List.nil_sublist _
  case archive =>
    split
    · exact sublist_names_archiveEnv _ _
    · exact List.nil_sublist _
  case restore =>
    split
    · exact sublist_names_restoreEnv _
    · exact List.nil_sublist _

lemma nodup_names_derivedEnv (db : Postgres) : (db.derivedEnv.map (·.name)).Nodup :=
  db.sublist_names_derivedEnv.nodup (by decide +kernel)

/-! ### The user's variables -/

/-- The operator's own variable. -/
def analyticsVar (options : Options) : EnvVar :=
  plainVar "ANALYTICS_CLIENT_ID" options.analyticsClientId

lemma nodup_names_analyticsVar (db : Postgres) (options : Options) :
    ((analyticsVar options :: db.derivedEnv).map (·.name)).Nodup := by
  have hnew : "ANALYTICS_CLIENT_ID" ∉ derivedNames := by decide +kernel
  refine List.nodup_cons.2 ⟨fun hmem => hnew ?_, db.nodup_names_derivedEnv⟩
  exact db.sublist_names_derivedEnv.subset hmem

/-- Whether the user's variables are merged before or after the operator's own one has been put in
front makes no difference. -/
lemma containerEnv_eq (db : Postgres) (options : Options) : db.containerEnv options =
    upsertEnv (analyticsVar options :: db.derivedEnv) db.spec.podTemplate.spec.env := by
  have hderived : upsertAll (·.name) [] db.derivedEnv = db.derivedEnv :=
    upsertAll_nil_eq_self db.nodup_names_derivedEnv
  have hfront : upsertAll (·.name) [analyticsVar options] db.derivedEnv =
      analyticsVar options :: db.derivedEnv :=
    upsertAll_nil_eq_self (db.nodup_names_analyticsVar options)
  calc db.containerEnv options
      = upsertAll (·.name) [analyticsVar options]
          (upsertAll (·.name) db.derivedEnv db.spec.podTemplate.spec.env) := rfl
    _ = upsertAll (·.name) [analyticsVar options]
          (upsertAll (·.name) [] (db.derivedEnv ++ db.spec.podTemplate.spec.env)) := by
        rw [upsertAll_append, hderived]
    _ = upsertAll (·.name) [analyticsVar options]
          (db.derivedEnv ++ db.spec.podTemplate.spec.env) := upsertAll_upsertAll_nil _ _
    _ = upsertAll (·.name) (analyticsVar options :: db.derivedEnv)
          db.spec.podTemplate.spec.env := by
        rw [upsertAll_append, hfront]

/-- **The environment of an instance**: the variables that follow from it have different names, and
the environment is the list of them under the user's variables. The environment of the database
container is the same with the operator's own variable in front, which a user may replace as well.
So no two variables have one name. -/
theorem env_overlaid (db : Postgres) (version : PostgresVersion) (options : Options)
    (volumes : VolumeSet) :
    (db.derivedEnv.map (·.name)).Nodup ∧
    db.env = overlaid (·.name) db.derivedEnv db.spec.podTemplate.spec.env ∧
    (db.env.map (·.name)).Nodup ∧
    ∃ env, (db.databaseContainer version options volumes).env = some env ∧
      env = overlaid (·.name) (analyticsVar options :: db.derivedEnv)
        db.spec.podTemplate.spec.env ∧
      (env.map (·.name)).Nodup := by
  refine ⟨db.nodup_names_derivedEnv, upsertAll_eq_overlaid db.nodup_names_derivedEnv _,
    nodup_names_upsertEnv db.nodup_names_derivedEnv _, db.containerEnv options, rfl, ?_,
    db.nodup_names_containerEnv options⟩
  rw [containerEnv_eq]
  exact upsertAll_eq_overlaid (db.nodup_names_analyticsVar options) _

end Postgres

end PgOperator
