import Mathlib.Data.List.Nodup
import Mathlib.Tactic.Lemma
import PgOperator.Proofs.Environment
import PgOperator.Proofs.Leftovers

/-!
Where an instance archives its write-ahead log.

A variable whose name depends on the kind of store says where the archive is. Within one
specification there is at most one such place, and places in remote stores are different for
different instances (`archivePrefix_injective`). Over a history of specifications variables of other
stores are left over: the live container names the place of the last specification and no other if
and only if that one sets every variable that an earlier one has set (`archiveTargets_after`).
-/

namespace PgOperator

open Kube

namespace Postgres

/-- Whether a variable of the name says where the archive is, in any kind of store. -/
def isArchivePrefix (name : String) : Bool :=
  "ARCHIVE_".toList.isPrefixOf name.toList && "_PREFIX".toList.isSuffixOf name.toList

/-- Whether a variable of the name says where the archive is, or how to reach it. -/
def isArchiveTarget (name : String) : Bool :=
  isArchivePrefix name || name = "ARCHIVE_S3_ENDPOINT" || name = "ARCHIVE_S3_REGION"

def archiveVars (db : Postgres) : List EnvVar :=
  match db.archive? with
  | some storage => archiveEnv db storage
  | none => []

/-- Those of them that say where the archive is, or how to reach it. -/
def archiveTargets (db : Postgres) : List EnvVar :=
  db.archiveVars.filter fun var => isArchiveTarget var.name

/-- Those of them that say where the archive is. -/
def archivePrefixes (db : Postgres) : List EnvVar :=
  db.archiveVars.filter fun var => isArchivePrefix var.name

variable {db : Postgres}

lemma exists_rest_of_isArchiveTarget {name : String} (h : isArchiveTarget name = true) :
    ∃ rest, name = "ARCHIVE_" ++ rest := by
  simp only [isArchiveTarget, isArchivePrefix, Bool.or_eq_true, Bool.and_eq_true,
    decide_eq_true_eq] at h
  rcases h with (⟨h, -⟩ | rfl) | rfl
  · obtain ⟨rest, hrest⟩ := List.isPrefixOf_iff_prefix.1 h
    exact ⟨String.ofList rest, by simp [← String.toList_inj, ← hrest]⟩
  · exact ⟨"S3_ENDPOINT", rfl⟩
  · exact ⟨"S3_REGION", rfl⟩

lemma isArchivePrefix_remoteVar (backend : Backend) (dir : String) :
    isArchivePrefix (remoteVar "ARCHIVE" backend dir).name = true := by
  show isArchivePrefix ("ARCHIVE" ++ "_" ++ backend.infixText ++ "_PREFIX") = true
  cases backend <;> simp only [Backend.infixText] <;> decide +kernel

lemma not_isArchivePrefix_of_mem_s3Env (store : S3Store) :
    ∀ var ∈ s3Env "ARCHIVE" store, ¬ isArchivePrefix var.name = true := by
  intro var hvar
  simp only [s3Env, List.mem_append, List.mem_ite_nil_right, List.mem_singleton] at hvar
  rcases hvar with ⟨-, rfl⟩ | ⟨-, rfl⟩ <;> rw [name_plainVar] <;> decide +kernel

lemma filter_archiveEnv (storage : StorageBackend) :
    (archiveEnv db storage).filter (fun var => isArchivePrefix var.name) =
      match storage.backend? with
      | none => []
      | some (.file store) => [plainVar "ARCHIVE_FILE_PREFIX" store.mountPath]
      | some backend => [remoteVar "ARCHIVE" backend db.walDataDir] := by
  have hmethod : ¬ isArchivePrefix "ARCHIVE" = true := by decide +kernel
  have hfile : isArchivePrefix "ARCHIVE_FILE_PREFIX" = true := by decide +kernel
  rw [archiveEnv, List.filter_cons_of_neg (by simpa using hmethod)]
  cases storage.backend? with
  | none => rfl
  | some backend =>
    cases backend with
    | s3 store =>
      have hrest := List.filter_eq_nil_iff.2 (not_isArchivePrefix_of_mem_s3Env store)
      simp only [remoteEnv, hrest, List.filter_cons, isArchivePrefix_remoteVar, if_true]
    | gcs store | azure store | swift store =>
      simp only [remoteEnv, List.filter_cons, isArchivePrefix_remoteVar, if_true, List.filter_nil]
    | file store => simp only [List.filter_cons, name_plainVar, hfile, if_true, List.filter_nil]

/-- A specification names one place at most, which depends on the store. -/
lemma archivePrefixes_eq (db : Postgres) : db.archivePrefixes =
    match db.archive?.bind (·.backend?) with
    | none => []
    | some (.file store) => [plainVar "ARCHIVE_FILE_PREFIX" store.mountPath]
    | some backend => [remoteVar "ARCHIVE" backend db.walDataDir] := by
  rw [archivePrefixes, archiveVars]
  cases db.archive? with
  | none => rfl
  | some storage => exact filter_archiveEnv storage

lemma length_archivePrefixes_le_one (db : Postgres) : db.archivePrefixes.length ≤ 1 := by
  rw [archivePrefixes_eq]
  split <;> simp

/-! ### Different instances -/

/-- A text that can stand between two slashes. -/
structure IsSegment (text : String) : Prop where
  ne_empty : text ≠ ""
  no_slash : '/' ∉ text.toList

lemma eq_nil_of_slash_eq {between rest rest' : List Char}
    (h : '/' :: rest = between ++ '/' :: rest') (hrest : '/' ∉ rest) : between = [] := by
  cases between with
  | nil => rfl
  | cons c more =>
    refine absurd ?_ hrest
    rw [List.tail_eq_of_cons_eq h]
    exact List.mem_append_right _ List.mem_cons_self

lemma eq_of_slash_eq {s t s' t' : String} (h : s ++ "/" ++ t = s' ++ "/" ++ t')
    (ht : '/' ∉ t.toList) (ht' : '/' ∉ t'.toList) : s = s' ∧ t = t' := by
  have hchars : s.toList ++ '/' :: t.toList = s'.toList ++ '/' :: t'.toList := by
    simpa [← String.toList_inj] using h
  simp only [← String.toList_inj]
  rcases List.append_eq_append_iff.1 hchars with ⟨between, heq, hrest⟩ | ⟨between, heq, hrest⟩
  · obtain rfl := eq_nil_of_slash_eq hrest ht
    exact ⟨(heq.trans (List.append_nil _)).symm, List.tail_eq_of_cons_eq hrest⟩
  · obtain rfl := eq_nil_of_slash_eq hrest ht'
    exact ⟨heq.trans (List.append_nil _), (List.tail_eq_of_cons_eq hrest).symm⟩

lemma exists_walDataDir (hns : db.ns ≠ "") (hname : db.name ≠ "") : ∃ before,
    "/" ++ db.walDataDir = before ++ "/" ++ db.ns ++ "/" ++ db.name ++ "/" ++ "archive" := by
  rw [walDataDir]
  generalize Text.trimSlashes _ = first
  have hfirst : [first, "kubedb"].filter (· ≠ "") ≠ [] :=
    List.ne_nil_of_mem (List.mem_filter.2 ⟨List.mem_cons_of_mem _ List.mem_cons_self, by decide⟩)
  have hlast : [db.ns, db.name, "archive"].filter (· ≠ "") = [db.ns, db.name, "archive"] := by
    simp [hns, hname]
  have hparts : [first, "kubedb", db.ns, db.name, "archive"].filter (· ≠ "") =
      [first, "kubedb"].filter (· ≠ "") ++ [db.ns, db.name, "archive"] := by
    refine Eq.trans ?_ (congrArg _ hlast)
    exact List.filter_append [first, "kubedb"] _
  refine ⟨"/" ++ Text.join "/" ([first, "kubedb"].filter (· ≠ "")), ?_⟩
  rw [hparts, Text.join, String.intercalate_append_of_ne_nil hfirst (List.cons_ne_nil _ _)]
  simp only [Text.join, String.intercalate_cons_cons, String.intercalate_singleton,
    String.append_assoc, -String.reduceAppend]

lemma exists_archivePrefix (hremote : db.archive?.any (·.isRemote) = true) (hns : db.ns ≠ "")
    (hname : db.name ≠ "") : ∃ var before, db.archivePrefixes = [var] ∧
      var.value = some (before ++ "/" ++ db.ns ++ "/" ++ db.name ++ "/" ++ "archive") := by
  obtain ⟨storage, hstorage, hremote⟩ := (Option.any_eq_true _ _).1 hremote
  obtain ⟨before, hdir⟩ := exists_walDataDir hns hname
  rw [archivePrefixes_eq, hstorage, Option.bind_some]
  rw [StorageBackend.isRemote] at hremote
  cases hbackend : storage.backend? with
  | none =>
    rw [hbackend] at hremote
    cases hremote
  | some backend =>
    have hvalue (scheme location : String) : scheme ++ "://" ++ location ++ "/" ++ db.walDataDir =
        scheme ++ "://" ++ location ++ before ++ "/" ++ db.ns ++ "/" ++ db.name ++ "/" ++
          "archive" := by
      rw [@String.append_assoc _ "/" db.walDataDir, hdir]
      simp only [String.append_assoc]
    cases backend with
    | s3 store | gcs store | azure store | swift store =>
      exact ⟨_, _, rfl, congrArg some (hvalue _ _)⟩
    | file store =>
      rw [hbackend] at hremote
      cases hremote

/-- **Different instances archive into different places**: where the places of two instances in
remote stores are the same, whatever buckets and directories their users gave, the instances have
the same namespace and the same name. -/
theorem archivePrefix_injective {a b : Postgres} (ha : a.archive?.any (·.isRemote) = true)
    (hb : b.archive?.any (·.isRemote) = true) (hans : IsSegment a.ns) (haname : IsSegment a.name)
    (hbns : IsSegment b.ns) (hbname : IsSegment b.name) :
    ∃ x y, a.archivePrefixes = [x] ∧ b.archivePrefixes = [y] ∧
      (x.value = y.value → a.ns = b.ns ∧ a.name = b.name) := by
  obtain ⟨x, before, hx, hxvalue⟩ := exists_archivePrefix ha hans.ne_empty haname.ne_empty
  obtain ⟨y, before', hy, hyvalue⟩ := exists_archivePrefix hb hbns.ne_empty hbname.ne_empty
  refine ⟨x, y, hx, hy, fun heq => ?_⟩
  have hplace := Option.some.inj (hxvalue.symm.trans (heq.trans hyvalue))
  have harchive : '/' ∉ "archive".toList := by decide +kernel
  obtain ⟨hname, -⟩ := eq_of_slash_eq hplace harchive harchive
  obtain ⟨hns, hname⟩ := eq_of_slash_eq hname haname.no_slash hbname.no_slash
  exact ⟨(eq_of_slash_eq hns hans.no_slash hbns.no_slash).2, hname⟩

/-- An instance that archives into a store. -/
def archiving (ns : String) (storage : StorageBackend) : Postgres where
  metadata := { name := some "db", ns := some ns }
  spec := { archiver := some { storage := some storage } }

/-- A directory that looks like that of another instance does not lead there. -/
theorem archivePrefix_injective_imitated :
    let original := archiving "demo" { s3 := some { bucket := "wal" } }
    let imitation :=
      archiving "prod" { s3 := some { bucket := "wal", dir := "kubedb/demo/db/archive" } }
    ∃ x y, original.archivePrefixes = [x] ∧ imitation.archivePrefixes = [y] ∧
      x.value ≠ y.value := by
  intro original imitation
  have hdemo : IsSegment "demo" := ⟨by decide, by decide⟩
  have hprod : IsSegment "prod" := ⟨by decide, by decide⟩
  have hdb : IsSegment "db" := ⟨by decide, by decide⟩
  obtain ⟨x, y, hx, hy, hinjective⟩ :=
    archivePrefix_injective (a := original) (b := imitation) rfl rfl hdemo hdb hprod hdb
  have hne : "demo" ≠ "prod" := by decide
  exact ⟨x, y, hx, hy, fun heq => hne (hinjective heq).1⟩

/-! ### Variables of one specification -/

lemma nodup_names_archiveVars (db : Postgres) : (db.archiveVars.map (·.name)).Nodup := by
  rw [archiveVars]
  cases db.archive? with
  | none => exact .nil
  | some storage => exact (sublist_names_archiveEnv db storage).nodup (by decide +kernel)

lemma nodup_archiveTargets (db : Postgres) : db.archiveTargets.Nodup :=
  (db.nodup_names_archiveVars.of_map _).filter _

/-- The names of the variables that do not follow from an archive. -/
def plainNames : List String :=
  ["NAMESPACE", "PRIMARY_HOST", "POSTGRES_USER", "POSTGRES_PASSWORD", "STANDBY", "STREAMING",
    "LEASE_DURATION", "RENEW_DEADLINE", "RETRY_PERIOD"] ++ recoveryNames

lemma name_of_mem_plain : ∀ var ∈ identityEnv db ++ replicationEnv db ++
    (match db.spec.leaderElection with
      | some election => leaderElectionEnv election
      | none => []), var.name ∈ plainNames := by
  have hlist : ∀ var ∈ identityEnv db ++ replicationEnv db, var.name ∈ plainNames := by
    simp [identityEnv, replicationEnv, fieldVar, plainNames]
  refine List.forall_mem_append.2 ⟨hlist, ?_⟩
  split
  · simp [leaderElectionEnv, plainNames]
  · exact List.forall_mem_nil _

lemma mem_archiveVars_of_mem_derivedEnv : ∀ var ∈ db.derivedEnv,
    isArchiveTarget var.name = true → var ∈ db.archiveVars := by
  have hplain : ∀ name ∈ plainNames, ¬ isArchiveTarget name = true := by decide +kernel
  intro var hvar htarget
  rcases List.mem_append.1 hvar with hvar | hvar
  · rcases List.mem_append.1 hvar with hvar | hvar
    · exact absurd htarget (hplain _ (name_of_mem_plain var hvar))
    · exact hvar
  · cases hrestore : db.restore? with
    | none =>
      rw [hrestore] at hvar
      exact absurd hvar List.not_mem_nil
    | some wal =>
      rw [hrestore] at hvar
      rcases name_of_mem_restoreEnv var hvar with ⟨rest, hname⟩ | hname
      · obtain ⟨rest', hname'⟩ := exists_rest_of_isArchiveTarget htarget
        exact absurd (hname.symm.trans hname') (by simp [← String.toList_inj])
      · exact absurd htarget (hplain _ (List.mem_append_right _ hname))

lemma mem_containerEnv_iff {options : Options} {var : EnvVar}
    (henv : db.spec.podTemplate.spec.env = []) (htarget : isArchiveTarget var.name = true) :
    var ∈ db.containerEnv options ↔ var ∈ db.archiveVars := by
  have hderived : db.env = db.derivedEnv := by rw [env, henv]; rfl
  have hown : ∀ other ∈ db.containerEnv options, isArchiveTarget other.name = true →
      other ∈ db.archiveVars := by
    have hanalytics : ¬ isArchiveTarget "ANALYTICS_CLIENT_ID" = true := by decide +kernel
    have hnew : ∀ other ∈ db.env, isArchiveTarget other.name = true → other ∈ db.archiveVars :=
      hderived ▸ mem_archiveVars_of_mem_derivedEnv
    exact forall_mem_foldl_lay (List.forall_mem_singleton.2 fun h => absurd h hanalytics) hnew
      fun _ _ => hnew
  refine ⟨fun hvar => hown var hvar htarget, fun hvar => ?_⟩
  have hmem : var ∈ db.env := hderived ▸ List.mem_append_left _ (List.mem_append_right _ hvar)
  have hname : var.name ∈ (db.containerEnv options).map (·.name) :=
    (mem_keys_foldl_lay fun var _ => keepsKey_replace var).2 (.inr (List.mem_map_of_mem hmem))
  -- Whichever variable has the name now is one of continuous archiving, and there is but one.
  obtain ⟨other, hother, heq⟩ := List.mem_map.1 hname
  have hfound := find?_key_of_mem db.nodup_names_archiveVars
    (hown other hother (heq.symm ▸ htarget))
  rw [heq, find?_key_of_mem db.nodup_names_archiveVars hvar] at hfound
  exact Option.some.inj hfound ▸ hother

lemma mem_names_filter_iff {vars : List EnvVar} {name : String} :
    name ∈ (vars.filter fun var => isArchiveTarget var.name).map (·.name) ↔
      isArchiveTarget name = true ∧ name ∈ vars.map (·.name) := by
  simp only [List.mem_map, List.mem_filter]
  constructor
  · rintro ⟨var, ⟨hvar, htarget⟩, rfl⟩
    exact ⟨htarget, var, hvar, rfl⟩
  · rintro ⟨htarget, var, hvar, rfl⟩
    exact ⟨var, ⟨hvar, htarget⟩, rfl⟩

lemma mem_names_containerEnv_iff (options : Options) {name : String}
    (henv : db.spec.podTemplate.spec.env = []) (htarget : isArchiveTarget name = true) :
    name ∈ (db.containerEnv options).map (·.name) ↔ name ∈ db.archiveTargets.map (·.name) := by
  rw [archiveTargets, mem_names_filter_iff, and_iff_right htarget, List.mem_map, List.mem_map]
  refine exists_congr fun var => and_congr_left ?_
  rintro rfl
  exact mem_containerEnv_iff henv htarget

end Postgres

/-! ### Histories of specifications -/

namespace Kube.StatefulSet

/-- The variables of the database container that say where the archive is, or how to reach it. -/
def archiveTargets (set : StatefulSet) : List EnvVar :=
  set.databaseEnv.filter fun var => Postgres.isArchiveTarget var.name

variable {live : StatefulSet} {history : List (Postgres × PostgresVersion × Options)}

lemma nodup_names_databaseEnv_after (h : (live.databaseEnv.map (·.name)).Nodup) :
    ((live.after history).databaseEnv.map (·.name)).Nodup := by
  induction history generalizing live with
  | nil => exact h
  | cons e rest ih =>
    refine ih ?_
    rw [Postgres.databaseEnv_statefulSet]
    exact nodup_names_upsertEnv h _

lemma nodup_archiveTargets_after : (({} : StatefulSet).after history).archiveTargets.Nodup :=
  have hnames : ((({} : StatefulSet).after history).databaseEnv.map (·.name)).Nodup :=
    nodup_names_databaseEnv_after .nil
  (hnames.of_map _).filter _

lemma mem_names_archiveTargets_after {name : String}
    (henv : ∀ e ∈ history, e.1.spec.podTemplate.spec.env = []) :
    name ∈ (({} : StatefulSet).after history).archiveTargets.map (·.name) ↔
      ∃ e ∈ history, name ∈ e.1.archiveTargets.map (·.name) := by
  have hblank : name ∉ ({} : StatefulSet).archiveTargets.map (·.name) := List.not_mem_nil
  refine (mem_after_iff (fun set => set.archiveTargets.map (·.name))
    (fun e => e.1.archiveTargets.map (·.name)) fun e he live => ?_).trans (or_iff_right hblank)
  simp only [archiveTargets, Postgres.databaseEnv_statefulSet, Postgres.mem_names_filter_iff]
  by_cases htarget : Postgres.isArchiveTarget name = true
  · rw [and_iff_right htarget, and_iff_right htarget,
      ← Postgres.mem_names_containerEnv_iff e.2.2 (henv e he) htarget]
    exact mem_keys_foldl_lay fun var _ => keepsKey_replace var
  · refine iff_of_false (fun h => htarget h.1) ?_
    rintro (h | h)
    · exact htarget h.1
    · exact htarget (Postgres.mem_names_filter_iff.1 h).1

/-- After a pass the variables are those of the specification, and those that were there under other
names. -/
lemma mem_archiveTargets_statefulSet {db : Postgres} {version : PostgresVersion} {options : Options}
    {var : EnvVar} (henv : db.spec.podTemplate.spec.env = [])
    (hlive : (live.databaseEnv.map (·.name)).Nodup) :
    var ∈ (db.statefulSet version options live).archiveTargets ↔
      var ∈ db.archiveTargets ∨
        var ∈ live.archiveTargets ∧ var.name ∉ db.archiveTargets.map (·.name) := by
  simp only [archiveTargets, Postgres.archiveTargets, List.mem_filter,
    Postgres.databaseEnv_statefulSet]
  rw [upsertEnv, mem_upsertAll_iff hlive (db.nodup_names_containerEnv options)]
  by_cases htarget : Postgres.isArchiveTarget var.name = true
  · have hname := Postgres.mem_names_containerEnv_iff options henv htarget
    rw [Postgres.archiveTargets] at hname
    simp only [htarget, and_true, Postgres.mem_containerEnv_iff henv htarget, hname]
  · simp [htarget]

/-- **One archive at a time**, or not: after a history of specifications without variables of the
user's, the container has the variables of the last one that say where the archive is, or how to
reach it. It has no others if and only if the last specification sets every such variable that an
earlier one sets. Otherwise it has those of the earlier ones too, while every single specification
names one place at most. -/
theorem archiveTargets_after (history : List (Postgres × PostgresVersion × Options)) (db : Postgres)
    (version : PostgresVersion) (options : Options)
    (henv : ∀ e ∈ history ++ [(db, version, options)], e.1.spec.podTemplate.spec.env = []) :
    let set := ({} : StatefulSet).after (history ++ [(db, version, options)])
    (set.archiveTargets.Perm db.archiveTargets ↔
      ∀ e ∈ history, ∀ var ∈ e.1.archiveTargets, var.name ∈ db.archiveTargets.map (·.name)) ∧
    (∀ var ∈ db.archiveTargets, var ∈ set.archiveTargets) ∧
    (∀ name, name ∈ set.archiveTargets.map (·.name) ↔
      ∃ e ∈ history ++ [(db, version, options)], name ∈ e.1.archiveTargets.map (·.name)) ∧
    db.archivePrefixes.length ≤ 1 := by
  intro set
  have hlast : db.spec.podTemplate.spec.env = [] :=
    henv (db, version, options) (List.mem_append_right _ List.mem_cons_self)
  have hhistory : ∀ e ∈ history, e.1.spec.podTemplate.spec.env = [] := fun e he =>
    henv e (List.mem_append_left _ he)
  -- The last pass sets its own variables and leaves those of other names where they were.
  have hmem {var : EnvVar} : var ∈ set.archiveTargets ↔ var ∈ db.archiveTargets ∨
      var ∈ (({} : StatefulSet).after history).archiveTargets ∧
        var.name ∉ db.archiveTargets.map (·.name) := by
    rw [show set = _ from after_concat _ _ _ _ _]
    exact mem_archiveTargets_statefulSet hlast (nodup_names_databaseEnv_after .nil)
  refine ⟨⟨fun hperm e he var hvar => ?_, fun hcovered => ?_⟩, fun var hvar => hmem.2 (.inl hvar),
    fun name => mem_names_archiveTargets_after henv, db.length_archivePrefixes_le_one⟩
  · refine (hperm.map (·.name)).mem_iff.1 ((mem_names_archiveTargets_after henv).2 ?_)
    exact ⟨e, List.mem_append_left _ he, List.mem_map_of_mem hvar⟩
  · refine (List.perm_ext_iff_of_nodup nodup_archiveTargets_after db.nodup_archiveTargets).2
      fun var => hmem.trans (or_iff_left fun ⟨hvar, hnew⟩ => hnew ?_)
    obtain ⟨e, he, hname⟩ := (mem_names_archiveTargets_after hhistory).1 (List.mem_map_of_mem hvar)
    obtain ⟨other, hother, heq⟩ := List.mem_map.1 hname
    exact heq ▸ hcovered e he other hother

/-- An instance that archives into a bucket of S3. -/
def bucketOf (region : String) : Postgres :=
  .archiving "demo" { s3 := some { bucket := "wal", region } }

/-- The archive moves to a bucket in another region. -/
theorem archiveTargets_after_moved :
    (({} : StatefulSet).after [(bucketOf "us", {}, {}), (bucketOf "eu", {}, {})]
      ).archiveTargets.Perm (bucketOf "eu").archiveTargets := by
  refine (archiveTargets_after [(bucketOf "us", {}, {})] (bucketOf "eu") {} {} ?_).1.2 ?_
  · intro e he
    rcases List.mem_cons.1 he with rfl | he
    · rfl
    · rw [List.mem_singleton.1 he]
      rfl
  · refine List.forall_mem_singleton.2 ?_
    decide +kernel

/-- The archive moves to a store of another kind: both places are named. -/
theorem archiveTargets_left_over :
    let second := Postgres.archiving "demo" { gcs := some { bucket := "wal" } }
    let set := ({} : StatefulSet).after [(bucketOf "eu", {}, {}), (second, {}, {})]
    (bucketOf "eu").spec.podTemplate.spec.env = [] ∧ second.spec.podTemplate.spec.env = [] ∧
    second.archiveTargets.map (·.name) = ["ARCHIVE_GS_PREFIX"] ∧
    set.archiveTargets.map (·.name) =
      ["ARCHIVE_S3_PREFIX", "ARCHIVE_S3_REGION", "ARCHIVE_GS_PREFIX"] := by
  decide +kernel

end Kube.StatefulSet

end PgOperator
