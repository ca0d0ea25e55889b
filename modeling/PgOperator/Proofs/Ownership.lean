import Mathlib.Tactic.Lemma
import PgOperator.Proofs.Footprint
import PgOperator.Proofs.Readiness

/-!
Whose stateful set it is.

A pass refuses the stateful set of its name unless that carries both labels of the instance, and
nothing else makes it end with a collision (`ends_colliding_iff`). A set that a pass writes carries
both labels, whether or not the pass ends well (`labels_reconcile`). So over many passes, with edits
by others in between, a set becomes foreign in an edit only (`history_collision`).
-/

namespace PgOperator

open Kube Memory

/-! ### Stateful sets of an instance -/

/-- The stateful set carries both labels of an instance of this name. -/
def Kube.StatefulSet.BelongsTo (set : StatefulSet) (name : String) : Prop :=
  (set.metadata.labels.getD .empty).get? Label.kind = some "Postgres" ∧
    (set.metadata.labels.getD .empty).get? Label.name = some name

instance (set : StatefulSet) (name : String) : Decidable (set.BelongsTo name) :=
  inferInstanceAs (Decidable (_ ∧ _))

namespace Memory

abbrev setKeyOf (id : ObjectId) : ObjectKey := ⟨.statefulSet, id.ns, id.name⟩

/-- The stateful set of this identity is there, and it belongs to the instance. -/
def Owned (objects : List (ObjectKey × Json)) (id : ObjectId) : Prop :=
  ∃ doc, ∃ set : StatefulSet, lookup objects (setKeyOf id) = some doc ∧
    Record.decode doc = some set ∧ set.BelongsTo id.name

/-- The stateful set of this identity is there, and it lacks a label of the instance. -/
def Foreign (objects : List (ObjectKey × Json)) (id : ObjectId) : Prop :=
  ∃ doc, ∃ set : StatefulSet, lookup objects (setKeyOf id) = some doc ∧
    Record.decode doc = some set ∧ ¬ set.BelongsTo id.name

instance (objects : List (ObjectKey × Json)) (id : ObjectId) : Decidable (Foreign objects id) :=
  decidable_of_iff ((lookup objects (setKeyOf id)).any (fun doc =>
    (Record.decode doc : Option StatefulSet).any fun set => !set.BelongsTo id.name) = true) <| by
    simp only [Option.any_eq_true, Bool.not_eq_true', decide_eq_false_iff_not, Foreign]
    exact exists_congr fun doc => exists_and_left.symm

variable {objects others : List (ObjectKey × Json)} {id : ObjectId}

lemma Owned.not_foreign (h : Owned objects id) : ¬ Foreign objects id := by
  obtain ⟨doc, set, hget, hread, hbelongs⟩ := h
  rintro ⟨doc', set', hget', hread', hnot⟩
  obtain rfl := Option.some.inj (hget.symm.trans hget')
  obtain rfl := Option.some.inj (hread.symm.trans hread')
  exact hnot hbelongs

lemma Owned.of_lookup_eq (h : Owned objects id)
    (heq : lookup others (setKeyOf id) = lookup objects (setKeyOf id)) : Owned others id := by
  obtain ⟨doc, set, hget, hrest⟩ := h
  exact ⟨doc, set, heq.trans hget, hrest⟩

lemma Foreign.of_lookup_eq (h : Foreign objects id)
    (heq : lookup others (setKeyOf id) = lookup objects (setKeyOf id)) : Foreign others id := by
  obtain ⟨doc, set, hget, hrest⟩ := h
  exact ⟨doc, set, heq.trans hget, hrest⟩

lemma Typed.owned_or_none (htyped : Typed objects) (h : ¬ Foreign objects id) :
    Owned objects id ∨ lookup objects (setKeyOf id) = none := by
  cases hget : lookup objects (setKeyOf id) with
  | none => exact .inr rfl
  | some doc =>
    obtain ⟨set, hread, -⟩ := htyped.exists_read hget
    by_cases hbelongs : StatefulSet.BelongsTo set id.name
    · exact .inl ⟨doc, set, hget, hread, hbelongs⟩
    · exact absurd ⟨doc, set, hget, hread, hbelongs⟩ h

end Memory

namespace Pass

variable {α β : Type} {p : Pass α} {q : α → Pass β}

lemma ownsStatefulSet_iff {db : Postgres} {set : StatefulSet} :
    ownsStatefulSet db set ↔ set.BelongsTo db.name := decide_eq_true_iff

/-! ### Where collisions come from -/

/-- The result is no collision. -/
def NoCollision (result : Except Error α) : Prop :=
  ∀ kind ns name, result ≠ .error (.namingCollision kind ns name)

lemma noCollision_ok (value : α) : NoCollision (.ok value) := by
  rintro kind ns name heq
  cases heq

lemma noCollision_error {error : Error} (h : error.kind ≠ "NamingCollision") :
    NoCollision (.error error : Except Error α) := by
  rintro kind ns name heq
  obtain rfl := Except.error.inj heq
  exact h rfl

lemma noCollision_refusal (code : UInt16) (reason message : String) :
    NoCollision (.error (refusal code reason message) : Except Error α) :=
  noCollision_error (show "KubeError" ≠ "NamingCollision" by decide)

lemma NoCollision.of_error {error : Error} (h : NoCollision (.error error : Except Error α)) :
    NoCollision (.error error : Except Error β) :=
  fun kind ns name heq => h kind ns name (congrArg Except.error (Except.error.inj heq))

lemma failure?_ne_collision {m : Memory} {kind : Kind} {error : Error}
    (h : m.failure? kind = some error) : NoCollision (.error error : Except Error α) := by
  obtain ⟨failure, -, rfl⟩ := Option.map_eq_some_iff.1 h
  exact noCollision_refusal _ _ _

lemma noCollision_get (m : Memory) (kind : Kind) (id : ObjectId) : NoCollision (m.get kind id) := by
  unfold Memory.get
  split
  · rename_i error hfail
    exact failure?_ne_collision hfail
  · split
    · exact noCollision_ok _
    · split
      · exact noCollision_ok _
      · exact noCollision_error (by decide)

lemma noCollision_create (m : Memory) (kind : Kind) (ns : String) (object : kind.Object) :
    NoCollision (m.create kind ns object).1 := by
  unfold Memory.create
  split
  · rename_i error hfail
    exact failure?_ne_collision hfail
  · extract_lets metadata name key
    split
    · exact noCollision_refusal _ _ _
    · exact noCollision_ok _

lemma noCollision_patch (m : Memory) (kind : Kind) (id : ObjectId) (ops : Json.Patch) :
    NoCollision (m.patch kind id ops).1 := by
  unfold Memory.patch
  split
  · rename_i error hfail
    exact failure?_ne_collision hfail
  · extract_lets key
    split
    · exact noCollision_refusal _ _ _
    · split
      · exact noCollision_refusal _ _ _
      · split
        · exact noCollision_refusal _ _ _
        · extract_lets patched
          split
          · exact noCollision_ok _
          · exact noCollision_error (by decide)

lemma noCollision_awaitPods (m : Memory) (ns : String) (selector : Dict String) (count : Int32) :
    NoCollision (m.awaitPods ns selector count) := by
  unfold Memory.awaitPods
  extract_lets running
  split
  · exact noCollision_error (by decide)
  · split
    · exact noCollision_ok _
    · exact noCollision_error (show "ReadinessTimeout" ≠ "NamingCollision" by decide)

lemma noCollision_bind {m : Memory} (hp : NoCollision (p.run Memory.answer m).1)
    (hq : ∀ value mid, p.run Memory.answer m = (.ok value, mid) →
      NoCollision ((q value).run Memory.answer mid).1) :
    NoCollision ((p >>= q).run Memory.answer m).1 := by
  rw [run_bind]
  cases hrun : p.run Memory.answer m with
  | mk result mid =>
    rw [hrun] at hp
    cases result with
    | ok value => exact hq value mid hrun
    | error error => exact hp.of_error

/-- No run of the pass ends with a collision. -/
def Collisionless (p : Pass α) : Prop := ∀ m, NoCollision (p.run Memory.answer m).1

lemma Collisionless.bind (hp : Collisionless p) (hq : ∀ value, Collisionless (q value)) :
    Collisionless (p >>= q) := fun m => noCollision_bind (hp m) fun value mid _ => hq value mid

lemma collisionless_pure (value : α) : Collisionless (pure value : Pass α) :=
  fun _ => noCollision_ok value

lemma run_ofExcept (reply : Except Error α) (m : Memory) :
    (ofExcept reply).run Memory.answer m = (reply, m) := by
  cases reply <;> rfl

lemma collisionless_ensureNotCancelled : Collisionless ensureNotCancelled := by
  intro m
  rw [ensureNotCancelled, run_call, Memory.answer]
  cases m.cancelled with
  | false => exact noCollision_ok ()
  | true => exact noCollision_error (by decide)

lemma collisionless_announce (db : Postgres) (what : String) (outcome : Outcome) :
    Collisionless (announce db what outcome) := by
  unfold announce
  split
  · exact fun _ => noCollision_ok ()
  · exact collisionless_pure ()

lemma closed_collisionless : Closed Collisionless where
  of_pure := collisionless_pure
  bind := Collisionless.bind
  looked := collisionless_ensureNotCancelled
  told := collisionless_announce

lemma collisionless_createOrPatch (kind : Kind) (id : ObjectId)
    (change : kind.Object → kind.Object) : Collisionless (createOrPatch kind id change) := by
  refine closed_collisionless.createOrPatch (fun m => ?_) (fun object m => ?_) fun ops m => ?_
  · rw [get, run_call, run_ofExcept]
    exact noCollision_get m kind id
  · rw [create, run_call, run_ofExcept]
    exact noCollision_create m kind id.ns object
  · rw [patch, run_call, run_ofExcept]
    exact noCollision_patch m kind id ops

variable {db : Postgres} {version : PostgresVersion} {options : Options}

lemma collisionless_ensureServices (db : Postgres) : Collisionless (ensureServices db) :=
  closed_collisionless.ensureServices
    (fun id _ _ => collisionless_createOrPatch .service id _) db

lemma collisionless_awaitStatefulSet (set : StatefulSet) :
    Collisionless (awaitStatefulSet options set) := fun m => by
  rw [awaitStatefulSet, awaitPods, run_call, run_ofExcept]
  exact noCollision_awaitPods m _ _ _

/-! ### The refusal -/

lemma run_checkStatefulSet_of_foreign {m : Memory} (hfail : m.failure? .statefulSet = none)
    (h : Foreign m.objects db.setPart.id) : (checkStatefulSet db).run Memory.answer m =
      (.error (.namingCollision "StatefulSet" db.ns db.name), m) := by
  obtain ⟨doc, set, hget, hread, hnot⟩ := h
  rw [run_checkStatefulSet (get_of_some hfail hget hread),
    if_neg (ownsStatefulSet_iff.not.2 hnot)]

lemma noCollision_checkStatefulSet {m : Memory} (h : ¬ Foreign m.objects db.setPart.id) :
    NoCollision ((checkStatefulSet db).run Memory.answer m).1 := by
  have hget := noCollision_get m .statefulSet ⟨db.ns, db.name⟩
  cases hfound : m.get .statefulSet ⟨db.ns, db.name⟩ with
  | error error =>
    rw [hfound] at hget
    rw [checkStatefulSet_eq, run_call, Memory.answer, hfound]
    exact hget.of_error
  | ok found =>
    cases found with
    | none =>
      rw [checkStatefulSet_eq, run_call, Memory.answer, hfound]
      exact noCollision_ok ()
    | some set =>
      obtain ⟨doc, hdoc, hread⟩ := of_get_eq_some hfound
      have howned : set.BelongsTo db.name := by
        by_contra hnot
        exact h ⟨doc, set, hdoc, hread, hnot⟩
      rw [run_checkStatefulSet hfound, if_pos (ownsStatefulSet_iff.2 howned)]
      exact noCollision_ok ()

lemma run_ensureStatefulSet_of_foreign {m : Memory} (hcancelled : m.cancelled = false)
    (hfail : m.failure? .statefulSet = none) (h : Foreign m.objects db.setPart.id) :
    (ensureStatefulSet db version options).run Memory.answer m =
      (.error (.namingCollision "StatefulSet" db.ns db.name), m) := by
  refine run_bind_of_run (run_ensureNotCancelled hcancelled) ?_
  rw [run_bind, run_checkStatefulSet_of_foreign hfail h]

lemma noCollision_ensureStatefulSet {m : Memory} (h : ¬ Foreign m.objects db.setPart.id) :
    NoCollision ((ensureStatefulSet db version options).run Memory.answer m).1 := by
  rw [ensureStatefulSet_eq]
  refine noCollision_bind (collisionless_ensureNotCancelled m) fun _ mid hlooked => ?_
  obtain rfl : mid = m :=
    (congrArg Prod.snd hlooked).symm.trans (run_ensureNotCancelled_snd m)
  refine noCollision_bind (noCollision_bind (noCollision_checkStatefulSet h)
    fun _ mid _ => collisionless_createOrPatch _ _ _ mid) fun v mid _ => ?_
  exact closed_collisionless.afterSet v (collisionless_awaitStatefulSet v.1)
    (fun id => collisionless_createOrPatch _ id _) mid

/-- **A pass that has come to the stateful set** ends with a collision exactly where that is
foreign, and then it has done nothing to it. -/
lemma ends_colliding_iff {m mid : Memory} {outcome : Outcome}
    (h : (ensureServices db).run Memory.answer m = (.ok outcome, mid))
    (hcancelled : mid.cancelled = false) (hfail : mid.failure? .statefulSet = none) :
    (((reconcile db version options).run Memory.answer m).1 =
        .error (.namingCollision "StatefulSet" db.ns db.name) ↔
      Foreign mid.objects db.setPart.id) ∧
    (Foreign mid.objects db.setPart.id →
      (reconcile db version options).run Memory.answer m =
        (.error (.namingCollision "StatefulSet" db.ns db.name), mid)) := by
  rw [reconcile_eq, run_bind, h]
  have hrefused (hforeign : Foreign mid.objects db.setPart.id) :
      (ensureStatefulSet db version options).run Memory.answer mid =
        (.error (.namingCollision "StatefulSet" db.ns db.name), mid) :=
    run_ensureStatefulSet_of_foreign hcancelled hfail hforeign
  refine ⟨⟨fun hends => ?_, fun hforeign => congrArg Prod.fst (hrefused hforeign)⟩, hrefused⟩
  by_contra hnot
  exact noCollision_ensureStatefulSet hnot _ _ _ hends

lemma foreign_of_collision {m : Memory} {kind ns name : String} (htyped : Typed m.objects)
    (h : ((reconcile db version options).run Memory.answer m).1 =
      .error (.namingCollision kind ns name)) : Foreign m.objects db.setPart.id := by
  by_contra hnot
  rw [reconcile_eq] at h
  refine noCollision_bind (collisionless_ensureServices db m) (fun _ mid hservices => ?_) _ _ _ h
  have hframe : lookup mid.objects (setKey db) = lookup m.objects (setKey db) :=
    (carries_ensureServices db _ _ _ htyped hservices).lookup_eq db.setKey_not_mem_serviceSteps
  exact noCollision_ensureStatefulSet fun hforeign => hnot (hforeign.of_lookup_eq hframe.symm)

/-! ### The labels -/

/-- Where a pass ends in whatever way, it leaves objects of their kinds, and a stateful set that it
has written carries the labels of the instance. -/
def Labels (id : ObjectId) (p : Pass α) : Prop := ∀ m : Memory, Typed m.objects →
  Typed (p.run Memory.answer m).2.objects ∧
    (setKeyOf id ∈ written (p.trace Memory.answer m) →
      Owned (p.run Memory.answer m).2.objects id)

lemma lookup_eq_of_not_written (p : Pass α) {m : Memory} {key : ObjectKey}
    (h : key ∉ written (p.trace Memory.answer m)) :
    lookup (p.run Memory.answer m).2.objects key = lookup m.objects key :=
  (follows_stored (follows_run p m)).lookup_eq h

variable {id : ObjectId}

lemma Labels.bind (hp : Labels id p) (hq : ∀ value, Labels id (q value)) :
    Labels id (p >>= q) := by
  intro m htyped
  obtain ⟨hmid, howned⟩ := hp m htyped
  rw [trace_bind, run_bind]
  cases hrun : p.run Memory.answer m with
  | mk result mid =>
    rw [hrun] at hmid howned
    cases result with
    | error error =>
      refine ⟨hmid, fun h => howned ?_⟩
      rwa [List.append_nil] at h
    | ok value =>
      obtain ⟨hlast, hthen⟩ := hq value mid hmid
      refine ⟨hlast, fun h => ?_⟩
      rw [written_append] at h
      by_cases hlater : setKeyOf id ∈ written ((q value).trace Memory.answer mid)
      · exact hthen hlater
      · have hearlier := (List.mem_append.1 h).resolve_right hlater
        exact (howned hearlier).of_lookup_eq (lookup_eq_of_not_written _ hlater)

lemma labels_of_silent (h : WritesOnce Memory.answer (fun _ => False) p) : Labels id p := by
  intro m htyped
  have hnone (key : ObjectKey) : key ∉ written (p.trace Memory.answer m) := by
    rw [h.written_eq]
    exact List.not_mem_nil
  refine ⟨fun key doc hget => htyped key doc ?_, fun hwritten => absurd hwritten (hnone _)⟩
  rw [← hget, lookup_eq_of_not_written p (hnone key)]

lemma run_createOrPatch_cases {kind : Kind} (objectId : ObjectId)
    {change : kind.Object → kind.Object} (hchange : kind.Proper change) {m : Memory}
    (htyped : Typed m.objects) :
    (∃ error, (createOrPatch kind objectId change).run Memory.answer m = (.error error, m)) ∨
    ∃ object outcome after,
      (createOrPatch kind objectId change).run Memory.answer m = (.ok (object, outcome), after) ∧
      Effect kind objectId change m object outcome after := by
  cases hfail : m.failure? kind with
  | some error => exact .inl ⟨error, run_of_failure hfail⟩
  | none => exact .inr (exists_effect objectId hchange.identity htyped hfail)

lemma labels_createOrPatch {kind : Kind} {objectId : ObjectId}
    {change : kind.Object → kind.Object} (hchange : kind.Proper change)
    (howned : ∀ m object outcome after, Typed m.objects →
      Effect kind objectId change m object outcome after →
        setKeyOf id = ⟨kind, objectId.ns, objectId.name⟩ → Owned after.objects id) :
    Labels id (createOrPatch kind objectId change) := by
  intro m htyped
  rw [written_createOrPatch _ hchange.identity.name]
  rcases run_createOrPatch_cases objectId hchange htyped with
    ⟨error, hrun⟩ | ⟨object, outcome, after, hrun, heffect⟩
  · rw [hrun]
    exact ⟨htyped, fun h => absurd h List.not_mem_nil⟩
  · rw [hrun, outcomeKeys]
    refine ⟨heffect.typed htyped, fun h => ?_⟩
    split at h
    · exact howned m object outcome after htyped heffect (List.mem_singleton.1 h)
    · exact absurd h List.not_mem_nil

lemma labels_createOrPatch_of_ne {kind : Kind} {objectId : ObjectId}
    {change : kind.Object → kind.Object} (hchange : kind.Proper change)
    (hkind : kind ≠ .statefulSet) :
    Labels id (createOrPatch kind objectId change) :=
  labels_createOrPatch hchange fun _ _ _ _ _ _ hkey =>
    absurd (congrArg ObjectKey.kind hkey).symm hkind

lemma closed_labels : Closed (Labels id) where
  of_pure value := labels_of_silent (writesOnce_pure value)
  bind := Labels.bind
  looked := labels_of_silent writesOnce_ensureNotCancelled
  told db what outcome := labels_of_silent (writesOnce_announce db what outcome)

lemma owned_of_effect {m after : Memory} {set : StatefulSet} {outcome : Outcome}
    (htyped : Typed m.objects) (h : Effect .statefulSet db.setPart.id
      (db.statefulSet version options) m set outcome after) :
    Owned after.objects db.setPart.id := by
  obtain ⟨hobject, hmade⟩ := h.holds Postgres.proper_statefulSet htyped
  have hmarks : db.Marks (Kind.metadata .statefulSet set) :=
    .of_made hmade Postgres.marks_statefulSet
  exact ⟨_, set, hobject.stored, hobject.read, hmarks.kind, hmarks.name⟩

lemma labels_statefulSet : Labels db.setPart.id
    (createOrPatch .statefulSet ⟨db.ns, db.name⟩ (db.statefulSet version options)) :=
  labels_createOrPatch Postgres.proper_statefulSet fun _ _ _ _ htyped heffect _ =>
    owned_of_effect htyped heffect

/-- **A stateful set that a pass has written carries both labels**, whatever ends the pass. -/
theorem labels_reconcile (db : Postgres) (version : PostgresVersion) (options : Options) :
    Labels db.setPart.id (reconcile db version options) :=
  closed_labels.reconcile (fun _ _ h => labels_createOrPatch_of_ne h.proper nofun)
    (labels_of_silent writesOnce_checkStatefulSet) labels_statefulSet
    (fun set => labels_of_silent (writesOnce_awaitStatefulSet set))
    fun _ set => labels_createOrPatch_of_ne set.steady_disruptionBudget.proper nofun

lemma not_foreign_run (db : Postgres) (version : PostgresVersion) (options : Options) {m : Memory}
    (htyped : Typed m.objects) (h : ¬ Foreign m.objects db.setPart.id) :
    ¬ Foreign ((reconcile db version options).run Memory.answer m).2.objects db.setPart.id := by
  by_cases hwritten : setKey db ∈ written ((reconcile db version options).trace Memory.answer m)
  · exact ((labels_reconcile db version options m htyped).2 hwritten).not_foreign
  · exact fun hforeign => h (hforeign.of_lookup_eq (lookup_eq_of_not_written _ hwritten).symm)

/-! ### Many passes -/

abbrev Round.pass (round : Round Memory) : Pass Outcome :=
  reconcile round.db round.version round.options

/-- What the passes of some rounds leave behind. -/
def reached (rounds : List (Round Memory)) (m : Memory) : Memory :=
  rounds.foldl (fun m round => (round.pass.run Memory.answer (round.meanwhile m)).2) m

/-- The round is about the instance of this identity, and what happens before its pass leaves
objects of their kinds. -/
structure Round.About (round : Round Memory) (id : ObjectId) : Prop where
  id : round.db.setPart.id = id
  typed : ∀ m : Memory, Typed m.objects → Typed (round.meanwhile m).objects

lemma Round.About.typed_run {round : Round Memory} (h : round.About id) {m : Memory}
    (htyped : Typed m.objects) :
    Typed (round.pass.run Memory.answer (round.meanwhile m)).2.objects :=
  (labels_reconcile _ _ _ _ (h.typed m htyped)).1

lemma typed_reached {rounds : List (Round Memory)} (h : ∀ round ∈ rounds, round.About id)
    {m : Memory} (htyped : Typed m.objects) : Typed (reached rounds m).objects := by
  induction rounds generalizing m with
  | nil => exact htyped
  | cons round rest ih =>
    obtain ⟨hround, hrest⟩ := List.forall_mem_cons.1 h
    exact ih hrest (hround.typed_run htyped)

/-- **Where the stateful set becomes foreign**, it does so in one of the edits. -/
lemma exists_edit {rounds : List (Round Memory)} {last : Round Memory}
    (h : ∀ round ∈ rounds ++ [last], round.About id) {m : Memory} (htyped : Typed m.objects)
    (hfirst : ¬ Foreign m.objects id)
    (hlast : Foreign (last.meanwhile (reached rounds m)).objects id) :
    ∃ before edit after, rounds ++ [last] = before ++ edit :: after ∧
      Foreign (edit.meanwhile (reached before m)).objects id ∧
      (Owned (reached before m).objects id ∨
        lookup (reached before m).objects (setKeyOf id) = none) := by
  induction rounds generalizing m with
  | nil => exact ⟨[], last, [], rfl, hlast, htyped.owned_or_none hfirst⟩
  | cons round rest ih =>
    obtain ⟨hround, hrest⟩ := List.forall_mem_cons.1 h
    by_cases hforeign : Foreign (round.meanwhile m).objects id
    · exact ⟨[], round, rest ++ [last], rfl, hforeign, htyped.owned_or_none hfirst⟩
    · obtain rfl := hround.id
      have hthen := not_foreign_run round.db round.version round.options
        (hround.typed m htyped) hforeign
      obtain ⟨before, edit, after, heq, hedit⟩ := ih hrest (hround.typed_run htyped) hthen hlast
      exact ⟨round :: before, edit, after, congrArg (round :: ·) heq, hedit⟩

/-- **A foreign stateful set is refused, and an own one never is.** Whatever passes and edits there
have been, a pass that comes to the stateful set ends with a collision exactly where that lacks one
of the instance's labels, and leaves everything as it was by then. As long as the edits leave
objects of their kinds, a set that a pass has written carries both labels, whatever ends the pass.
So where a later pass is refused it, an edit in between has taken a label away from it, or has put
another one where there was none. -/
theorem history_collision {past : List (Round Memory)} {round : Round Memory}
    (hrounds : ∀ r ∈ past ++ [round], r.db.setPart.id = id) (m : Memory) :
    let start := round.meanwhile (reached past m)
    let collision := Except.error (.namingCollision "StatefulSet" id.ns id.name)
    (∀ outcome mid, (ensureServices round.db).run Memory.answer start = (.ok outcome, mid) →
      mid.cancelled = false → mid.failure? .statefulSet = none →
        ((round.pass.run Memory.answer start).1 = collision ↔ Foreign mid.objects id) ∧
        (Foreign mid.objects id → round.pass.run Memory.answer start = (collision, mid))) ∧
    (Typed m.objects →
      (∀ r ∈ past ++ [round], ∀ m : Memory, Typed m.objects → Typed (r.meanwhile m).objects) →
      (setKeyOf id ∈ written (round.pass.trace Memory.answer start) →
        Owned (round.pass.run Memory.answer start).2.objects id) ∧
      ((round.pass.run Memory.answer start).1 = collision →
        ∀ earlier writer later, past = earlier ++ writer :: later →
          setKeyOf id ∈ written (writer.pass.trace Memory.answer
            (writer.meanwhile (reached earlier m))) →
          ∃ before edit after, later ++ [round] = before ++ edit :: after ∧
            let between := reached (earlier ++ writer :: before) m
            Foreign (edit.meanwhile between).objects id ∧
              (Owned between.objects id ∨ lookup between.objects (setKeyOf id) = none))) := by
  obtain rfl := hrounds round (List.mem_append_right _ (List.mem_singleton_self round))
  intro start collision
  refine ⟨fun outcome mid => ends_colliding_iff, fun htyped hedits => ?_⟩
  have habout : ∀ r ∈ past ++ [round], r.About round.db.setPart.id :=
    fun r hr => ⟨hrounds r hr, hedits r hr⟩
  obtain ⟨hpast, hround⟩ := List.forall_mem_append.1 habout
  have hstart : Typed start.objects :=
    (List.forall_mem_singleton.1 hround).typed _ (typed_reached hpast htyped)
  refine ⟨(labels_reconcile _ _ _ start hstart).2, ?_⟩
  rintro hcollision earlier writer later rfl hwritten
  obtain ⟨hearlier, hthen⟩ := List.forall_mem_append.1 hpast
  obtain ⟨hwriter, hlater⟩ := List.forall_mem_cons.1 hthen
  have hbefore : Typed (writer.meanwhile (reached earlier m)).objects :=
    hwriter.typed _ (typed_reached hearlier htyped)
  obtain ⟨hafter, howned⟩ := labels_reconcile writer.db writer.version writer.options _ hbefore
  rw [hwriter.id] at howned
  -- Between the pass that wrote the stateful set and the collision it becomes foreign in an edit.
  have hsplit (rounds : List (Round Memory)) : reached (earlier ++ writer :: rounds) m =
      reached rounds (writer.pass.run Memory.answer (writer.meanwhile (reached earlier m))).2 :=
    List.foldl_append
  have hforeign : Foreign (round.meanwhile (reached (earlier ++ writer :: later) m)).objects
    round.db.setPart.id := foreign_of_collision hstart hcollision
  rw [hsplit] at hforeign
  obtain ⟨before, edit, after, heq, hedit⟩ := exists_edit
    (List.forall_mem_append.2 ⟨hlater, hround⟩) hafter (howned hwritten).not_foreign hforeign
  refine ⟨before, edit, after, heq, ?_⟩
  rw [hsplit]
  exact hedit

/-- A stateful set of the name of `migrated` without labels. -/
def stranger : StatefulSet := { metadata := { name := some "db", ns := some "demo" } }

/-- A pass over `migrated`. -/
def plain : Round Memory := ⟨migrated, {}, {}, fun m => m⟩

/-- A pass over `migrated`, before which somebody puts the stranger in the place of its stateful
set. -/
def replaced : Round Memory := ⟨migrated, {}, {}, fun m => m.insert .statefulSet stranger⟩

/-- The second pass is refused and leaves everything as it was; the stranger has come in an edit. -/
theorem history_collision_replaced :
    (∃ outcome mid, (ensureServices migrated).run answer
        (replaced.meanwhile (reached [plain] {})) = (.ok outcome, mid) ∧
      Foreign mid.objects migrated.setPart.id ∧
      replaced.pass.run answer (replaced.meanwhile (reached [plain] {})) =
        (.error (.namingCollision "StatefulSet" "demo" "db"), mid)) ∧
    ∃ before edit after, [replaced] = before ++ edit :: after ∧
      let between := reached (plain :: before) {}
      Foreign (edit.meanwhile between).objects migrated.setPart.id ∧
        (Owned between.objects migrated.setPart.id ∨
          lookup between.objects (setKeyOf migrated.setPart.id) = none) := by
  have hevaluated : let start := replaced.meanwhile (reached [plain] {})
      let services := (ensureServices migrated).run answer start
      services.1 = .ok .unchanged ∧ services.2.cancelled = false ∧ services.2.failures = [] ∧
      (replaced.pass.run answer start).1 =
        .error (.namingCollision "StatefulSet" "demo" "db") ∧
      setKeyOf migrated.setPart.id ∈
        written (plain.pass.trace answer (plain.meanwhile (reached [] {}))) := by decide +kernel
  obtain ⟨hservices, hcancelled, hfailures, hcollision, hwritten⟩ := hevaluated
  have hrounds : ∀ round ∈ [plain] ++ [replaced], round.db.setPart.id = migrated.setPart.id :=
    List.forall_mem_cons.2 ⟨rfl, List.forall_mem_singleton.2 rfl⟩
  have htyped : ∀ round ∈ [plain] ++ [replaced], ∀ m : Memory, Typed m.objects →
      Typed (round.meanwhile m).objects :=
    List.forall_mem_cons.2 ⟨fun _ h => h,
      List.forall_mem_singleton.2 fun _ h => h.insert .statefulSet stranger⟩
  obtain ⟨hends, hthen⟩ := history_collision hrounds {}
  obtain ⟨-, hedits⟩ := hthen typed_nil htyped
  have hrun := run_of_fst hservices
  obtain ⟨hiff, hrefused⟩ := hends _ _ hrun hcancelled (failure?_of_nil hfailures _)
  have hforeign := hiff.1 hcollision
  exact ⟨⟨_, _, hrun, hforeign, hrefused hforeign⟩,
    hedits hcollision [] plain [] rfl hwritten⟩

end Pass

end PgOperator
