import Mathlib.Tactic.Lemma
import PgOperator.Proofs.Effect
import PgOperator.Proofs.Refusal

/-!
Objects that are brought to their states one after the other.

A pass looks after a list of objects and tells of the changes of most of them. `Carried` says what
a run over such a list does, step by step. Where each step has a key of its own, all that the run
has done can be read off the objects before and after it: what is stored (`Carried.holds`), what
has been written (`Carried.written_eq`) and what has been told (`Carried.notices_eq`).
-/

namespace PgOperator

open Kube Memory

namespace Memory

/-! ### Objects that are stored -/

/-- Under the key of the identity stands the object, in its written form. -/
structure Contains (objects : List (ObjectKey × Json)) (kind : Kind) (id : ObjectId)
    (object : kind.Object) : Prop where
  stored : lookup objects ⟨kind, id.ns, id.name⟩ = some (Record.encode object)
  whole : Record.Whole object

variable {objects others : List (ObjectKey × Json)} {kind : Kind} {id : ObjectId}

lemma Contains.read {object : kind.Object} (h : Contains objects kind id object) :
    Record.decode (Record.encode object) = some object :=
  Record.decode_encode_of_whole kind.wellNamed h.whole

lemma Contains.unique {object other : kind.Object} (h : Contains objects kind id object)
    (hother : Contains objects kind id other) : object = other :=
  Record.eq_of_encode_eq kind.wellNamed h.whole hother.whole
    (Option.some.inj (h.stored.symm.trans hother.stored))

lemma Contains.of_lookup_eq {object : kind.Object} (h : Contains objects kind id object)
    (heq : lookup others ⟨kind, id.ns, id.name⟩ = lookup objects ⟨kind, id.ns, id.name⟩) :
    Contains others kind id object := ⟨heq.trans h.stored, h.whole⟩

lemma Typed.exists_contains (h : Typed objects) {doc : Json}
    (hget : lookup objects ⟨kind, id.ns, id.name⟩ = some doc) :
    ∃ object, Contains objects kind id object ∧ Record.encode object = doc := by
  obtain ⟨object, -, hwhole, rfl⟩ := h.exists_read hget
  exact ⟨object, ⟨hget, hwhole⟩, rfl⟩

/-! ### What has become of an object -/

/-- What has become of the object under a key since before. -/
def became (before after : List (ObjectKey × Json)) (key : ObjectKey) : Outcome :=
  if lookup after key = lookup before key then .unchanged
  else if lookup before key = none then .created
  else .patched

lemma became_congr {before after before' after' : List (ObjectKey × Json)} {key : ObjectKey}
    (hbefore : lookup before' key = lookup before key)
    (hafter : lookup after' key = lookup after key) :
    became before' after' key = became before after key := by
  rw [became, became, hbefore, hafter]

lemma isChanged_became_iff {before after : List (ObjectKey × Json)} {key : ObjectKey} :
    (became before after key).isChanged ↔ lookup after key ≠ lookup before key := by
  unfold became
  split
  · simpa [Outcome.isChanged]
  · split <;> simpa [Outcome.isChanged]

lemma version?_lt {text : String} {n : Nat} (h : version? text = some n) : n < UInt64.size := by
  unfold version? at h
  extract_lets digits value at h
  split at h
  · exact absurd h nofun
  · split at h
    · rename_i hlt
      exact Option.some.inj h ▸ hlt
    · exact absurd h nofun

lemma number_lt (doc : Json) : number doc < UInt64.size := by
  unfold number
  cases h : (resourceVersion doc).text?.bind version? with
  | none => exact (by decide : 0 < UInt64.size)
  | some n =>
    obtain ⟨text, -, hn⟩ := Option.bind_eq_some_iff.1 h
    exact version?_lt hn

lemma getD_version?_succ {n : Nat} (h : n < UInt64.size) :
    (version? (toString (n + 1))).getD 0 = (n + 1) % UInt64.size := by
  rcases Nat.lt_or_eq_of_le (Nat.succ_le_of_lt h) with hlt | heq
  · rw [version?_toString hlt, Option.getD_some, Nat.mod_eq_of_lt hlt]
  · rw [show n + 1 = UInt64.size from heq, Nat.mod_self]
    decide +kernel

lemma resourceVersion_ne_next (doc : Json) :
    resourceVersion doc ≠ .str (toString (number doc + 1)) := by
  intro h
  have hnumber : number doc = (version? (toString (number doc + 1))).getD 0 :=
    congrArg (fun version : Json => (version.text?.bind version?).getD 0) h
  have hlt := number_lt doc
  rw [getD_version?_succ hlt] at hnumber
  unfold UInt64.size at *
  omega

end Memory

/-! ### Changes that an object comes from -/

namespace Kind

/-- A change that leaves alone what identifies an object, and keeps it whole. -/
structure Proper (kind : Kind) (change : kind.Object → kind.Object) : Prop where
  identity : KeepsIdentity change
  whole : ∀ {object}, Record.Whole object → Record.Whole (change object)

/-- The object is what the change makes of some object, but for what the server sets. -/
def Made (kind : Kind) (change : kind.Object → kind.Object) (object : kind.Object) : Prop :=
  ∃ live ns uid version, object = kind.stamp (change live) ns uid version

variable {kind : Kind} {change : kind.Object → kind.Object} {object : kind.Object}

lemma stamp_self (object : kind.Object) : kind.stamp object (kind.metadata object).ns
    (kind.metadata object).uid (kind.metadata object).resourceVersion = object := by
  cases kind <;> rfl

lemma Steady.proper (h : Steady kind change) : Proper kind change where
  identity := by
    refine ⟨h.name, fun object => ?_, h.version⟩
    have hstamp := h.stamp object (kind.metadata object).ns (kind.metadata object).uid
      (kind.metadata object).resourceVersion
    rw [stamp_self] at hstamp
    rw [hstamp, Kind.stamp, metadata_withMetadata]
  whole := h.whole

lemma Proper.patched_eq (h : Proper kind change) {live patched : kind.Object} {version : String}
    (hwhole : Record.Whole live) (hpatched : Record.decode
      (Memory.withVersion (Record.encode (change live)) version) = some patched) :
    patched = kind.withVersion (change live) version ∧ Record.Whole patched := by
  have hchanged := whole_stamp (h.whole hwhole) (kind.metadata (change live)).ns
    (kind.metadata (change live)).uid (some version)
  rw [← withVersion_eq_stamp] at hchanged
  rw [withVersion_encode, Record.decode_encode_of_whole kind.wellNamed hchanged] at hpatched
  obtain rfl := Option.some.inj hpatched
  exact ⟨rfl, hchanged⟩

/-- A change that may be made again leaves alone what comes from it. -/
lemma Made.same (h : Made kind change object) (hsteady : Steady kind change) :
    change object = object := by
  obtain ⟨live, ns, uid, version, rfl⟩ := h
  exact hsteady.change_stamp (hsteady.again live) ns uid version

end Kind

namespace Memory.Effect

variable {kind : Kind} {id : ObjectId} {change : kind.Object → kind.Object} {m after : Memory}
  {object : kind.Object} {outcome : Outcome}

lemma holds (h : Effect kind id change m object outcome after) (hchange : kind.Proper change)
    (htyped : Typed m.objects) :
    Contains after.objects kind id object ∧ kind.Made change object := by
  cases h with
  | created hget =>
    refine ⟨⟨lookup_store_self _ _ _, ?_⟩, _, _, _, _, rfl⟩
    exact Kind.whole_stamp (hchange.whole (Kind.whole_blank kind id)) _ _ _
  | @unchanged doc current hget hread hsame =>
    obtain ⟨live, hlive, rfl⟩ := htyped.exists_contains hget
    obtain rfl : live = object := Option.some.inj (hlive.read.symm.trans hread)
    have heq := Record.eq_of_encode_eq kind.wellNamed (hchange.whole hlive.whole) hlive.whole hsame
    refine ⟨hlive, live, (kind.metadata live).ns, (kind.metadata live).uid,
      (kind.metadata live).resourceVersion, ?_⟩
    rw [heq, Kind.stamp_self]
  | @patched doc current patched hget hread hne hpatched =>
    obtain ⟨live, hlive, rfl⟩ := htyped.exists_contains hget
    obtain rfl := Option.some.inj (hlive.read.symm.trans hread)
    obtain ⟨rfl, hwhole⟩ := hchange.patched_eq hlive.whole hpatched
    refine ⟨⟨?_, hwhole⟩, live, _, _, _, Kind.withVersion_eq_stamp _ _⟩
    rw [← withVersion_encode]
    exact lookup_store_self _ _ _

lemma key_of (h : Effect kind id change m object outcome after) (hchange : kind.Proper change)
    (htyped : Typed m.objects) :
    (∃ live, Contains m.objects kind id live ∧ ObjectKey.of kind object = ObjectKey.of kind live) ∨
      ObjectKey.of kind object = ⟨kind, id.ns, id.name⟩ := by
  cases h with
  | created hget =>
    refine .inr ?_
    rw [ObjectKey.of, Kind.created, Kind.metadata_withMetadata, hchange.identity.name,
      Kind.metadata_blank]
    rfl
  | unchanged hget hread =>
    obtain ⟨live, hlive, rfl⟩ := htyped.exists_contains hget
    obtain rfl : live = object := Option.some.inj (hlive.read.symm.trans hread)
    exact .inl ⟨live, hlive, rfl⟩
  | @patched doc current patched hget hread hne hpatched =>
    obtain ⟨live, hlive, rfl⟩ := htyped.exists_contains hget
    obtain rfl := Option.some.inj (hlive.read.symm.trans hread)
    obtain ⟨rfl, -⟩ := hchange.patched_eq hlive.whole hpatched
    refine .inl ⟨live, hlive, ?_⟩
    simp only [ObjectKey.of, Kind.withVersion, Kind.metadata_withMetadata,
      ObjectMeta.anyNamespace, hchange.identity.name, hchange.identity.ns]

lemma lookup_eq (h : Effect kind id change m object outcome after) {key : ObjectKey}
    (hkey : key ≠ ⟨kind, id.ns, id.name⟩) : lookup after.objects key = lookup m.objects key := by
  cases h with
  | created | patched => exact lookup_store_of_ne hkey _ _
  | unchanged => rfl

lemma notices_eq (h : Effect kind id change m object outcome after) :
    after.notices = m.notices := by
  cases h <;> rfl

lemma became_eq (h : Effect kind id change m object outcome after) {key : ObjectKey}
    (hkey : key ≠ ⟨kind, id.ns, id.name⟩) (last : List (ObjectKey × Json)) :
    became m.objects last key = became after.objects last key :=
  became_congr (h.lookup_eq hkey).symm rfl

lemma outcome_eq (h : Effect kind id change m object outcome after) :
    outcome = became m.objects after.objects ⟨kind, id.ns, id.name⟩ := by
  cases h with
  | created hget => simp [became, hget, lookup_store_self]
  | unchanged => simp [became]
  | @patched doc current _ hget =>
    have hne : withVersion (Record.encode (change current)) (toString (number doc + 1)) ≠ doc := by
      intro heq
      have hversion := resourceVersion_withVersion (change current) (toString (number doc + 1))
      rw [heq] at hversion
      exact resourceVersion_ne_next doc hversion
    rw [became, lookup_store_self, hget, if_neg (fun heq => hne (Option.some.inj heq)),
      if_neg nofun]

end Memory.Effect

/-! ### Steps -/

/-- An object that a pass looks after, and what events call it, if they tell of it. -/
structure Part where
  kind : Kind
  id : ObjectId
  title : Option String

namespace Part

def key (part : Part) : ObjectKey := ⟨part.kind, part.id.ns, part.id.name⟩

/-- What is told where an outcome is reached. -/
def notices (part : Part) (outcome : Outcome) : List Notice :=
  match part.title with
  | some title =>
    if outcome.isChanged then
      [⟨.normal, "Successful", "Successfully " ++ outcome.text ++ " " ++ title⟩]
    else []
  | none => []

end Part

/-- The control plane with more events. -/
def Memory.told (m : Memory) (notices : List Notice) : Memory :=
  { m with notices := m.notices ++ notices }

lemma Part.told_of_not_changed (part : Part) {outcome : Outcome} (h : ¬ outcome.isChanged)
    (m : Memory) : m.told (part.notices outcome) = m := by
  have hnone : part.notices outcome = [] := by
    unfold notices
    split
    · exact if_neg h
    · rfl
  rw [hnone, Memory.told, List.append_nil]

lemma Part.told_nil (part : Part) (h : part.title = none) (outcome : Outcome) (m : Memory) :
    m.told (part.notices outcome) = m := by
  rw [notices, h]
  exact congrArg (fun notices => { m with notices }) (List.append_nil _)

/-- An object that is brought to the state that a change gives it. -/
structure Step extends Part where
  change : kind.Object → kind.Object

/-- Steps are carried out one after the other: each one has its effect and is told of. The keys are
those of the objects that are written. -/
inductive Carried : List Step → Memory → List ObjectKey → Memory → Prop where
  | nil (m : Memory) : Carried [] m [] m
  | cons {step : Step} {rest : List Step} {m mid last : Memory} {object : step.kind.Object}
      {outcome : Outcome} {keys : List ObjectKey}
      (heffect : Effect step.kind step.id step.change m object outcome mid)
      (hrest : Carried rest (mid.told (step.notices outcome)) keys last) :
      Carried (step :: rest) m ((if outcome.isChanged then [step.key] else []) ++ keys) last

namespace Carried

variable {steps others : List Step} {m mid last : Memory} {keys more : List ObjectKey}

lemma append (h : Carried steps m keys mid) (hothers : Carried others mid more last) :
    Carried (steps ++ others) m (keys ++ more) last := by
  induction h with
  | nil => exact hothers
  | cons heffect _ ih =>
    rw [List.append_assoc]
    exact .cons heffect (ih hothers)

lemma typed (h : Carried steps m keys last) (htyped : Typed m.objects) : Typed last.objects := by
  induction h with
  | nil => exact htyped
  | cons heffect _ ih => exact ih (heffect.typed htyped)

lemma lookup_eq (h : Carried steps m keys last) {key : ObjectKey}
    (hkey : key ∉ steps.map fun step => step.key) :
    lookup last.objects key = lookup m.objects key := by
  induction h with
  | nil => rfl
  | cons heffect _ ih =>
    obtain ⟨hne, hrest⟩ := not_or.1 (List.mem_cons.not.1 hkey)
    exact (ih hrest).trans (heffect.lookup_eq hne)

lemma became_eq {step : Step} {object : step.kind.Object} {outcome : Outcome}
    {notices : List Notice}
    (heffect : Effect step.kind step.id step.change m object outcome mid)
    (hrest : Carried steps (mid.told notices) keys last)
    (hkey : step.key ∉ steps.map fun step => step.key) :
    became m.objects last.objects step.key = outcome :=
  (became_congr rfl (hrest.lookup_eq hkey)).trans heffect.outcome_eq.symm

/-- **What is stored in the end** under the key of a step is what its change makes. -/
theorem holds (h : Carried steps m keys last) (htyped : Typed m.objects)
    (hchange : ∀ step ∈ steps, step.kind.Proper step.change)
    (hkeys : (steps.map fun step => step.key).Nodup) :
    ∀ step ∈ steps, ∃ object, Contains last.objects step.kind step.id object ∧
      step.kind.Made step.change object := by
  induction h with
  | nil => exact nofun
  | @cons step rest m mid last object outcome keys heffect hrest ih =>
    obtain ⟨hfirst, hothers⟩ := List.forall_mem_cons.1 hchange
    obtain ⟨hhead, htail⟩ := List.nodup_cons.1 hkeys
    refine List.forall_mem_cons.2 ⟨?_, ih (heffect.typed htyped) hothers htail⟩
    obtain ⟨hholds, hmade⟩ := heffect.holds hfirst htyped
    exact ⟨object, hholds.of_lookup_eq (hrest.lookup_eq hhead), hmade⟩

/-- **What has been written** is what has become another. -/
theorem written_eq (h : Carried steps m keys last)
    (hkeys : (steps.map fun step => step.key).Nodup) :
    keys = (steps.map fun step => step.key).filter fun key =>
      (became m.objects last.objects key).isChanged := by
  induction h with
  | nil => rfl
  | @cons step rest m mid last object outcome keys heffect hrest ih =>
    obtain ⟨hhead, htail⟩ := List.nodup_cons.1 hkeys
    rw [List.map_cons, List.filter_cons, became_eq heffect hrest hhead, ih htail,
      List.filter_congr fun key hkey => congrArg Outcome.isChanged
        (heffect.became_eq (ne_of_mem_of_not_mem hkey hhead) _)]
    cases outcome.isChanged <;> rfl

/-- **What has been told** is what has become of each object. -/
theorem notices_eq (h : Carried steps m keys last)
    (hkeys : (steps.map fun step => step.key).Nodup) :
    last.notices = m.notices ++ steps.flatMap fun step =>
      step.notices (became m.objects last.objects step.key) := by
  induction h with
  | nil m => exact (List.append_nil _).symm
  | @cons step rest m mid last object outcome keys heffect hrest ih =>
    obtain ⟨hhead, htail⟩ := List.nodup_cons.1 hkeys
    rw [List.flatMap_cons, became_eq heffect hrest hhead, ← List.append_assoc,
      ← heffect.notices_eq, List.flatMap_congr fun other hother => congrArg other.notices
        (heffect.became_eq (ne_of_mem_of_not_mem (List.mem_map_of_mem hother) hhead) _)]
    exact ih htail

end Carried

/-! ### Passes that carry out steps -/

namespace Pass

variable {σ α β : Type} {answer : (c : Call) → σ → c.Reply × σ}

lemma Ended.trace_eq {p : Pass α} (h : p.Ended) (s : σ) : p.trace answer s = [] := by
  rcases h with ⟨value, rfl⟩ | ⟨error, rfl⟩ <;> rfl

lemma WritesOnce.written_eq {p : Pass α} (h : WritesOnce answer (fun _ => False) p) (s : σ) :
    written (p.trace answer s) = [] :=
  List.eq_nil_iff_forall_not_mem.2 (h _ _ _ _ (follows_run p s)).2

lemma written_bind {p : Pass α} {value : α} {s mid : σ} (h : p.run answer s = (.ok value, mid))
    (q : α → Pass β) : written ((p >>= q).trace answer s) =
      written (p.trace answer s) ++ written ((q value).trace answer mid) := by
  rw [trace_bind, h, written_append]

/-- The keys that are written where a pass over one object ends in a way. -/
def outcomeKeys (key : ObjectKey) : Except Error (α × Outcome) → List ObjectKey
  | .ok (_, outcome) => if outcome.isChanged then [key] else []
  | .error _ => []

lemma written_last {c : Call} {next : c.Reply → Pass α} (h : ∀ reply, (next reply).Ended) (s : σ) :
    written ((Pass.call c next).trace answer s) = (c.written? (answer c s).1).toList := by
  rw [trace, (h _).trace_eq, written_singleton]
  rfl

variable {kind : Kind} {change : kind.Object → kind.Object}

lemma written_afterRead (id : ObjectId)
    (hname : ∀ object, (kind.metadata (change object)).name = (kind.metadata object).name)
    (reply : Except Error (Option kind.Object)) (s : σ) :
    written ((afterRead kind id change reply).trace answer s) =
      outcomeKeys ⟨kind, id.ns, id.name⟩ ((afterRead kind id change reply).run answer s).1 := by
  -- A read that fails or finds nothing to do writes nothing; a creation and a patch write the key.
  rcases reply with error | _ | current
  · rfl
  · simp only [afterRead]
    have hended (reply : Except Error kind.Object) :=
      ended_bind_ofExcept reply fun created => (created, Outcome.created)
    rw [written_last hended, run_call]
    cases (answer (.create kind id.ns (change (kind.blank id))) s).1 with
    | error error => rfl
    | ok created =>
      rw [Call.written?, hname, Kind.metadata_blank]
      rfl
  · simp only [afterRead]
    split
    · rfl
    · cases diffPatch current (change current) with
      | nil => rfl
      | cons op ops =>
        simp only
        have hended (reply : Except Error kind.Object) :=
          ended_bind_ofExcept reply fun patched => (patched, Outcome.patched)
        rw [written_last hended, run_call]
        cases (answer (.patch kind id (op :: ops)) s).1 <;> rfl

lemma written_createOrPatch (id : ObjectId)
    (hname : ∀ object, (kind.metadata (change object)).name = (kind.metadata object).name) (s : σ) :
    written ((createOrPatch kind id change).trace answer s) =
      outcomeKeys ⟨kind, id.ns, id.name⟩ ((createOrPatch kind id change).run answer s).1 := by
  rw [createOrPatch_eq]
  refine .trans ?_ (written_afterRead id hname _ _)
  rfl

lemma carried_step (step : Step) {settle : step.kind.Object × Outcome → Pass Unit}
    {f : step.kind.Object × Outcome → β} (hchange : step.kind.Proper step.change)
    (hsettle : ∀ v m last, (settle v).run Memory.answer m = (.ok (), last) →
      last = m.told (step.notices v.2))
    (hsilent : ∀ v, WritesOnce Memory.answer (fun _ => False) (settle v)) {m last : Memory} {w : β}
    (htyped : Typed m.objects)
    (h : (createOrPatch step.kind step.id step.change >>= fun v =>
      settle v >>= fun _ => pure (f v)).run Memory.answer m = (.ok w, last)) :
    ∃ object outcome mid, w = f (object, outcome) ∧
      Effect step.kind step.id step.change m object outcome mid ∧
      last = mid.told (step.notices outcome) ∧
      Carried [step] m (written ((createOrPatch step.kind step.id step.change >>= fun v =>
        settle v >>= fun _ => pure (f v)).trace Memory.answer m)) last := by
  obtain ⟨⟨object, outcome⟩, mid, hobject, hrest⟩ := of_run_bind h
  obtain ⟨⟨⟩, end', hsettled, hpure⟩ := of_run_bind hrest
  obtain ⟨hw, rfl⟩ := Prod.mk.inj hpure
  obtain rfl := hsettle _ _ _ hsettled
  have heffect := effect_of_run hchange.identity htyped hobject
  refine ⟨object, outcome, mid, (Except.ok.inj hw).symm, heffect, rfl, ?_⟩
  -- What follows the write tells of it and writes nothing itself.
  have hwritten : written ((createOrPatch step.kind step.id step.change >>= fun v =>
      settle v >>= fun _ => pure (f v)).trace Memory.answer m) =
        (if outcome.isChanged then [step.key] else []) ++ [] := by
    rw [written_bind hobject, written_createOrPatch _ hchange.identity.name, hobject,
      written_bind hsettled, (hsilent _).written_eq]
    rfl
  rw [hwritten]
  exact .cons heffect (.nil _)

/-- Where a run of the pass ends well, it has carried out the steps. -/
def Carries (steps : List Step) (p : Pass α) : Prop :=
  ∀ m value last, Typed m.objects → p.run Memory.answer m = (.ok value, last) →
    Carried steps m (written (p.trace Memory.answer m)) last

variable {steps others : List Step} {p : Pass α} {q : α → Pass β}

lemma Carries.first (hp : Carries steps p) {m last : Memory} {w : β} (htyped : Typed m.objects)
    (h : (p >>= q).run Memory.answer m = (.ok w, last)) :
    ∃ value mid, p.run Memory.answer m = (.ok value, mid) ∧
      (q value).run Memory.answer mid = (.ok w, last) ∧ Typed mid.objects ∧
      Carried steps m (written (p.trace Memory.answer m)) mid ∧
      ∀ others, Carried others mid (written ((q value).trace Memory.answer mid)) last →
        Carried (steps ++ others) m (written ((p >>= q).trace Memory.answer m)) last := by
  obtain ⟨value, mid, hfirst, hrest⟩ := of_run_bind h
  have hcarried := hp m value mid htyped hfirst
  refine ⟨value, mid, hfirst, hrest, hcarried.typed htyped, hcarried, fun others hothers => ?_⟩
  rw [written_bind hfirst]
  exact hcarried.append hothers

lemma Carries.bind (hp : Carries steps p) (hq : ∀ value, Carries others (q value)) :
    Carries (steps ++ others) (p >>= q) := by
  intro m w last htyped h
  obtain ⟨value, mid, -, hrest, hmid, -, happend⟩ := hp.first htyped h
  exact happend others (hq value mid w last hmid hrest)

lemma carries_nil (hsame : ∀ m, (p.run Memory.answer m).2 = m)
    (hsilent : WritesOnce Memory.answer (fun _ => False) p) : Carries [] p := by
  intro m value last htyped h
  have hlast : last = m := (congrArg Prod.snd h).symm.trans (hsame m)
  rw [hsilent.written_eq, hlast]
  exact .nil m

lemma carries_pure (value : α) : Carries [] (pure value : Pass α) :=
  carries_nil (fun _ => rfl) (writesOnce_pure value)

lemma run_ensureNotCancelled {m : Memory} (h : m.cancelled = false) :
    ensureNotCancelled.run Memory.answer m = (.ok (), m) := by
  rw [ensureNotCancelled, run_call, Memory.answer, h]
  rfl

lemma run_ensureNotCancelled_snd (m : Memory) :
    (ensureNotCancelled.run Memory.answer m).2 = m := by
  rw [ensureNotCancelled, run_call, Memory.answer]
  cases m.cancelled <;> rfl

lemma carries_ensureNotCancelled : Carries [] ensureNotCancelled :=
  carries_nil run_ensureNotCancelled_snd writesOnce_ensureNotCancelled

lemma run_announce_told (db : Postgres) {part : Part} {title : String}
    (htitle : part.title = some title) (outcome : Outcome) (m : Memory) :
    (announce db title outcome).run Memory.answer m = (.ok (), m.told (part.notices outcome)) := by
  by_cases h : outcome.isChanged
  · rw [announce, if_pos h, Part.notices, htitle]
    simp only [if_pos h]
    rfl
  · rw [announce, if_neg h, part.told_of_not_changed h]
    rfl

end Pass

end PgOperator
