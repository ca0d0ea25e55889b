import Mathlib.Tactic.Lemma
import PgOperator.Proofs.Store

/-!
Several clients that bring one object to their states at the same time.

A `Pool` is a control plane with clients, each of them somewhere within `createOrPatch`; a step
answers the next call of one client, so a run may interleave the calls in any order. Resource
versions only grow. A client that has read an object therefore finds it as it was read, or finds
a greater version, and then its patch is refused: `Stage` is this invariant, from which it follows
that no step loses what another client has written.
-/

namespace PgOperator

open Memory

/-- Clients of one control plane that are each about to bring the same object to a state. -/
structure Pool (kind : Kind) where
  memory : Memory
  clients : List (Pass (kind.Object × Outcome))

namespace Pool

variable {kind : Kind}

/-- Clients with the given changes, before their first calls. -/
def start (id : ObjectId) (changes : List (kind.Object → kind.Object)) (m : Memory) :
    Pool kind where
  memory := m
  clients := changes.map (Pass.createOrPatch kind id)

/-- The next call of a client is answered; one that has ended makes no call. -/
def step (i : Nat) (pool : Pool kind) : Pool kind :=
  match pool.clients[i]? with
  | some (.call c next) =>
    { memory := (answer c pool.memory).2
      clients := pool.clients.set i (next (answer c pool.memory).1) }
  | _ => pool

end Pool

/-- Every stored object has a number below `2 ^ 64 - 1` as its resource version. -/
def Memory.Numbered (objects : List (ObjectKey × Json)) : Prop :=
  ∀ key doc, lookup objects key = some doc →
    ∃ text n, resourceVersion doc = .str text ∧ version? text = some n ∧ n + 1 < UInt64.size

/-- The states that clients reach by steps in any order, as long as versions are numbers. -/
inductive Pool.Reachable {kind : Kind} (first : Pool kind) : Pool kind → Prop where
  | start : Reachable first first
  | step {pool : Pool kind} (h : Reachable first pool) (hnum : Numbered pool.memory.objects)
      (i : Nat) : Reachable first (pool.step i)

/-- The change leaves name, namespace and resource version alone. -/
structure KeepsIdentity {kind : Kind} (change : kind.Object → kind.Object) : Prop where
  name : ∀ object, (kind.metadata (change object)).name = (kind.metadata object).name
  ns : ∀ object, (kind.metadata (change object)).ns = (kind.metadata object).ns
  version : ∀ object,
    (kind.metadata (change object)).resourceVersion = (kind.metadata object).resourceVersion

/-- What a call of a client may do: a creation stores the changed blank object where nothing is
stored, a patch stores the client's change of the very object that is stored, under the next
version, and any other call leaves the memory as it is. -/
inductive Lossless (kind : Kind) (id : ObjectId) (change : kind.Object → kind.Object) (m : Memory) :
    (c : Call) → c.Reply → Memory → Prop where
  | read (reply : Except Error (Option kind.Object)) :
      Lossless kind id change m (.get kind id) reply m
  | created (hget : lookup m.objects ⟨kind, id.ns, id.name⟩ = none) :
      Lossless kind id change m (.create kind id.ns (change (kind.blank id)))
        (.ok (kind.created (change (kind.blank id)) id.ns m.uids))
        { m with
          objects := store ⟨kind, id.ns, id.name⟩
            (Record.encode (kind.created (change (kind.blank id)) id.ns m.uids)) m.objects
          uids := m.uids + 1
          creates := m.creates + 1 }
  | patched {ops : Json.Patch} {doc : Json} {current stored : kind.Object}
      (hget : lookup m.objects ⟨kind, id.ns, id.name⟩ = some doc)
      (hread : Record.decode doc = some current)
      (hstored : Record.decode (withVersion (Record.encode (change current))
        (nextVersion (resourceVersion doc))) = some stored) :
      Lossless kind id change m (.patch kind id ops) (.ok stored)
        { m with
          objects := store ⟨kind, id.ns, id.name⟩ (withVersion (Record.encode (change current))
            (nextVersion (resourceVersion doc))) m.objects
          patches := m.patches + 1 }
  | notCreated (object : kind.Object) (error : Error) :
      Lossless kind id change m (.create kind id.ns object) (.error error) m
  | notPatched (ops : Json.Patch) (error : Error) :
      Lossless kind id change m (.patch kind id ops) (.error error) m

/-! ### What a client that has read an object may find -/

/-- Under the key stands the object as it was read with version `n`, or one of a later version. -/
def AsReadOrLater {kind : Kind} (id : ObjectId) (current : kind.Object) (n : Nat)
    (objects : List (ObjectKey × Json)) : Prop :=
  ∃ doc, lookup objects ⟨kind, id.ns, id.name⟩ = some doc ∧
    (doc = Record.encode current ∨
      ∃ text later, resourceVersion doc = .str text ∧ version? text = some later ∧ n < later)

/-- How far a client may be. -/
inductive Stage (kind : Kind) (id : ObjectId) (change : kind.Object → kind.Object)
    (objects : List (ObjectKey × Json)) : Pass (kind.Object × Outcome) → Prop where
  | reading : Stage kind id change objects (Pass.createOrPatch kind id change)
  | creating {next : Except Error kind.Object → Pass (kind.Object × Outcome)}
      (hnext : ∀ reply, (next reply).Ended) :
      Stage kind id change objects (.call (.create kind id.ns (change (kind.blank id))) next)
  | patching {current : kind.Object} {text : String} {n : Nat}
      {next : Except Error kind.Object → Pass (kind.Object × Outcome)}
      (hread : Record.decode (Record.encode current) = some current)
      (hversion : (kind.metadata current).resourceVersion = some text)
      (hn : version? text = some n) (hfound : AsReadOrLater id current n objects)
      (hne : diffPatch current (change current) ≠ []) (hnext : ∀ reply, (next reply).Ended) :
      Stage kind id change objects
        (.call (.patch kind id (diffPatch current (change current))) next)
  | ended {p : Pass (kind.Object × Outcome)} (h : p.Ended) : Stage kind id change objects p

variable {kind : Kind} {id : ObjectId} {change other : kind.Object → kind.Object}

lemma versionDoc_eq_str {version : Option String} {text : String}
    (h : versionDoc version = .str text) : version = some text := by
  cases version with
  | none => exact absurd h nofun
  | some version => rw [Json.str.inj h]

lemma version?_nextVersion {text : String} {n : Nat} (hn : version? text = some n)
    (hlt : n + 1 < UInt64.size) : version? (nextVersion (.str text)) = some (n + 1) := by
  have hnext : nextVersion (.str text) = toString (n + 1) := by
    simp [nextVersion, Json.text?, hn]
  rw [hnext, version?_toString hlt]

lemma resourceVersion_withVersion (object : kind.Object) (version : String) :
    resourceVersion (withVersion (Record.encode object) version) = .str version := by
  rw [withVersion_encode, resourceVersion_encode, Kind.withVersion, Kind.metadata_withMetadata]
  rfl

lemma exists_part_of_resourceVersion {doc : Json} {text : String}
    (h : resourceVersion doc = .str text) :
    ∃ members part, doc = .obj members ∧ Sorted.get? "metadata" members = some (.obj part) ∧
      Sorted.get? "resourceVersion" part = some (.str text) := by
  rw [resourceVersion, Json.getD, Json.getD] at h
  cases doc with
  | obj members =>
    cases hpart : (Json.obj members).get? "metadata" with
    | none => rw [hpart] at h; cases h
    | some part =>
      rw [hpart, Option.getD_some] at h
      cases part with
      | obj part =>
        cases hold : (Json.obj part).get? "resourceVersion" with
        | none => rw [hold] at h; cases h
        | some old =>
          rw [hold] at h
          exact ⟨members, part, rfl, hpart, hold.trans (congrArg some h)⟩
      | _ => cases h
  | _ => cases h

lemma withVersion_obj {members part : List (String × Json)}
    (hpart : Sorted.get? "metadata" members = some (.obj part)) (version : String) :
    withVersion (.obj members) version = .obj (Sorted.insert "metadata"
      (.obj (Sorted.insert "resourceVersion" (.str version) part)) members) := by
  rw [withVersion, Json.getD, Json.get?, hpart]
  rfl

lemma resourceVersion_withVersion_of_str {doc : Json} {text : String}
    (h : resourceVersion doc = .str text) (version : String) :
    resourceVersion (withVersion doc version) = .str version := by
  obtain ⟨members, part, rfl, hpart, -⟩ := exists_part_of_resourceVersion h
  simp [withVersion_obj hpart, resourceVersion, Json.getD, Json.get?, Sorted.get?_insert_self]

lemma AsReadOrLater.stored {objects : List (ObjectKey × Json)} (hnum : Numbered objects)
    {current : kind.Object} {text : String} {n : Nat}
    (hversion : (kind.metadata current).resourceVersion = some text) (hn : version? text = some n)
    (h : AsReadOrLater id current n objects) {before after : Json}
    (hget : lookup objects ⟨kind, id.ns, id.name⟩ = some before)
    (hafter : resourceVersion after = .str (nextVersion (resourceVersion before))) :
    AsReadOrLater id current n (store ⟨kind, id.ns, id.name⟩ after objects) := by
  obtain ⟨doc, hdoc, hfound⟩ := h
  obtain rfl := Option.some.inj (hget.symm.trans hdoc)
  obtain ⟨old, k, hold, hk, hlt⟩ := hnum _ _ hget
  -- What was stored has the version that was read or a later one, so the next is later.
  have hle : n ≤ k := by
    rcases hfound with rfl | ⟨text', later, htext, hlater, hnlt⟩
    · rw [resourceVersion_encode, hversion] at hold
      obtain rfl : text = old := Json.str.inj hold
      obtain rfl := Option.some.inj (hn.symm.trans hk)
      exact Nat.le_refl _
    · obtain rfl := Json.str.inj (htext.symm.trans hold)
      obtain rfl := Option.some.inj (hlater.symm.trans hk)
      exact Nat.le_of_lt hnlt
  rw [hold] at hafter
  exact ⟨after, lookup_store_self _ _ _,
    .inr ⟨_, k + 1, hafter, version?_nextVersion hk hlt, by omega⟩⟩

lemma AsReadOrLater.of_lossless {m after : Memory} {c : Call} {reply : c.Reply}
    (hnum : Numbered m.objects) (hcall : Lossless kind id other m c reply after)
    {current : kind.Object} {text : String} {n : Nat}
    (hversion : (kind.metadata current).resourceVersion = some text) (hn : version? text = some n)
    (h : AsReadOrLater id current n m.objects) : AsReadOrLater id current n after.objects := by
  cases hcall with
  | read | notCreated | notPatched => exact h
  | created hget =>
    obtain ⟨doc, hdoc, -⟩ := h
    exact absurd (hget.symm.trans hdoc) nofun
  | patched hget => exact h.stored hnum hversion hn hget (resourceVersion_withVersion _ _)

lemma AsReadOrLater.of_answer {m : Memory} (hnum : Numbered m.objects) {current : kind.Object}
    {text : String} {n : Nat} (hversion : (kind.metadata current).resourceVersion = some text)
    (hn : version? text = some n) (h : AsReadOrLater id current n m.objects) (c : Call) :
    AsReadOrLater id current n (answer c m).2.objects := by
  have hframe (key : ObjectKey) (doc : Json) (hkey : ⟨kind, id.ns, id.name⟩ ≠ key) :
      AsReadOrLater id current n (store key doc m.objects) := by
    obtain ⟨found, hfound, hrest⟩ := h
    exact ⟨found, (lookup_store_of_ne hkey doc _).trans hfound, hrest⟩
  -- Under its own key the object gets a later version, and under another key it is not touched.
  cases c with
  | get | awaitPods | isCancelled | emit => exact h
  | create kind' ns object =>
    rcases create_cases m kind' ns object with ⟨error, hcreate⟩ | ⟨hnone, hcreate⟩
    · rw [answer, hcreate]
      exact h
    · rw [answer, hcreate]
      refine hframe _ _ fun heq => ?_
      obtain ⟨doc, hdoc, -⟩ := h
      rw [heq, hnone] at hdoc
      cases hdoc
  | patch kind' id' ops =>
    rcases patch_cases m kind' id' ops with ⟨error, hpatch⟩ |
      ⟨before, patched, stored, hget, -, hsame, -, hpatch⟩
    · rw [answer, hpatch]
      exact h
    · rw [answer, hpatch]
      by_cases hkey : (⟨kind, id.ns, id.name⟩ : ObjectKey) = ⟨kind', id'.ns, id'.name⟩
      · rw [← hkey] at hget ⊢
        obtain ⟨old, k, hold, -⟩ := hnum _ _ hget
        exact h.stored hnum hversion hn hget
          (resourceVersion_withVersion_of_str (hsame.trans hold) _)
      · exact hframe _ _ hkey

/-- **The pin**: a patch of a change is taken only where the object still is as it was read. -/
lemma AsReadOrLater.of_patched {m after : Memory} {current stored : kind.Object} {text : String}
    {n : Nat} (hversion : (kind.metadata current).resourceVersion = some text)
    (hn : version? text = some n) (h : AsReadOrLater id current n m.objects)
    (hkeeps : (kind.metadata (change current)).resourceVersion =
      (kind.metadata current).resourceVersion)
    (hne : diffPatch current (change current) ≠ [])
    (hpatch : m.patch kind id (diffPatch current (change current)) = (.ok stored, after)) :
    lookup m.objects ⟨kind, id.ns, id.name⟩ = some (Record.encode current) := by
  rcases patch_cases m kind id (diffPatch current (change current)) with ⟨error, hrefused⟩ |
    ⟨doc, patched, object, hget, hleads, hsame, -, -⟩
  · rw [hrefused] at hpatch
    exact absurd (Prod.mk.inj hpatch).1 nofun
  · -- The patch sets the version that was read, so what is stored still has it.
    have hset := resourceVersion_leads hversion (hkeeps.trans hversion) hne hleads
    obtain ⟨found, hlookup, hfound⟩ := h
    obtain rfl := Option.some.inj (hlookup.symm.trans hget)
    rcases hfound with rfl | ⟨text', later, htext', hlater, hlt⟩
    · exact hlookup
    · have htext : text' = text := Json.str.inj (htext'.symm.trans (hsame.symm.trans hset))
      rw [htext, hn] at hlater
      exact absurd hlt (by rw [Option.some.inj hlater]; omega)

lemma Stage.of_lossless {m after : Memory} {c : Call} {reply : c.Reply}
    (hnum : Numbered m.objects) (hcall : Lossless kind id other m c reply after)
    {p : Pass (kind.Object × Outcome)} (h : Stage kind id change m.objects p) :
    Stage kind id change after.objects p := by
  cases h with
  | reading => exact .reading
  | creating hnext => exact .creating hnext
  | patching hread hversion hn hfound hne hnext =>
    exact .patching hread hversion hn (hfound.of_lossless hnum hcall hversion hn) hne hnext
  | ended h => exact .ended h

/-! ### The calls of a client -/

lemma Stage.afterRead {m : Memory} (htyped : Typed m.objects) (hnum : Numbered m.objects) :
    Stage kind id change m.objects (Pass.afterRead kind id change (m.get kind id)) := by
  cases hget : m.get kind id with
  | error error => exact .ended (.inr ⟨error, rfl⟩)
  | ok found =>
    cases found with
    | none => exact .creating fun reply => Pass.ended_bind_ofExcept reply _
    | some current =>
      obtain ⟨doc, hdoc, hread⟩ := of_get_eq_some hget
      obtain ⟨object, hobject, -, rfl⟩ := htyped.exists_read hdoc
      obtain rfl := Option.some.inj (hobject.symm.trans hread)
      obtain ⟨text, n, htext, hn, -⟩ := hnum _ _ hdoc
      rw [resourceVersion_encode] at htext
      simp only [Pass.afterRead]
      split
      · exact .ended (.inl ⟨_, rfl⟩)
      · split
        · exact .ended (.inl ⟨_, rfl⟩)
        · rename_i op ops hops
          rw [← hops]
          exact .patching hread (versionDoc_eq_str htext) hn ⟨_, hdoc, .inl rfl⟩ (by simp [hops])
            fun reply => Pass.ended_bind_ofExcept reply _

/-- A step of one client: its call loses nothing, and the client is at a further stage. -/
lemma Stage.call {m : Memory} (htyped : Typed m.objects) (hnum : Numbered m.objects)
    (hchange : KeepsIdentity change) {c : Call} {next : c.Reply → Pass (kind.Object × Outcome)}
    (h : Stage kind id change m.objects (.call c next)) :
    Lossless kind id change m c (answer c m).1 (answer c m).2 ∧
      Stage kind id change (answer c m).2.objects (next (answer c m).1) := by
  generalize hp : Pass.call c next = p at h
  cases h with
  | reading =>
    rw [Pass.createOrPatch_eq] at hp
    cases hp
    exact ⟨.read _, Stage.afterRead htyped hnum⟩
  | creating hnext =>
    cases hp
    have hname : (kind.metadata (change (kind.blank id))).name.getD "" = id.name := by
      rw [hchange.name, Kind.metadata_blank]
      rfl
    rcases create_cases m kind id.ns (change (kind.blank id)) with
      ⟨error, hcreate⟩ | ⟨hget, hcreate⟩
    · rw [answer, hcreate]
      exact ⟨.notCreated _ _, .ended (hnext _)⟩
    · rw [hname] at hget hcreate
      rw [answer, hcreate]
      exact ⟨.created hget, .ended (hnext _)⟩
  | @patching current text n _ hread hversion hn hfound hne hnext =>
    cases hp
    rcases patch_cases m kind id (diffPatch current (change current)) with ⟨error, hpatch⟩ |
      ⟨doc, patched, stored, hget, hleads, hsame, hstored, hpatch⟩
    · rw [answer, hpatch]
      exact ⟨.notPatched _ _, .ended (hnext _)⟩
    -- The patch was taken, so that what is stored still is what the client has read.
    · have hcurrent := hfound.of_patched hversion hn (hchange.version current) hne hpatch
      obtain rfl := Option.some.inj (hget.symm.trans hcurrent)
      have hpatched : patched = Record.encode (change current) :=
        Option.some.inj (hleads.symm.trans (leads_diffPatch current (change current)))
      rw [hpatched] at hstored hpatch
      rw [answer, hpatch]
      exact ⟨.patched hget hread hstored, .ended (hnext _)⟩
  | ended h =>
    rcases h with ⟨value, h⟩ | ⟨error, h⟩ <;> exact absurd (hp.trans h) nofun

/-! ### Runs -/

lemma Lossless.typed {m after : Memory} {c : Call} {reply : c.Reply} (h : Typed m.objects)
    (hcall : Lossless kind id change m c reply after) : Typed after.objects := by
  cases hcall with
  | read | notCreated | notPatched => exact h
  | created => exact h.store _ _ _
  | patched =>
    rw [withVersion_encode]
    exact h.store _ _ _

namespace Pool

/-- Every document is an object of its kind, and every client is at a stage of its own change. -/
structure Sound (id : ObjectId) (changes : List (kind.Object → kind.Object)) (pool : Pool kind) :
    Prop where
  typed : Typed pool.memory.objects
  staged : ∀ (i : Nat) p, pool.clients[i]? = some p →
    ∃ change, changes[i]? = some change ∧ Stage kind id change pool.memory.objects p

variable {changes : List (kind.Object → kind.Object)} {m : Memory} {pool : Pool kind}

lemma Sound.start (htyped : Typed m.objects) : Sound id changes (Pool.start id changes m) := by
  refine ⟨htyped, fun i p hp => ?_⟩
  rw [Pool.start, List.getElem?_map] at hp
  obtain ⟨change, hchange, rfl⟩ := Option.map_eq_some_iff.1 hp
  exact ⟨change, hchange, .reading⟩

lemma Sound.step (hchanges : ∀ change ∈ changes, KeepsIdentity change)
    (hnum : Numbered pool.memory.objects)
    (h : Sound id changes pool) (i : Nat) : Sound id changes (pool.step i) := by
  unfold Pool.step
  split
  · rename_i c next hp
    obtain ⟨change, hchange, hstage⟩ := h.staged i _ hp
    obtain ⟨hcall, hthen⟩ := hstage.call h.typed hnum (hchanges _ (List.mem_of_getElem? hchange))
    refine ⟨Lossless.typed h.typed hcall, fun j p hj => ?_⟩
    by_cases hij : i = j
    · subst hij
      rw [List.getElem?_set_self (List.getElem?_eq_some_iff.1 hp).1] at hj
      obtain rfl := Option.some.inj hj
      exact ⟨change, hchange, hthen⟩
    · rw [List.getElem?_set_ne hij] at hj
      obtain ⟨own, hown, hstage⟩ := h.staged j p hj
      exact ⟨own, hown, hstage.of_lossless hnum hcall⟩
  · exact h

lemma Reachable.sound (htyped : Typed m.objects)
    (hchanges : ∀ change ∈ changes, KeepsIdentity change)
    (h : Reachable (Pool.start id changes m) pool) : Sound id changes pool := by
  induction h with
  | start => exact .start htyped
  | step _ hnum i ih => exact ih.step hchanges hnum i

/-- **No lost update**: in whatever order clients make their calls on one object, each call that
writes stores a creation where nothing was stored, or the client's own change of the very object
that was stored before, and every other call leaves the control plane as it was. -/
theorem lossless (htyped : Typed m.objects) (hchanges : ∀ change ∈ changes, KeepsIdentity change)
    (hreach : Reachable (Pool.start id changes m) pool) (hnum : Numbered pool.memory.objects)
    {i : Nat} {c : Call} {next : c.Reply → Pass (kind.Object × Outcome)}
    (hclient : pool.clients[i]? = some (.call c next)) :
    ∃ change, changes[i]? = some change ∧
      Lossless kind id change pool.memory c (answer c pool.memory).1 (answer c pool.memory).2 := by
  obtain ⟨change, hchange, hstage⟩ := (hreach.sound htyped hchanges).staged i _ hclient
  have hkeeps := hchanges _ (List.mem_of_getElem? hchange)
  exact ⟨change, hchange, (hstage.call (hreach.sound htyped hchanges).typed hnum hkeeps).1⟩

/-- Two changes of a service: none, and an empty specification. -/
def twoChanges : List (Kind.service.Object → Kind.service.Object) :=
  [fun live => live, fun live => Kube.Service.mk live.metadata (some {}) live.status]

/-- Two clients of an empty control plane that have both read that there is no service yet. -/
def bothMissed : Pool .service := ((start ⟨"demo", "db"⟩ twoChanges {}).step 0).step 1

/-- The second client is about to create the service. -/
def secondCall : Call :=
  .create .service "demo" (Kube.Service.mk { name := some "db", ns := some "demo" } (some {}) none)

theorem lossless_bothMissed :
    ∃ change, twoChanges[1]? = some change ∧
      Lossless .service ⟨"demo", "db"⟩ change bothMissed.memory secondCall
        (answer secondCall bothMissed.memory).1 (answer secondCall bothMissed.memory).2 := by
  have hnum : Numbered [] := fun _ _ h => absurd h nofun
  have hfirst : Reachable (start ⟨"demo", "db"⟩ twoChanges {})
    ((start ⟨"demo", "db"⟩ twoChanges {}).step 0) := .step .start hnum 0
  have hread : Reachable (start ⟨"demo", "db"⟩ twoChanges {}) bothMissed := .step hfirst hnum 1
  have hkeeps : ∀ change ∈ twoChanges, KeepsIdentity change := by
    intro change hchange
    simp only [twoChanges, List.mem_cons, List.not_mem_nil, or_false] at hchange
    rcases hchange with rfl | rfl <;> exact ⟨fun _ => rfl, fun _ => rfl, fun _ => rfl⟩
  have hclient : ∃ next, bothMissed.clients[1]? = some (.call secondCall next) := ⟨_, rfl⟩
  obtain ⟨next, hnext⟩ := hclient
  exact lossless typed_nil hkeeps hread hnum hnext

end Pool

end PgOperator
