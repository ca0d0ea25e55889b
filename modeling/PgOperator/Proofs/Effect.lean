import Mathlib.Tactic.Lemma
import PgOperator.Proofs.Interleaving

/-!
What becomes of the stored object.

Where no call is made to fail, bringing an object to its state has one of three effects, which
follows from what is stored: a missing object is created, an object that is written as before is
left alone, and any other one is replaced by what the change makes of it, under the next resource
version (`Pass.createOrPatch_stores`).
-/

namespace PgOperator

open Memory

namespace Memory

/-- The number that a document's resource version spells, or zero. -/
def number (doc : Json) : Nat := ((resourceVersion doc).text?.bind version?).getD 0

/-- What bringing an object to the state of a change gives and leaves behind. -/
inductive Effect (kind : Kind) (id : ObjectId) (change : kind.Object → kind.Object) (m : Memory) :
    kind.Object → Outcome → Memory → Prop where
  | created (hget : lookup m.objects ⟨kind, id.ns, id.name⟩ = none) :
      Effect kind id change m (kind.created (change (kind.blank id)) id.ns m.uids) .created
        { m with
          objects := store ⟨kind, id.ns, id.name⟩
            (Record.encode (kind.created (change (kind.blank id)) id.ns m.uids)) m.objects
          uids := m.uids + 1
          creates := m.creates + 1 }
  | unchanged {doc : Json} {current : kind.Object}
      (hget : lookup m.objects ⟨kind, id.ns, id.name⟩ = some doc)
      (hread : Record.decode doc = some current) (hsame : Record.encode (change current) = doc) :
      Effect kind id change m current .unchanged m
  | patched {doc : Json} {current patched : kind.Object}
      (hget : lookup m.objects ⟨kind, id.ns, id.name⟩ = some doc)
      (hread : Record.decode doc = some current) (hne : Record.encode (change current) ≠ doc)
      (hpatched : Record.decode (withVersion (Record.encode (change current))
        (toString (number doc + 1))) = some patched) :
      Effect kind id change m patched .patched
        { m with
          objects := store ⟨kind, id.ns, id.name⟩
            (withVersion (Record.encode (change current)) (toString (number doc + 1))) m.objects
          patches := m.patches + 1 }

namespace Effect

variable {kind : Kind} {id : ObjectId} {change : kind.Object → kind.Object} {m after : Memory}
  {object : kind.Object} {outcome : Outcome}

lemma created_iff (h : Effect kind id change m object outcome after) :
    outcome = .created ↔ lookup m.objects ⟨kind, id.ns, id.name⟩ = none := by
  cases h with
  | created hget => exact iff_of_true rfl hget
  | unchanged hget | patched hget => exact iff_of_false nofun (by rw [hget]; exact nofun)

lemma unchanged_iff (h : Effect kind id change m object outcome after) :
    outcome = .unchanged ↔ ∃ doc current, lookup m.objects ⟨kind, id.ns, id.name⟩ = some doc ∧
      Record.decode doc = some current ∧ Record.encode (change current) = doc := by
  cases h with
  | created hget =>
    refine iff_of_false nofun ?_
    rintro ⟨doc, current, hdoc, -⟩
    exact absurd (hget.symm.trans hdoc) nofun
  | unchanged hget hread hsame => exact iff_of_true rfl ⟨_, _, hget, hread, hsame⟩
  | patched hget hread hne =>
    refine iff_of_false nofun ?_
    rintro ⟨doc, current, hdoc, hcurrent, hsame⟩
    obtain rfl := Option.some.inj (hget.symm.trans hdoc)
    obtain rfl := Option.some.inj (hread.symm.trans hcurrent)
    exact hne hsame

lemma number_of_patched (h : Effect kind id change m object .patched after)
    (hnumber : ∀ doc, lookup m.objects ⟨kind, id.ns, id.name⟩ = some doc →
      number doc + 1 < UInt64.size) :
    ∃ doc doc', lookup m.objects ⟨kind, id.ns, id.name⟩ = some doc ∧
      lookup after.objects ⟨kind, id.ns, id.name⟩ = some doc' ∧ number doc' = number doc + 1 := by
  cases h with
  | @patched doc current _ hget =>
    refine ⟨doc, _, hget, lookup_store_self _ _ _, ?_⟩
    rw [number, resourceVersion_withVersion]
    exact congrArg (Option.getD · 0) (version?_toString (hnumber doc hget))

lemma typed (h : Effect kind id change m object outcome after) (htyped : Typed m.objects) :
    Typed after.objects := by
  cases h with
  | created => exact htyped.store _ _ _
  | unchanged => exact htyped
  | patched =>
    rw [withVersion_encode]
    exact htyped.store _ _ _

end Effect

end Memory

lemma diffPatch_eq_nil_iff {kind : Kind} {current modified : kind.Object} :
    diffPatch current modified = [] ↔ Record.encode modified = Record.encode current := by
  constructor
  · intro hnil
    have hleads := leads_diffPatch current modified
    rw [hnil, Json.Leads.nil_iff] at hleads
    exact hleads.symm
  · intro hsame
    have hdiff := Json.diff_self (Record.ordered_encode current)
    simp only [diffPatch, hsame, hdiff]

namespace Pass

variable {kind : Kind} {id : ObjectId} {change : kind.Object → kind.Object} {m : Memory}

/-- What a client does with an object that it has read: a change that is the same to the eye of
either test ends the pass. -/
lemma afterRead_of_same {current : kind.Object}
    (h : Record.encode (change current) = Record.encode current) :
    afterRead kind id change (.ok (some current)) = .done (current, .unchanged) := by
  by_cases hsame : change current = current
  · simp only [afterRead, if_pos hsame]
  · simp only [afterRead, if_neg hsame, diffPatch_eq_nil_iff.2 h]

lemma afterRead_of_ne {current : kind.Object}
    (h : Record.encode (change current) ≠ Record.encode current) :
    afterRead kind id change (.ok (some current)) =
      .call (.patch kind id (diffPatch current (change current))) fun reply =>
        (ofExcept reply).bind fun patched => .done (patched, .patched) := by
  have hsame : change current ≠ current := fun heq => h (congrArg Record.encode heq)
  obtain ⟨op, ops, hops⟩ := List.exists_cons_of_ne_nil fun hnil => h (diffPatch_eq_nil_iff.1 hnil)
  rw [hops]
  simp only [afterRead, if_neg hsame, hops]

lemma run_of_failure {error : Error} (hfail : m.failure? kind = some error) :
    (createOrPatch kind id change).run answer m = (.error error, m) := by
  have hget : m.get kind id = .error error := by simp only [Memory.get, hfail]
  rw [createOrPatch_eq, run_call, answer, hget]
  rfl

/-- Where no call fails, the pass ends with one of the three effects. -/
lemma exists_effect (id : ObjectId) (hchange : KeepsIdentity change) (htyped : Typed m.objects)
    (hfail : m.failure? kind = none) : ∃ object outcome after,
      (createOrPatch kind id change).run answer m = (.ok (object, outcome), after) ∧
      Effect kind id change m object outcome after := by
  rw [createOrPatch_eq, run_call, answer]
  cases hget : lookup m.objects ⟨kind, id.ns, id.name⟩ with
  | none =>
    have hname : (kind.metadata (change (kind.blank id))).name.getD "" = id.name := by
      rw [hchange.name, Kind.metadata_blank]
      rfl
    have hcreate := create_of_none hfail (hname.symm ▸ hget)
    rw [hname] at hcreate
    refine ⟨_, _, _, ?_, .created hget⟩
    rw [get_of_none hfail hget, afterRead, run_call, answer, hcreate]
    rfl
  | some doc =>
    obtain ⟨current, hread, -, rfl⟩ := htyped.exists_read hget
    rw [get_of_some hfail hget hread]
    -- The pass compares the objects and then their patch; both tests come down to what is written.
    by_cases hsame : Record.encode (change current) = Record.encode current
    · rw [afterRead_of_same hsame]
      exact ⟨_, _, _, rfl, .unchanged hget hread hsame⟩
    · have hpatch := patch_of_encode hfail hget (hchange.version current)
      have hnext : versionAfter (kind.metadata current).resourceVersion =
          toString (number (Record.encode current) + 1) := by
        rw [versionAfter, ← resourceVersion_encode]
        rfl
      rw [hnext, ← withVersion_encode] at hpatch
      have hreread := Record.decode_encode kind.wellNamed
        (kind.withVersion (change current) (toString (number (Record.encode current) + 1)))
      rw [← withVersion_encode] at hreread
      refine ⟨_, _, _, ?_, .patched hget hread hsame hreread⟩
      rw [afterRead_of_ne hsame, run_call, answer, hpatch]
      rfl

lemma effect_of_run (hchange : KeepsIdentity change) (htyped : Typed m.objects)
    {object : kind.Object} {outcome : Outcome} {after : Memory}
    (h : (createOrPatch kind id change).run answer m = (.ok (object, outcome), after)) :
    Effect kind id change m object outcome after := by
  cases hfail : m.failure? kind with
  | none =>
    obtain ⟨_, _, _, hrun, heffect⟩ := exists_effect id hchange htyped hfail
    obtain ⟨hvalue, rfl⟩ := Prod.mk.inj (hrun.symm.trans h)
    obtain ⟨rfl, rfl⟩ := Prod.mk.inj (Except.ok.inj hvalue)
    exact heffect
  | some error =>
    rw [run_of_failure hfail] at h
    exact absurd (Prod.mk.inj h).1 nofun

/-- **What is stored is what the change made**: bringing an object to its state creates it if and
only if it is missing, leaves it alone if and only if the change is written as the object is, and
otherwise stores what the change makes of it under the number after its resource version. The
operations that are sent turn the one written object into the other. -/
theorem createOrPatch_stores (id : ObjectId) (hchange : KeepsIdentity change) (m : Memory)
    (htyped : Typed m.objects) (hfailures : m.failures = [])
    (hnumber : ∀ doc, lookup m.objects ⟨kind, id.ns, id.name⟩ = some doc →
      number doc + 1 < UInt64.size) :
    (∃ object outcome after,
      (createOrPatch kind id change).run answer m = (.ok (object, outcome), after) ∧
      Effect kind id change m object outcome after ∧
      (outcome = .created ↔ lookup m.objects ⟨kind, id.ns, id.name⟩ = none) ∧
      (outcome = .unchanged ↔ ∃ doc current, lookup m.objects ⟨kind, id.ns, id.name⟩ = some doc ∧
        Record.decode doc = some current ∧ Record.encode (change current) = doc) ∧
      (outcome = .patched → ∃ doc doc', lookup m.objects ⟨kind, id.ns, id.name⟩ = some doc ∧
        lookup after.objects ⟨kind, id.ns, id.name⟩ = some doc' ∧
        number doc' = number doc + 1)) ∧
    ∀ current modified : kind.Object,
      (diffPatch current modified).apply (Record.encode current) = .ok (Record.encode modified) ∧
      ∀ op ∈ diffPatch current modified, Json.Pointer.ofText? op.path.text = some op.path := by
  constructor
  · obtain ⟨object, outcome, after, hrun, heffect⟩ :=
      exists_effect id hchange htyped (failure?_of_nil hfailures kind)
    refine ⟨object, outcome, after, hrun, heffect, heffect.created_iff, heffect.unchanged_iff, ?_⟩
    rintro rfl
    exact heffect.number_of_patched hnumber
  · intro current modified
    exact ⟨Json.apply_eq_ok_iff.2 (leads_diffPatch current modified),
      fun op _ => op.path.ofText?_text⟩

/-- A service that has been written seven times. -/
def seventh : Kind.service.Object :=
  Kube.Service.mk { name := some "db", ns := some "demo", resourceVersion := some "7" } none none

lemma number_seventh : number (Record.encode seventh) = 7 := by
  rw [number, resourceVersion_encode]
  decide

/-- The service is given a specification, and so it is stored as the eighth version. -/
theorem createOrPatch_stores_eighth :
    let key : ObjectKey := ⟨.service, "demo", "db"⟩
    let change (live : Kind.service.Object) : Kind.service.Object :=
      Kube.Service.mk live.metadata (some {}) live.status
    let m : Memory := { objects := [(key, Record.encode seventh)] }
    ∃ object after, (createOrPatch .service ⟨"demo", "db"⟩ change).run answer m =
        (.ok (object, .patched), after) ∧
      ∃ doc, lookup after.objects key = some doc ∧ number doc = 8 := by
  intro key change m
  have hget : lookup m.objects key = some (Record.encode seventh) := rfl
  have hwhole : Record.Whole seventh := rfl
  have hread := Record.decode_encode_of_whole Kind.service.wellNamed hwhole
  have hnumber : ∀ doc, lookup m.objects key = some doc → number doc + 1 < UInt64.size := by
    intro doc hdoc
    obtain rfl := Option.some.inj (hget.symm.trans hdoc)
    rw [number_seventh]
    decide
  have hchange : KeepsIdentity change := ⟨fun _ => rfl, fun _ => rfl, fun _ => rfl⟩
  obtain ⟨⟨object, outcome, after, hrun, -, hcreated, hunchanged, hpatched⟩, -⟩ :=
    createOrPatch_stores ⟨"demo", "db"⟩ hchange m (typed_nil.store "demo" "db" seventh) rfl hnumber
  cases outcome with
  | created => exact absurd (hget.symm.trans (hcreated.1 rfl)) nofun
  | unchanged =>
    obtain ⟨doc, current, hdoc, hcurrent, hsame⟩ := hunchanged.1 rfl
    obtain rfl := Option.some.inj (hget.symm.trans hdoc)
    obtain rfl := Option.some.inj (hread.symm.trans hcurrent)
    have heq := Record.eq_of_encode_eq Kind.service.wellNamed (a := change seventh) rfl hwhole hsame
    exact absurd (congrArg Kube.Service.spec heq) nofun
  | patched =>
    obtain ⟨doc, doc', hdoc, hdoc', hnext⟩ := hpatched rfl
    obtain rfl := Option.some.inj (hget.symm.trans hdoc)
    exact ⟨object, after, hrun, doc', hdoc', hnext.trans (congrArg (· + 1) number_seventh)⟩

end Pass

end PgOperator
