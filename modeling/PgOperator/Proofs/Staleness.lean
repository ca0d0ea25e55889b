import Mathlib.Tactic.Lemma
import PgOperator.Proofs.Applicability
import PgOperator.Proofs.RoundTrip
import PgOperator.Proofs.Steps

/-!
Patches that come too late.

A client has read an object, others have patches of it committed, and only then the client sends
the patch of its own change. Every commit counts the resource version up
(`Committed.exists_stored`), so the patch, which sets the version that was read, is refused. But its
operations are carried out before the versions are compared: it is refused as a conflict, to be
tried again, where the stored document still has a place for each part of the change, and as
invalid, which is not tried again, where it has not (`stale_patch_refused_iff`).
-/

namespace PgOperator

open Memory Kube

/-! ### The version in what was read -/

section Reading

variable {name text : String} {checked : Bool} {presence : Presence} {shape : Shape} {rest : Fields}
  {members : List (String × Json)}

lemma Fields.decode_const {value : rest.Val}
    (h : (Fields.const name text checked rest).decode members = some value) :
    rest.decode members = some value := by
  simp only [Fields.decode, Option.ite_none_left_eq_some] at h
  exact h.2

lemma Fields.decode_field {value : (Fields.field name presence shape rest).Val}
    (h : (Fields.field name presence shape rest).decode members = some value) :
    presence.decode shape.decode shape.zero (Sorted.get? name members) = some value.1 ∧
      rest.decode members = some value.2 := by
  simp only [Fields.decode, Option.pure_def, Option.bind_eq_bind, Option.bind_eq_some_iff] at h
  obtain ⟨first, hfirst, others, hothers, ⟨⟩⟩ := h
  exact ⟨hfirst, hothers⟩

end Reading

lemma Record.exists_members {α : Type} [Record α] {doc : Json} {value : α}
    (hform : (Record.heading α).form ≠ .exact) (hread : Record.decode doc = some value) :
    ∃ members, doc = .obj members ∧
      (Record.fields α).decode members = some (Record.toVal value) := by
  obtain ⟨inner, hinner, rfl⟩ := Option.map_eq_some_iff.1 hread
  rw [Record.toVal_ofVal]
  cases doc with
  | obj members => exact ⟨members, rfl, hinner⟩
  | arr items => exact absurd hinner (by simp [Shape.decode, hform])
  | _ => cases hinner

lemma get?_version_of_decode {doc : Json} {metadata : ObjectMeta} {version : String}
    (hread : Record.decode doc = some metadata)
    (hversion : metadata.resourceVersion = some version) :
    doc.get? "resourceVersion" = some (.str version) := by
  obtain ⟨members, rfl, h⟩ := Record.exists_members (by decide) hread
  -- Seven fields stand before the version in the table.
  iterate 7 replace h := (Fields.decode_field h).2
  obtain hzero | ⟨source, item, hsource, hitem, hvalue⟩ :=
    Presence.decode_eq_some (Fields.decode_field h).1
  · exact absurd (hversion.symm.trans hzero) nofun
  · obtain rfl : item = version := Option.some.inj (hvalue.symm.trans hversion)
    cases source with
    | str text => exact hsource.trans (congrArg (some ∘ Json.str) (Option.some.inj hitem))
    | _ => cases hitem

lemma resourceVersion_of_decode {kind : Kind} {doc : Json} {object : kind.Object} {version : String}
    (hread : Record.decode doc = some object)
    (hversion : (kind.metadata object).resourceVersion = some version) :
    resourceVersion doc = .str version := by
  have hform : (Record.heading kind.Object).form ≠ .exact := by cases kind <;> decide
  obtain ⟨members, rfl, h⟩ := Record.exists_members hform hread
  have hmetadata : Presence.lenient.decode (Record.shape ObjectMeta).decode
      (Record.shape ObjectMeta).zero (Sorted.get? "metadata" members) =
        some (Record.toVal (kind.metadata object)) := by
    cases kind <;> exact (Fields.decode_field (Fields.decode_const (Fields.decode_const h))).1
  obtain hzero | ⟨part, item, hpart, hitem, hvalue⟩ := Presence.decode_eq_some hmetadata
  · have hnone : (kind.metadata object).resourceVersion = none :=
      congrArg (fun val => (Record.ofVal val : ObjectMeta).resourceVersion) hzero
    exact absurd (hversion.symm.trans hnone) nofun
  · obtain rfl : Record.toVal (kind.metadata object) = item := hvalue
    have hdecode : Record.decode part = some (kind.metadata object) := by
      rw [Record.decode, hitem, Option.map_some, Record.ofVal_toVal]
    have hget : (Json.obj members).get? "metadata" = some part := hpart
    rw [resourceVersion, Json.getD, Json.getD, hget, Option.getD_some,
      get?_version_of_decode hdecode hversion, Option.getD_some]

namespace Memory

/-! ### What is stored after some commits -/

/-- Patches of one object are committed one after the other. -/
inductive Committed (kind : Kind) (id : ObjectId) : Memory → List Json.Patch → Memory → Prop where
  | nil (m : Memory) : Committed kind id m [] m
  | cons {m mid last : Memory} {ops : Json.Patch} {rest : List Json.Patch} {object : kind.Object}
      (hpatch : m.patch kind id ops = (.ok object, mid)) (hrest : Committed kind id mid rest last) :
      Committed kind id m (ops :: rest) last

variable {kind : Kind} {id : ObjectId} {m last after : Memory} {between : List Json.Patch}

lemma Committed.exists_stored (h : Committed kind id m between last) {doc : Json} {text : String}
    (hget : lookup m.objects ⟨kind, id.ns, id.name⟩ = some doc)
    (htext : resourceVersion doc = .str text) :
    ∃ stored now, lookup last.objects ⟨kind, id.ns, id.name⟩ = some stored ∧
      resourceVersion stored = .str now ∧
      number stored = (number doc + between.length) % UInt64.size ∧
      last.failures = m.failures := by
  -- On the patches that are committed, each of which stores the next number.
  induction h generalizing doc text with
  | nil m => exact ⟨doc, text, hget, htext, (Nat.mod_eq_of_lt (number_lt doc)).symm, rfl⟩
  | @cons m mid last ops rest object hpatch hrest ih =>
    rcases patch_cases m kind id ops with ⟨error, hrefused⟩ |
      ⟨current, patched, written, hcurrent, -, hsame, -, hcommitted⟩
    · rw [hrefused] at hpatch
      exact absurd (Prod.mk.inj hpatch).1 nofun
    · obtain rfl := Option.some.inj (hget.symm.trans hcurrent)
      obtain ⟨-, rfl⟩ := Prod.mk.inj (hcommitted.symm.trans hpatch)
      have hnext := resourceVersion_withVersion_of_str (hsame.trans htext)
        (nextVersion (resourceVersion doc))
      obtain ⟨stored, now, hstored, hnow, hnumber, hfailures⟩ := ih (lookup_store_self _ _ _) hnext
      refine ⟨stored, now, hstored, hnow, hnumber.trans ?_, hfailures⟩
      have hfirst : number (withVersion patched (nextVersion (resourceVersion doc))) =
          (number doc + 1) % UInt64.size := by
        rw [number, hnext]
        exact getD_version?_succ (number_lt doc)
      rw [hfirst, Nat.mod_add_mod, List.length_cons, Nat.add_assoc, Nat.add_comm 1]

/-! ### Refusals -/

/-- The patch is refused with a code, and the memory stays as it is. -/
def Refuses (m : Memory) (kind : Kind) (id : ObjectId) (ops : Json.Patch) (code : UInt16)
    (retriable : Bool) : Prop :=
  ∃ reason message, m.patch kind id ops = (.error (refusal code reason message), m) ∧
    (refusal code reason message).isRetriable = retriable

variable {ops : Json.Patch} {doc : Json}

/-- A patch is refused as invalid where its operations cannot be carried out, and as a conflict
where they lead to another resource version. -/
lemma Refuses.cases {code : UInt16} {retriable : Bool} (hfail : m.failure? kind = none)
    (hget : lookup m.objects ⟨kind, id.ns, id.name⟩ = some doc)
    (h : m.Refuses kind id ops code retriable) :
    code = 422 ∧ ¬ Json.Takes ops doc ∨
      code = 409 ∧ ∃ patched, Json.Leads ops doc patched ∧
        resourceVersion patched ≠ resourceVersion doc := by
  obtain ⟨reason, message, hpatch, -⟩ := h
  cases happly : ops.apply doc with
  | error failure =>
    simp only [patch, hfail, hget, happly, refusal, Prod.mk.injEq, Except.error.injEq,
      Error.call.injEq, CallError.refused.injEq, ApiStatus.mk.injEq] at hpatch
    refine .inl ⟨hpatch.1.2.2.2.symm, ?_⟩
    rintro ⟨patched, hleads⟩
    cases happly.symm.trans (Json.apply_eq_ok_iff.2 hleads)
  | ok patched =>
    simp only [patch, hfail, hget, happly] at hpatch
    split at hpatch
    · rename_i hne
      simp only [refusal, Prod.mk.injEq, Except.error.injEq, Error.call.injEq,
        CallError.refused.injEq, ApiStatus.mk.injEq] at hpatch
      exact .inr ⟨hpatch.1.2.2.2.symm, patched, Json.apply_eq_ok_iff.1 happly, hne⟩
    · split at hpatch <;> cases (Prod.mk.inj hpatch).1

lemma refuses_invalid_iff (hfail : m.failure? kind = none)
    (hget : lookup m.objects ⟨kind, id.ns, id.name⟩ = some doc) :
    m.Refuses kind id ops 422 false ↔ ¬ Json.Takes ops doc := by
  constructor
  · intro h
    rcases h.cases hfail hget with ⟨-, hnot⟩ | ⟨hcode, -⟩
    · exact hnot
    · exact absurd hcode (by decide)
  · intro hnot
    cases happly : ops.apply doc with
    | error failure =>
      exact ⟨"Invalid", failure.message, by simp only [patch, hfail, hget, happly], rfl⟩
    | ok patched => exact absurd ⟨patched, Json.apply_eq_ok_iff.1 happly⟩ hnot

lemma refuses_conflict_iff (hfail : m.failure? kind = none)
    (hget : lookup m.objects ⟨kind, id.ns, id.name⟩ = some doc) :
    m.Refuses kind id ops 409 true ↔
      ∃ patched, Json.Leads ops doc patched ∧ resourceVersion patched ≠ resourceVersion doc := by
  constructor
  · intro h
    rcases h.cases hfail hget with ⟨hcode, -⟩ | ⟨-, hleads⟩
    · exact absurd hcode (by decide)
    · exact hleads
  · rintro ⟨patched, hleads, hne⟩
    have happly := Json.apply_eq_ok_iff.2 hleads
    have hpatch : m.patch kind id ops = (.error (refusal 409 "Conflict"
        ("the object " ++ kind.name ++ " \"" ++ id.name ++ "\" has been modified")), m) := by
      simp only [patch, hfail, hget, happly, if_pos hne]
    exact ⟨_, _, hpatch, rfl⟩

/-! ### A patch that comes too late -/

lemma carryOut_pin {text : String} (htext : resourceVersion doc = .str text) (version : String) :
    Json.Operation.carryOut doc (pin version) = some (withVersion doc version) := by
  obtain ⟨members, part, rfl, hpart, hold⟩ := exists_part_of_resourceVersion htext
  rw [withVersion_obj hpart]
  simp [Json.Operation.carryOut, Json.Operation.replaceAt, Json.Operation.within, hpart, hold]

variable {read modified : kind.Object}

lemma admits_withVersion {text : String}
    (hversion : (kind.metadata modified).resourceVersion = (kind.metadata read).resourceVersion)
    (htext : resourceVersion doc = .str text) (version : String) :
    (withVersion doc version).admits (Record.encode read) (Record.encode modified) =
      doc.admits (Record.encode read) (Record.encode modified) := by
  obtain ⟨members, part, rfl, hpart, hold⟩ := exists_part_of_resourceVersion htext
  have hsame := (get?_version_encode (kind.metadata read)).trans
    (.trans (by rw [hversion]) (get?_version_encode (kind.metadata modified)).symm)
  rw [withVersion_obj hpart]
  exact Json.admits_insert_insert (Record.ordered_encode modified) (get?_metadata_encode read)
    (get?_metadata_encode modified) hsame hpart (by rw [hold]; rfl) _

/-- The patch of a change can be carried out where there is a place for each part of the change:
the version, which is set first, is there anyway. -/
lemma takes_diffPatch_iff {text : String}
    (hversion : (kind.metadata modified).resourceVersion = (kind.metadata read).resourceVersion)
    (htext : resourceVersion doc = .str text) :
    Json.Takes (diffPatch read modified) doc ↔
      doc.admits (Record.encode read) (Record.encode modified) = true := by
  have hadmits (doc : Json) : doc.admits (Record.encode read) (Record.encode modified) = true ↔
      Json.Takes (Json.diff (Record.encode read) (Record.encode modified)) doc :=
    Json.admits_iff (Record.ordered_encode read) (Record.ordered_encode modified)
  rcases diffPatch_eq read modified with ⟨hnil, hempty⟩ | heq
  · rw [hadmits, hnil, hempty]
  · rw [heq]
    cases (kind.metadata read).resourceVersion with
    | none => exact (hadmits doc).symm
    | some version =>
      rw [Option.map_some, Option.toList_some, List.singleton_append, Json.Takes.cons_iff,
        carryOut_pin htext, ← admits_withVersion hversion htext version, hadmits]
      simp only [Option.some.injEq, exists_eq_left']

/-- **A patch that comes too late** is refused as a conflict that may be tried again if and only if
what is stored has another version by then and still has a place for each part of the change; where
it has no such place, the patch is refused as invalid, for good. Either way nothing changes. The
versions differ unless a multiple of `2 ^ 64` patches has been committed in between. -/
theorem stale_patch_refused_iff {version : String} {change : kind.Object → kind.Object}
    (hread : m.get kind id = .ok (some read))
    (hversion : (kind.metadata read).resourceVersion = some version)
    (hkeeps : (kind.metadata (change read)).resourceVersion = (kind.metadata read).resourceVersion)
    (hchange : Record.encode (change read) ≠ Record.encode read)
    (hbetween : Committed kind id m between after) :
    ∃ stored, lookup after.objects ⟨kind, id.ns, id.name⟩ = some stored ∧
      (resourceVersion stored = .str version → UInt64.size ∣ between.length) ∧
      (after.Refuses kind id (diffPatch read (change read)) 409 true ↔
        resourceVersion stored ≠ .str version ∧
          stored.admits (Record.encode read) (Record.encode (change read)) = true) ∧
      (after.Refuses kind id (diffPatch read (change read)) 422 false ↔
        stored.admits (Record.encode read) (Record.encode (change read)) = false) := by
  obtain ⟨doc, hdoc, hdecode⟩ := of_get_eq_some hread
  have hold := resourceVersion_of_decode hdecode hversion
  obtain ⟨stored, now, hstored, hnow, hnumber, hfailures⟩ := hbetween.exists_stored hdoc hold
  have hfail : after.failure? kind = none := by
    rw [failure?, hfailures]
    exact failure?_of_get hread
  have htakes := takes_diffPatch_iff hkeeps hnow
  have hne : diffPatch read (change read) ≠ [] := fun hnil => hchange (diffPatch_eq_nil_iff.1 hnil)
  -- Wherever the patch can be carried out, it sets the version that was read.
  have hpinned {patched : Json}
      (hleads : Json.Leads (diffPatch read (change read)) stored patched) :
      resourceVersion patched = .str version :=
    resourceVersion_leads hversion (hkeeps.trans hversion) hne hleads
  refine ⟨stored, hstored, fun hsame => ?_, ?_, ?_⟩
  · have hnumbers : number doc = (number doc + between.length) % UInt64.size := by
      rw [← hnumber, number, number, hold, hsame]
    have hlt := number_lt doc
    refine Nat.dvd_of_mod_eq_zero ?_
    unfold UInt64.size at *
    omega
  · rw [refuses_conflict_iff hfail hstored, ← htakes]
    constructor
    · rintro ⟨patched, hleads, hother⟩
      exact ⟨fun hsame => hother ((hpinned hleads).trans hsame.symm), patched, hleads⟩
    · rintro ⟨hother, patched, hleads⟩
      exact ⟨patched, hleads, fun hsame => hother (hsame.symm.trans (hpinned hleads))⟩
  · rw [refuses_invalid_iff hfail hstored, htakes, Bool.not_eq_true]

/-- The seventh version of a service, with the given labels. -/
def app (labels : List (String × String)) : Kind.service.Object :=
  let labels := Dict.ofList labels
  Kube.Service.mk { name := some "app", ns := some "demo", labels, resourceVersion := some "7" }
    none none

/-- A service is given other labels. -/
def relabel (labels : List (String × String)) (live : Kind.service.Object) : Kind.service.Object :=
  Kube.Service.mk { live.metadata with labels := some (Dict.ofList labels) } live.spec live.status

/-- A control plane that stores the service of team `a`. -/
def appStore : Memory := ({} : Memory).insert .service (app [("team", "a")])

/-- The control plane after that service has been given other labels. -/
def relabelled (labels : List (String × String)) : Memory :=
  (appStore.patch .service ⟨"demo", "app"⟩
    (diffPatch (app [("team", "a")]) (relabel labels (app [("team", "a")])))).2

lemma committed_relabelled (labels : List (String × String)) (object : Kind.service.Object)
    (h : (appStore.patch .service ⟨"demo", "app"⟩
      (diffPatch (app [("team", "a")]) (relabel labels (app [("team", "a")])))).1 = .ok object) :
    Committed .service ⟨"demo", "app"⟩ appStore
      [diffPatch (app [("team", "a")]) (relabel labels (app [("team", "a")]))]
      (relabelled labels) :=
  .cons (Prod.ext h rfl) (.nil _)

/-- Where somebody else has given the service to a third team, giving it to another one is refused
as a conflict. -/
theorem stale_patch_refused_relabelled :
    (relabelled [("team", "c")]).Refuses .service ⟨"demo", "app"⟩
      (diffPatch (app [("team", "a")]) (relabel [("team", "b")] (app [("team", "a")])))
      409 true := by
  have hcommitted := committed_relabelled [("team", "c")]
    (Kind.service.withVersion (app [("team", "c")]) "8") (by decide +kernel)
  obtain ⟨stored, hstored, -, hconflict, -⟩ :=
    @stale_patch_refused_iff .service ⟨"demo", "app"⟩ appStore (relabelled [("team", "c")]) _
      (app [("team", "a")]) "7" (relabel [("team", "b")]) (by decide +kernel) rfl rfl
      (by decide +kernel) hcommitted
  have hdoc : lookup (relabelled [("team", "c")]).objects ⟨.service, "demo", "app"⟩ =
      some (Record.encode (Kind.service.withVersion (app [("team", "c")]) "8")) := by decide +kernel
  obtain rfl := Option.some.inj (hdoc.symm.trans hstored)
  exact hconflict.2 ⟨by decide +kernel, by decide +kernel⟩

/-- Where somebody else has taken the label away, giving the service to another team is refused as
invalid and not as a conflict. -/
theorem stale_patch_refused_as_invalid :
    let read := app [("team", "a")]
    let given := relabel [("team", "b")] read
    appStore.get .service ⟨"demo", "app"⟩ = .ok (some read) ∧
    read.metadata.resourceVersion = some "7" ∧ given.metadata.resourceVersion = some "7" ∧
    Record.encode given ≠ Record.encode read ∧
    Committed .service ⟨"demo", "app"⟩ appStore [diffPatch read (relabel [] read)] (relabelled []) ∧
    (relabelled []).Refuses .service ⟨"demo", "app"⟩ (diffPatch read given) 422 false ∧
    ¬ (relabelled []).Refuses .service ⟨"demo", "app"⟩ (diffPatch read given) 409 true := by
  intro read given
  have hstored : lookup (relabelled []).objects ⟨.service, "demo", "app"⟩ =
      some (Record.encode (Kind.service.withVersion (relabel [] read) "8")) := by decide +kernel
  have hfail : (relabelled []).failure? .service = none := by decide +kernel
  have htext : resourceVersion (Record.encode (Kind.service.withVersion (relabel [] read) "8")) =
      .str "8" := by decide +kernel
  have hkeeps : (Kind.service.metadata given).resourceVersion =
      (Kind.service.metadata read).resourceVersion := rfl
  have htakes : ¬ Json.Takes (diffPatch read given)
      (Record.encode (Kind.service.withVersion (relabel [] read) "8")) := fun h =>
    absurd ((takes_diffPatch_iff hkeeps htext).1 h) (by decide +kernel)
  refine ⟨by decide +kernel, rfl, rfl, by decide +kernel, ?_, ?_, ?_⟩
  · exact committed_relabelled [] (Kind.service.withVersion (relabel [] read) "8")
      (by decide +kernel)
  · exact (@refuses_invalid_iff .service ⟨"demo", "app"⟩ _ _ _ hfail hstored).2 htakes
  · intro hconflict
    obtain ⟨patched, hleads, -⟩ :=
      (@refuses_conflict_iff .service ⟨"demo", "app"⟩ _ _ _ hfail hstored).1 hconflict
    exact htakes ⟨patched, hleads⟩

end Memory
end PgOperator
