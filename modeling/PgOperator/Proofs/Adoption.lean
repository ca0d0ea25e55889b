import Mathlib.Tactic.Lemma
import PgOperator.Proofs.Ownership

/-!
One run among other writers.

An `Amid` is a control plane on which others write between the calls of a run, and that keeps every
`Moment` of its past. The check for a foreign stateful set and the step that brings the set to its
state read it separately. The second reading is pinned: a write of the run meets the set as it was
read then. So the run adopts a foreign set exactly where others have put it there after the check
has looked and before the set is read again (`ensureStatefulSet_adopts_iff`).
-/

namespace PgOperator

open Kube Memory

/-! ### Other writers -/

inductive Write where
  | create (kind : Kind) (ns : String) (object : kind.Object)
  | patch (kind : Kind) (id : ObjectId) (ops : Json.Patch)

def Write.call : Write → Call
  | .create kind ns object => .create kind ns object
  | .patch kind id ops => .patch kind id ops

/-- A call on a control plane, by the run or by somebody else. -/
structure Moment where
  own : Bool
  memory : Memory
  call : Call

namespace Moment

def exchange (moment : Moment) : Exchange := ⟨moment.call, (answer moment.call moment.memory).1⟩

/-- What the call leaves behind. -/
def after (moment : Moment) : Memory := (answer moment.call moment.memory).2

/-- The key under which the call has stored an object. -/
def written? (moment : Moment) : Option ObjectKey := moment.exchange.written?

lemma written?_of_isCancelled {moment : Moment} (h : moment.call = .isCancelled) :
    moment.written? = none := by
  obtain ⟨own, memory, call⟩ := moment
  obtain rfl : call = _ := h
  rfl

lemma written?_of_get {moment : Moment} {kind : Kind} {id : ObjectId}
    (h : moment.call = .get kind id) : moment.written? = none := by
  obtain ⟨own, memory, call⟩ := moment
  obtain rfl : call = _ := h
  rfl

lemma after_of_get {moment : Moment} {kind : Kind} {id : ObjectId}
    (h : moment.call = .get kind id) : moment.after = moment.memory := by
  obtain ⟨own, memory, call⟩ := moment
  obtain rfl : call = _ := h
  rfl

/-- The call has written a stateful set that is foreign. -/
def Adopts (moment : Moment) (id : ObjectId) : Prop :=
  moment.written? = some (setKeyOf id) ∧ Foreign moment.memory.objects id

instance (moment : Moment) (id : ObjectId) : Decidable (moment.Adopts id) :=
  inferInstanceAs (Decidable (_ ∧ _))

end Moment

/-- A control plane, what others are about to write before each of the next calls of a run, and
what has been called so far. -/
structure Amid where
  memory : Memory
  others : List (List Write)
  past : List Moment

namespace Amid

def perform (own : Bool) (c : Call) (s : Amid) : c.Reply × Amid :=
  let (reply, memory) := Memory.answer c s.memory
  (reply, { s with memory, past := s.past ++ [⟨own, s.memory, c⟩] })

def write (s : Amid) (w : Write) : Amid := (s.perform false w.call).2

/-- Makes the writes that are due. -/
def meanwhile (s : Amid) : Amid :=
  (s.others.headD []).foldl write { s with others := s.others.tail }

/-- Answers a call of the run, after the writes that are due. -/
def answer (c : Call) (s : Amid) : c.Reply × Amid := s.meanwhile.perform true c

/-- The calls of the run. -/
def own (s : Amid) : List Moment := s.past.filter Moment.own

/-- Whenever something was called, every document was the written form of an object of its kind and
had a number for its version. -/
def Orderly (s : Amid) : Prop :=
  ∀ moment ∈ s.past, Typed moment.memory.objects ∧ Numbered moment.memory.objects

abbrev moment (s : Amid) (c : Call) : Moment := ⟨true, s.meanwhile.memory, c⟩

/-- Whether every document is the written form of an object of its kind, with a number for its
version. -/
def inOrder (objects : List (ObjectKey × Json)) : Bool :=
  objects.all fun e =>
    ((Record.decode e.2 : Option e.1.kind.Object).any fun object => Record.encode object = e.2) &&
      ((resourceVersion e.2).text?.bind version?).any fun n => n + 1 < UInt64.size

lemma mem_of_lookup {objects : List (ObjectKey × Json)} {key : ObjectKey} {doc : Json}
    (h : lookup objects key = some doc) : (key, doc) ∈ objects := by
  obtain ⟨e, he, rfl⟩ := Option.map_eq_some_iff.1 h
  obtain rfl : e.1 = key := by simpa using List.find?_some he
  exact List.mem_of_find?_eq_some he

lemma typed_of_inOrder {objects : List (ObjectKey × Json)} (h : inOrder objects = true) :
    Typed objects ∧ Numbered objects := by
  constructor
  · intro key doc hget
    obtain ⟨hread, -⟩ := Bool.and_eq_true_iff.1 (List.all_eq_true.1 h _ (mem_of_lookup hget))
    obtain ⟨object, -, hobject⟩ := (Option.any_eq_true _ _).1 hread
    exact ⟨object, (of_decide_eq_true hobject).symm⟩
  · intro key doc hget
    obtain ⟨-, hnumber⟩ := Bool.and_eq_true_iff.1 (List.all_eq_true.1 h _ (mem_of_lookup hget))
    obtain ⟨n, hn, hlt⟩ := (Option.any_eq_true _ _).1 hnumber
    obtain ⟨text, htext, hversion⟩ := Option.bind_eq_some_iff.1 hn
    cases hdoc : resourceVersion doc with
    | str found =>
      rw [hdoc] at htext
      exact ⟨found, n, rfl, Option.some.inj htext ▸ hversion, of_decide_eq_true hlt⟩
    | _ =>
      rw [hdoc] at htext
      cases htext

variable {α : Type} {s : Amid}

lemma orderly_of_all (h : (s.past.all fun moment => inOrder moment.memory.objects) = true) :
    s.Orderly := fun moment hmoment => typed_of_inOrder (List.all_eq_true.1 h moment hmoment)

lemma past_write (s : Amid) (w : Write) :
    (s.write w).past = s.past ++ [⟨false, s.memory, w.call⟩] := rfl

lemma past_foldl (writes : List Write) (s : Amid) : ∃ theirs,
    (writes.foldl write s).past = s.past ++ theirs ∧ ∀ moment ∈ theirs, moment.own = false := by
  induction writes generalizing s with
  | nil => exact ⟨[], (List.append_nil _).symm, List.forall_mem_nil _⟩
  | cons w rest ih =>
    obtain ⟨theirs, heq, htheirs⟩ := ih (s.write w)
    refine ⟨⟨false, s.memory, w.call⟩ :: theirs, ?_, List.forall_mem_cons.2 ⟨rfl, htheirs⟩⟩
    rw [List.foldl_cons, heq, past_write, List.append_assoc, List.singleton_append]

lemma past_meanwhile (s : Amid) : ∃ theirs, s.meanwhile.past = s.past ++ theirs ∧
    ∀ moment ∈ theirs, moment.own = false := past_foldl _ { s with others := s.others.tail }

lemma past_answer (c : Call) (s : Amid) :
    (answer c s).2.past = s.meanwhile.past ++ [s.moment c] := rfl

lemma own_answer (c : Call) (s : Amid) : (answer c s).2.own = s.own ++ [s.moment c] := by
  obtain ⟨theirs, heq, htheirs⟩ := s.past_meanwhile
  have hnone : theirs.filter Moment.own = [] :=
    List.filter_eq_nil_iff.2 fun moment hmoment => by simp [htheirs moment hmoment]
  rw [own, past_answer, heq, List.filter_append, List.filter_append, hnone, List.append_nil, own]
  rfl

lemma own_run (p : Pass α) (s : Amid) : ∃ news, (p.run answer s).2.own = s.own ++ news ∧
    news.map Moment.exchange = p.trace answer s := by
  induction p generalizing s with
  | done value => exact ⟨[], (List.append_nil _).symm, rfl⟩
  | fail error => exact ⟨[], (List.append_nil _).symm, rfl⟩
  | call c next ih =>
    obtain ⟨news, heq, hnews⟩ := ih (answer c s).1 (answer c s).2
    refine ⟨s.moment c :: news, ?_, congrArg (_ :: ·) hnews⟩
    rw [Pass.run_call, heq, own_answer, List.append_assoc]
    rfl

lemma prefix_past_answer (c : Call) (s : Amid) : s.past <+: (answer c s).2.past := by
  obtain ⟨theirs, heq, -⟩ := s.past_meanwhile
  rw [past_answer, heq, List.append_assoc]
  exact List.prefix_append _ _

lemma prefix_past_run (p : Pass α) (s : Amid) : s.past <+: (p.run answer s).2.past := by
  induction p generalizing s with
  | done value => exact List.prefix_rfl
  | fail error => exact List.prefix_rfl
  | call c next ih => exact (prefix_past_answer c s).trans (ih _ _)

lemma Orderly.of_prefix {final : Amid} (h : final.Orderly) (hpast : s.past <+: final.past) :
    s.Orderly := fun moment hmoment => h moment (hpast.subset hmoment)

/-- In an orderly past the call that was made last was made on an orderly control plane. -/
lemma Orderly.of_answer {c : Call} (h : (answer c s).2.Orderly) : s.meanwhile.Orderly ∧
    Typed s.meanwhile.memory.objects ∧ Numbered s.meanwhile.memory.objects := by
  refine ⟨h.of_prefix ?_, h (s.moment c) ?_⟩
  · exact List.prefix_append _ _
  · exact List.mem_append_right _ (List.mem_singleton_self _)

section Reading

variable {kind : Kind} {id : ObjectId} {current : kind.Object} {text : String} {n : Nat}

lemma asReadOrLater_foldl (hversion : (kind.metadata current).resourceVersion = some text)
    (hn : version? text = some n) (writes : List Write) (s : Amid)
    (h : (writes.foldl write s).Orderly) (hfound : AsReadOrLater id current n s.memory.objects) :
    AsReadOrLater id current n (writes.foldl write s).memory.objects := by
  induction writes generalizing s with
  | nil => exact hfound
  | cons w rest ih =>
    obtain ⟨theirs, heq, -⟩ := past_foldl rest (s.write w)
    have hmoment : ⟨false, s.memory, w.call⟩ ∈ ((w :: rest).foldl write s).past := by
      rw [List.foldl_cons, heq, past_write]
      exact List.mem_append_left _ (List.mem_append_right _ (List.mem_singleton_self _))
    exact ih _ h (hfound.of_answer (h _ hmoment).2 hversion hn w.call)

lemma asReadOrLater_meanwhile (hversion : (kind.metadata current).resourceVersion = some text)
    (hn : version? text = some n) (h : s.meanwhile.Orderly)
    (hfound : AsReadOrLater id current n s.memory.objects) :
    AsReadOrLater id current n s.meanwhile.memory.objects :=
  asReadOrLater_foldl hversion hn _ { s with others := s.others.tail } h hfound

end Reading

/-- How a run brings an object to its state that it has read at the given moment, and the calls that
it makes then: a write is taken only where the object still is as it was read. -/
inductive Brought (kind : Kind) (id : ObjectId) (change : kind.Object → kind.Object)
    (read : Moment) : Except Error (kind.Object × Outcome) → List Moment → Prop
  | failed (error : Error) : Brought kind id change read (.error error) []
  | unchanged {object : kind.Object}
      (heffect : Effect kind id change read.memory object .unchanged read.memory) :
      Brought kind id change read (.ok (object, .unchanged)) []
  | refused {write : Moment} (hwrite : write.written? = none) (error : Error) :
      Brought kind id change read (.error error) [write]
  | written {write : Moment} (hwrite : write.written? = some ⟨kind, id.ns, id.name⟩)
      (hlookup : lookup write.memory.objects ⟨kind, id.ns, id.name⟩ =
        lookup read.memory.objects ⟨kind, id.ns, id.name⟩) {object : kind.Object}
      {outcome : Outcome}
      (heffect : Effect kind id change write.memory object outcome write.after) :
      Brought kind id change read (.ok (object, outcome)) [write]

section Bringing

variable {kind : Kind} {id : ObjectId} {change : kind.Object → kind.Object}

lemma brought_create (hchange : KeepsIdentity change) {read : Moment}
    (hread : lookup read.memory.objects ⟨kind, id.ns, id.name⟩ = none) (s : Amid) :
    let c := Call.create kind id.ns (change (kind.blank id))
    ∃ r, (Pass.afterRead kind id change (.ok none)).run answer s = (r, (answer c s).2) ∧
      Brought kind id change read r [s.moment c] := by
  intro c
  have hname : (kind.metadata (change (kind.blank id))).name.getD "" = id.name := by
    rw [hchange.name, Kind.metadata_blank]
    rfl
  have hexchange : (s.moment c).exchange = ⟨c, (s.meanwhile.memory.create kind id.ns
    (change (kind.blank id))).1⟩ := rfl
  rw [Pass.afterRead, Pass.run_call]
  -- Others may have created the object since it was read; then this creation is refused.
  rcases create_cases s.meanwhile.memory kind id.ns (change (kind.blank id)) with
    ⟨error, hcreate⟩ | ⟨hnone, hcreate⟩
  · refine ⟨.error error, ?_, .refused ?_ error⟩
    · rw [show (answer c s).1 = .error error from congrArg Prod.fst hcreate]
      rfl
    · rw [Moment.written?, hexchange, hcreate]
      rfl
  · rw [hname] at hnone hcreate
    refine ⟨.ok (kind.created (change (kind.blank id)) id.ns s.meanwhile.memory.uids, .created),
      ?_, .written ?_ (hnone.trans hread.symm) ?_⟩
    · rw [show (answer c s).1 = .ok _ from congrArg Prod.fst hcreate]
      rfl
    · rw [Moment.written?, hexchange, hcreate, Exchange.written?, Call.written?, hname]
    · rw [Moment.after, Memory.answer, hcreate]
      exact .created hnone

/-- A patch of an object that was read is taken only if that still is as it was. -/
lemma brought_patch (hchange : KeepsIdentity change) {read : Moment} {current : kind.Object}
    {text : String} {n : Nat} (hversion : (kind.metadata current).resourceVersion = some text)
    (hn : version? text = some n)
    (hread : lookup read.memory.objects ⟨kind, id.ns, id.name⟩ = some (Record.encode current))
    (hdecode : Record.decode (Record.encode current) = some current)
    (hne : Record.encode (change current) ≠ Record.encode current) {s : Amid}
    (hfound : AsReadOrLater id current n s.meanwhile.memory.objects) :
    let c := Call.patch kind id (diffPatch current (change current))
    ∃ r, (Pass.afterRead kind id change (.ok (some current))).run answer s =
        (r, (answer c s).2) ∧ Brought kind id change read r [s.moment c] := by
  intro c
  have hexchange : (s.moment c).exchange = ⟨c, (s.meanwhile.memory.patch kind id
    (diffPatch current (change current))).1⟩ := rfl
  rw [Pass.afterRead_of_ne hne, Pass.run_call]
  rcases patch_cases s.meanwhile.memory kind id (diffPatch current (change current)) with
    ⟨error, hpatch⟩ | ⟨doc, patched, stored, hget, hleads, -, hstored, hpatch⟩
  · refine ⟨.error error, ?_, .refused ?_ error⟩
    · rw [show (answer c s).1 = .error error from congrArg Prod.fst hpatch]
      rfl
    · rw [Moment.written?, hexchange, hpatch]
      rfl
  · have hsame := hfound.of_patched hversion hn (hchange.version current)
      (mt diffPatch_eq_nil_iff.1 hne) hpatch
    obtain rfl := Option.some.inj (hget.symm.trans hsame)
    obtain rfl : patched = Record.encode (change current) :=
      Option.some.inj (hleads.symm.trans (leads_diffPatch current (change current)))
    refine ⟨.ok (stored, .patched), ?_, .written ?_ (hsame.trans hread.symm) ?_⟩
    · rw [show (answer c s).1 = .ok stored from congrArg Prod.fst hpatch]
      rfl
    · rw [Moment.written?, hexchange, hpatch]
      rfl
    · rw [Moment.after, Memory.answer, hpatch]
      exact .patched hget hdecode hne hstored

lemma brought_createOrPatch (id : ObjectId) (hchange : KeepsIdentity change) (s : Amid)
    (h : ((Pass.createOrPatch kind id change).run answer s).2.Orderly) :
    ∃ writes, ((Pass.createOrPatch kind id change).run answer s).2.own =
        s.own ++ s.moment (.get kind id) :: writes ∧
      Brought kind id change (s.moment (.get kind id))
        ((Pass.createOrPatch kind id change).run answer s).1 writes := by
  rw [Pass.createOrPatch_eq, Pass.run_call] at h ⊢
  have hafter := h.of_prefix (prefix_past_run _ _)
  obtain ⟨-, htyped, hnum⟩ := hafter.of_answer
  have hown := own_answer (.get kind id) s
  have hreply : (answer (.get kind id) s).1 = s.meanwhile.memory.get kind id := rfl
  rw [hreply] at h ⊢
  cases hget : s.meanwhile.memory.get kind id with
  | error error => exact ⟨[], hown, .failed error⟩
  | ok found =>
    rw [hget] at h
    cases found with
    | none =>
      have hread : lookup (s.moment (.get kind id)).memory.objects ⟨kind, id.ns, id.name⟩ = none :=
        of_get_eq_none hget
      obtain ⟨r, hrun, hbrought⟩ := brought_create hchange hread (answer (.get kind id) s).2
      rw [hrun, own_answer, hown, List.append_assoc]
      exact ⟨_, rfl, hbrought⟩
    | some current =>
      obtain ⟨doc, hdoc, hread⟩ := of_get_eq_some hget
      obtain ⟨object, hobject, -, rfl⟩ := htyped.exists_read hdoc
      obtain rfl := Option.some.inj (hobject.symm.trans hread)
      obtain ⟨text, n, htext, hn, -⟩ := hnum _ _ hdoc
      rw [resourceVersion_encode] at htext
      by_cases hsame : Record.encode (change object) = Record.encode object
      · rw [Pass.afterRead_of_same hsame]
        exact ⟨[], hown, .unchanged (.unchanged hdoc hread hsame)⟩
      · -- What others write before the patch gives the object a version that the pin refuses.
        have hlater := h
        rw [Pass.afterRead_of_ne hsame, Pass.run_call] at hlater
        have hfound : AsReadOrLater id object n
            (answer (.get kind id) s).2.meanwhile.memory.objects :=
          asReadOrLater_meanwhile (versionDoc_eq_str htext) hn
            (hlater.of_prefix (prefix_past_run _ _)).of_answer.1 ⟨_, hdoc, .inl rfl⟩
        have hread' : lookup (s.moment (.get kind id)).memory.objects ⟨kind, id.ns, id.name⟩ =
          some (Record.encode object) := hdoc
        obtain ⟨r, hrun, hbrought⟩ := brought_patch hchange (versionDoc_eq_str htext) hn hread'
          hread hsame hfound
        rw [hrun, own_answer, hown, List.append_assoc]
        exact ⟨_, rfl, hbrought⟩

end Bringing

/-! ### The course of a run -/

variable {db : Postgres} {version : PostgresVersion} {options : Options}

lemma run_ensureNotCancelled_amid (s : Amid) : ∃ r,
    Pass.ensureNotCancelled.run answer s = (r, (answer .isCancelled s).2) := by
  rw [Pass.ensureNotCancelled, Pass.run_call]
  cases (answer .isCancelled s).1 with
  | true => exact ⟨.error .cancelled, rfl⟩
  | false => exact ⟨.ok (), rfl⟩

/-- The check lets the run go on only where the stateful set is not foreign when it looks. -/
lemma run_checkStatefulSet_amid (db : Postgres) (s : Amid) :
    ∃ r, (Pass.checkStatefulSet db).run answer s =
        (r, (answer (.get .statefulSet db.setPart.id) s).2) ∧
      (r = .ok () → ¬ Foreign s.meanwhile.memory.objects db.setPart.id) := by
  rw [Pass.checkStatefulSet_eq, Pass.run_call]
  have hreply : (answer (.get .statefulSet db.setPart.id) s).1 =
    s.meanwhile.memory.get .statefulSet db.setPart.id := rfl
  rw [hreply]
  cases hget : s.meanwhile.memory.get .statefulSet db.setPart.id with
  | error error => exact ⟨.error error, rfl, fun h => by cases h⟩
  | ok found =>
    cases found with
    | none =>
      refine ⟨.ok (), rfl, ?_⟩
      rintro - ⟨doc, set, hdoc, -⟩
      cases (of_get_eq_none hget).symm.trans hdoc
    | some set =>
      rw [Pass.checkFound]
      split
      · rename_i howns
        refine ⟨.ok (), rfl, ?_⟩
        rintro - ⟨doc, foreign, hdoc, hread, hnot⟩
        obtain ⟨doc', hdoc', hread'⟩ := of_get_eq_some hget
        obtain rfl := Option.some.inj (hdoc.symm.trans hdoc')
        obtain rfl := Option.some.inj (hread.symm.trans hread')
        exact hnot (Pass.ownsStatefulSet_iff.1 howns)
      · exact ⟨_, rfl, fun h => by cases h⟩

/-- What a run does once the stateful set is in its state. -/
abbrev tail (db : Postgres) (options : Options) (v : StatefulSet × Outcome) : Pass Outcome :=
  Pass.settleIn db options v >>= fun _ => Pass.ensureDisruptionBudget v.1 >>= fun _ => pure v.2

lemma exists_rest (v : StatefulSet × Outcome) (s : Amid) : ∃ rest,
    ((tail db options v).run answer s).2.own = s.own ++ rest ∧
    ∀ moment ∈ rest, ∀ key, moment.written? = some key → key.kind = .disruptionBudget := by
  obtain ⟨rest, hown, htrace⟩ := own_run (tail db options v) s
  refine ⟨rest, hown, fun moment hmoment key hkey => ?_⟩
  have honce : Pass.WritesOnce answer (fun key => key.kind = .disruptionBudget)
      (tail db options v) :=
    (Pass.writesOnce_settleIn v).silent_bind fun _ =>
      (Pass.writesOnce_ensureDisruptionBudget v.1).bind_silent fun _ => Pass.writesOnce_pure _
  have hmem : moment.exchange ∈ (tail db options v).trace answer s :=
    htrace ▸ List.mem_map_of_mem hmoment
  exact (honce _ _ _ _ (Pass.follows_run _ s)).2 key (List.mem_filterMap.2 ⟨_, hmem, hkey⟩)

/-- The calls of a run: it writes nothing, or it looks whether it has been cancelled, checks the
stateful set, reads it, brings it to its state, and then writes budgets only. -/
inductive Course (db : Postgres) (version : PostgresVersion) (options : Options) :
    List Moment → Prop
  | stopped {own : List Moment} (h : ∀ moment ∈ own, moment.written? = none) :
      Course db version options own
  | went {looked checked read : Moment} {writes rest : List Moment}
      {r : Except Error (Kind.statefulSet.Object × Outcome)} (hlooked : looked.call = .isCancelled)
      (hchecks : checked.call = .get .statefulSet db.setPart.id)
      (hreads : read.call = .get .statefulSet db.setPart.id)
      (hchecked : ¬ Foreign checked.memory.objects db.setPart.id)
      (hbrought : Brought .statefulSet db.setPart.id (db.statefulSet version options)
        read r writes)
      (hended : ∀ error, r = .error error → rest = [])
      (hrest : ∀ moment ∈ rest, ∀ key, moment.written? = some key →
        key.kind = .disruptionBudget) :
      Course db version options (looked :: checked :: read :: (writes ++ rest))

lemma course_of_checked {looked checked : Moment} (hlooked : looked.call = .isCancelled)
    (hchecks : checked.call = .get .statefulSet db.setPart.id)
    (hchecked : ¬ Foreign checked.memory.objects db.setPart.id) {s : Amid}
    (hown : s.own = [looked, checked])
    (h : ((Pass.createOrPatch .statefulSet db.setPart.id (db.statefulSet version options) >>=
      tail db options).run answer s).2.Orderly) :
    Course db version options ((Pass.createOrPatch .statefulSet db.setPart.id
      (db.statefulSet version options) >>= tail db options).run answer s).2.own := by
  have hproper : Kind.Proper .statefulSet (db.statefulSet version options) :=
    Postgres.proper_statefulSet
  have hbrought := brought_createOrPatch db.setPart.id hproper.identity s
  rw [Pass.run_bind] at h ⊢
  cases hrun : (Pass.createOrPatch .statefulSet db.setPart.id
      (db.statefulSet version options)).run answer s with
  | mk r s' =>
    rw [hrun] at h hbrought
    -- After a failure nothing follows, and after success budgets only.
    cases r with
    | error error =>
      obtain ⟨writes, hown', hwrites⟩ := hbrought h
      have hcourse := Course.went hlooked hchecks rfl hchecked hwrites (fun _ _ => rfl)
        (List.forall_mem_nil _)
      rw [List.append_nil] at hcourse
      rw [hown] at hown'
      exact hown' ▸ hcourse
    | ok v =>
      obtain ⟨writes, hown', hwrites⟩ := hbrought (h.of_prefix (prefix_past_run _ _))
      obtain ⟨rest, hfinal, hrest⟩ := exists_rest v s'
      rw [hown', hown, List.append_assoc] at hfinal
      have hcourse := Course.went hlooked hchecks rfl hchecked hwrites nofun hrest
      exact hfinal ▸ hcourse

lemma course_ensureStatefulSet (m : Memory) (others : List (List Write))
    (h : ((Pass.ensureStatefulSet db version options).run answer ⟨m, others, []⟩).2.Orderly) :
    Course db version options
      ((Pass.ensureStatefulSet db version options).run answer ⟨m, others, []⟩).2.own := by
  have heq : Pass.ensureStatefulSet db version options = Pass.ensureNotCancelled >>= fun _ =>
      Pass.checkStatefulSet db >>= fun _ => Pass.createOrPatch .statefulSet db.setPart.id
        (db.statefulSet version options) >>= tail db options := by
    rw [Pass.ensureStatefulSet_eq]
    exact congrArg (Pass.ensureNotCancelled >>= ·) (funext fun _ => Pass.bind_assoc _ _ _)
  rw [heq] at h ⊢
  obtain ⟨r, hlooked⟩ := run_ensureNotCancelled_amid ⟨m, others, []⟩
  have hown : (answer .isCancelled ⟨m, others, []⟩).2.own = [moment ⟨m, others, []⟩ .isCancelled] :=
    own_answer .isCancelled ⟨m, others, []⟩
  have hlook : (moment ⟨m, others, []⟩ .isCancelled).call = .isCancelled := rfl
  generalize (answer .isCancelled ⟨m, others, []⟩).2 = s at *
  generalize moment ⟨m, others, []⟩ .isCancelled = looked at *
  cases r with
  | error error =>
    rw [Pass.run_bind, hlooked]
    refine .stopped (hown ▸ List.forall_mem_singleton.2 (Moment.written?_of_isCancelled hlook))
  | ok =>
    rw [Pass.run_bind_of_run hlooked rfl] at h ⊢
    obtain ⟨r, hcheck, hpassed⟩ := run_checkStatefulSet_amid db s
    have hown' := own_answer (.get .statefulSet db.setPart.id) s
    rw [hown] at hown'
    cases r with
    | error error =>
      rw [Pass.run_bind, hcheck]
      exact .stopped (hown' ▸ List.forall_mem_cons.2
        ⟨Moment.written?_of_isCancelled hlook, List.forall_mem_singleton.2 rfl⟩)
    | ok =>
      rw [Pass.run_bind_of_run hcheck rfl] at h ⊢
      exact course_of_checked hlook rfl (hpassed rfl) hown' h

namespace Course

variable {own : List Moment}

/-- The run writes the stateful set once at most, and as it has read it after the check. -/
lemma of_written (h : Course db version options own) {write : Moment} (hmem : write ∈ own)
    (hwrite : write.written? = some (Pass.setKey db)) :
    ∃ looked checked read rest, own = looked :: checked :: read :: write :: rest ∧
      checked.call = .get .statefulSet db.setPart.id ∧
      read.call = .get .statefulSet db.setPart.id ∧
      ¬ Foreign checked.memory.objects db.setPart.id ∧
      lookup write.memory.objects (Pass.setKey db) =
        lookup read.memory.objects (Pass.setKey db) := by
  cases h with
  | stopped h => exact absurd ((h write hmem).symm.trans hwrite) nofun
  | @went looked checked read writes rest r hlooked hchecks hreads hchecked hbrought _ hrest =>
    have hwrites : write ∈ writes := by
      simp only [List.mem_cons, List.mem_append] at hmem
      rcases hmem with rfl | rfl | rfl | hmem | hmem
      · exact absurd ((Moment.written?_of_isCancelled hlooked).symm.trans hwrite) nofun
      · exact absurd ((Moment.written?_of_get hchecks).symm.trans hwrite) nofun
      · exact absurd ((Moment.written?_of_get hreads).symm.trans hwrite) nofun
      · exact hmem
      · exact absurd (hrest write hmem _ hwrite) nofun
    cases hbrought with
    | failed | unchanged => exact absurd hwrites List.not_mem_nil
    | refused hnone =>
      obtain rfl := List.mem_singleton.1 hwrites
      exact absurd (hnone.symm.trans hwrite) nofun
    | written _ hlookup =>
      obtain rfl := List.mem_singleton.1 hwrites
      exact ⟨looked, checked, read, rest, rfl, hchecks, hreads, hchecked, hlookup⟩

lemma of_budget (h : Course db version options own)
    (htyped : ∀ moment ∈ own, Typed moment.memory.objects) {write : Moment} (hmem : write ∈ own)
    {key : ObjectKey} (hwrite : write.written? = some key) (hkind : key.kind = .disruptionBudget) :
    ∃ before settled between after, own = before ++ settled :: between ++ write :: after ∧
      Owned settled.after.objects db.setPart.id := by
  cases h with
  | stopped h => exact absurd ((h write hmem).symm.trans hwrite) nofun
  | @went looked checked read writes rest r hlooked hchecks hreads _ hbrought hended hrest =>
    have hsilent {moment : Moment} (hnone : moment.written? = none) : write ≠ moment := by
      rintro rfl
      exact absurd (hnone.symm.trans hwrite) nofun
    -- A look, a check and a read write nothing, so the budget is among what is written later.
    have hlater : write ∈ writes ++ rest := by
      simpa [hsilent (Moment.written?_of_isCancelled hlooked),
        hsilent (Moment.written?_of_get hchecks),
        hsilent (Moment.written?_of_get hreads)] using hmem
    cases hbrought with
    | failed error =>
      rw [hended error rfl] at hlater
      exact absurd hlater List.not_mem_nil
    | @refused first hnone error =>
      rw [hended error rfl] at hlater
      exact absurd (List.mem_singleton.1 hlater) (hsilent hnone)
    | unchanged heffect =>
      obtain ⟨between, after, rfl⟩ := List.append_of_mem (show write ∈ rest from hlater)
      refine ⟨[looked, checked], read, between, after, rfl, ?_⟩
      rw [Moment.after_of_get hreads]
      exact Pass.owned_of_effect (htyped read (by simp)) heffect
    | @written first hfirst _ _ _ heffect =>
      have hne : write ≠ first := by
        rintro rfl
        obtain rfl := Option.some.inj (hfirst.symm.trans hwrite)
        cases hkind
      have hbelow : write ∈ rest := by simpa [hne] using hlater
      obtain ⟨between, after, rfl⟩ := List.append_of_mem hbelow
      exact ⟨[looked, checked, read], first, between, after, rfl,
        Pass.owned_of_effect (htyped first (by simp)) heffect⟩

end Course

end Amid

namespace Pass

/-- **Whom a run adopts**: whatever others write between its calls, a run over the stateful set of
an instance writes a foreign one exactly where that was not foreign when the run checked it, was
foreign when the run read it again, and was then written. What it writes is as it has read it, for
a write that meets another version is refused. A budget is written only after the run has seen, or
made, a stateful set with both labels of the instance. -/
theorem ensureStatefulSet_adopts_iff (db : Postgres) (version : PostgresVersion)
    (options : Options) (m : Memory) (others : List (List Write)) :
    let final := ((ensureStatefulSet db version options).run Amid.answer ⟨m, others, []⟩).2
    final.Orderly →
    ((∃ write ∈ final.own, write.Adopts db.setPart.id) ↔
      ∃ looked checked read write rest, final.own = looked :: checked :: read :: write :: rest ∧
        checked.call = .get .statefulSet db.setPart.id ∧
        read.call = .get .statefulSet db.setPart.id ∧
        ¬ Foreign checked.memory.objects db.setPart.id ∧
        Foreign read.memory.objects db.setPart.id ∧ write.written? = some (setKey db)) ∧
    (∀ write ∈ final.own, write.written? = some (setKey db) →
      ∃ looked checked read rest, final.own = looked :: checked :: read :: write :: rest ∧
        lookup write.memory.objects (setKey db) = lookup read.memory.objects (setKey db)) ∧
    ∀ write ∈ final.own, ∀ key, write.written? = some key → key.kind = .disruptionBudget →
      ∃ before settled between after, final.own = before ++ settled :: between ++ write :: after ∧
        Owned settled.after.objects db.setPart.id := by
  intro final horderly
  have hcourse : Amid.Course db version options final.own :=
    Amid.course_ensureStatefulSet m others horderly
  have hmem {moment : Moment} (h : moment ∈ final.own) : moment ∈ final.past :=
    List.mem_of_mem_filter h
  refine ⟨⟨?_, ?_⟩, ?_, ?_⟩
  · rintro ⟨write, hwrite, hkey, hforeign⟩
    obtain ⟨looked, checked, read, rest, hown, hchecks, hreads, hchecked, hlookup⟩ :=
      hcourse.of_written hwrite hkey
    exact ⟨looked, checked, read, write, rest, hown, hchecks, hreads, hchecked,
      hforeign.of_lookup_eq hlookup.symm, hkey⟩
  · rintro ⟨looked, checked, read, write, rest, hown, -, -, -, hforeign, hkey⟩
    have hwrite : write ∈ final.own := by simp [hown]
    obtain ⟨_, _, _, _, hown', -, -, -, hlookup⟩ := hcourse.of_written hwrite hkey
    simp only [hown, List.cons.injEq, true_and] at hown'
    obtain ⟨-, -, rfl, -⟩ := hown'
    exact ⟨write, hwrite, hkey, hforeign.of_lookup_eq hlookup⟩
  · intro write hwrite hkey
    obtain ⟨looked, checked, read, rest, hown, -, -, -, hlookup⟩ := hcourse.of_written hwrite hkey
    exact ⟨looked, checked, read, rest, hown, hlookup⟩
  · intro write hwrite key hkey hkind
    exact hcourse.of_budget (fun moment h => (horderly moment (hmem h)).1) hwrite hkey hkind

/-- Nobody writes before the run looks and checks; then somebody creates the stranger. -/
def hasty : List (List Write) := [[], [], [.create .statefulSet "demo" stranger]]

/-- What a run over `migrated` leaves that is overtaken by the stranger. -/
def overtaken : Amid := ((ensureStatefulSet migrated {} {}).run Amid.answer ⟨{}, hasty, []⟩).2

/-- The run patches the stranger. -/
theorem ensureStatefulSet_adopts : ∃ write ∈ overtaken.own, write.Adopts migrated.setPart.id := by
  decide +kernel

theorem ensureStatefulSet_adopts_iff_overtaken :
    (∃ looked checked read write rest,
      overtaken.own = looked :: checked :: read :: write :: rest ∧
        ¬ Foreign checked.memory.objects migrated.setPart.id ∧
        Foreign read.memory.objects migrated.setPart.id ∧
        write.written? = some (setKey migrated)) ∧
    ∃ before settled between write after,
      overtaken.own = before ++ settled :: between ++ write :: after ∧
        write.written? = some ⟨.disruptionBudget, "demo", "db"⟩ ∧
        Owned settled.after.objects migrated.setPart.id := by
  -- One evaluation of the run shows all three.
  obtain ⟨hinOrder, hadopts, hbudget⟩ :
      (overtaken.past.all fun moment => Amid.inOrder moment.memory.objects) = true ∧
      (∃ write ∈ overtaken.own, write.Adopts migrated.setPart.id) ∧
      ∃ write ∈ overtaken.own, write.written? = some ⟨.disruptionBudget, "demo", "db"⟩ := by
    decide +kernel
  have horderly : overtaken.Orderly := Amid.orderly_of_all hinOrder
  obtain ⟨hiff, -, hbudgets⟩ := ensureStatefulSet_adopts_iff migrated {} {} {} hasty horderly
  obtain ⟨looked, checked, read, write, rest, hown, -, -, hchecked, hread, hwrite⟩ := hiff.1 hadopts
  obtain ⟨last, hlast, hkey⟩ := hbudget
  obtain ⟨before, settled, between, after, hsplit, howned⟩ := hbudgets last hlast _ hkey rfl
  exact ⟨⟨looked, checked, read, write, rest, hown, hchecked, hread, hwrite⟩,
    before, settled, between, last, after, hsplit, hkey, howned⟩

end Pass

end PgOperator
