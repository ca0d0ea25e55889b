import Mathlib.Data.List.Basic
import Mathlib.Tactic.Lemma
import PgOperator.Proofs.ByteOrder
import PgOperator.Proofs.Ownership

/-!
What the query for a selector tells of it.

The text of a selector is divided by commas into terms, and each term by an equals sign into a key
and a value. Where keys and values hold neither of them, nothing else divides the text, so that the
labels can be read off it, in the order of their bytes (`Selector.parts_text`). A pass asks for the
pods of the stateful set that it has been given back after a write
(`Pass.isChanged_of_mem_queries`), and a control plane that gives back what it was asked for leaves
the labels of the instance in it. So passes over instances of different names ask for different pods
(`Pass.query_determines_labels`).
-/

namespace PgOperator

open Kube Memory

/-! ### Texts between separators -/

namespace Text

/-- The parts of a text between its separators. -/
def pieces (separator : Char) (s : String) : List String :=
  (s.toList.splitOn separator).map String.ofList

lemma pieces_join {separator : Char} {parts : List String} (hne : parts ≠ [])
    (h : ∀ part ∈ parts, separator ∉ part.toList) :
    pieces separator (join (String.singleton separator) parts) = parts := by
  have hchars : (join (String.singleton separator) parts).toList =
      [separator].intercalate (parts.map String.toList) := by
    rw [join, String.toList_intercalate, String.toList_singleton]
  have hwhole : ∀ piece ∈ parts.map String.toList, separator ∉ piece := by
    intro piece hpiece
    obtain ⟨part, hpart, rfl⟩ := List.mem_map.1 hpiece
    exact h part hpart
  rw [pieces, hchars, List.splitOn_intercalate separator hwhole (by simpa using hne), List.map_map]
  simp [Function.comp_def]

end Text

/-! ### Terms -/

namespace Selector

/-- A key or a value that the text of a selector shows as one: it holds neither of the characters
that divide the text. -/
structure IsPlain (text : String) : Prop where
  no_comma : ',' ∉ text.toList
  no_equals : '=' ∉ text.toList

/-- All keys and values of a selector are plain. -/
def Plain (selector : Dict String) : Prop :=
  ∀ e ∈ selector.entries, IsPlain e.1 ∧ IsPlain e.2

/-- The parts between the commas of a text, each with its own parts between equals signs. -/
def parts (text : String) : List (List String) :=
  if text = "" then [] else (Text.pieces ',' text).map (Text.pieces '=')

def term (e : String × String) : String := e.1 ++ "=" ++ e.2

lemma text_eq (selector : Dict String) :
    text selector = Text.join (String.singleton ',') (selector.entries.map term) := rfl

lemma term_eq (e : String × String) :
    term e = Text.join (String.singleton '=') [e.1, e.2] := by
  simp [term, Text.join, String.intercalate_cons_cons, String.append_assoc]

lemma pieces_term {e : String × String} (hkey : IsPlain e.1) (hvalue : IsPlain e.2) :
    Text.pieces '=' (term e) = [e.1, e.2] := by
  rw [term_eq]
  refine Text.pieces_join (List.cons_ne_nil _ _) ?_
  simp [hkey.no_equals, hvalue.no_equals]

lemma no_comma_term {e : String × String} (hkey : IsPlain e.1) (hvalue : IsPlain e.2) :
    ',' ∉ (term e).toList := by
  simp [term, hkey.no_comma, hvalue.no_comma]

lemma text_ne_empty {selector : Dict String} (h : selector.entries ≠ []) : text selector ≠ "" := by
  obtain ⟨e, rest, heq⟩ := List.exists_cons_of_ne_nil h
  rw [text_eq, heq, Text.join]
  cases rest <;> simp [term, String.intercalate_cons_cons]

/-- **The labels can be read off the text of a selector**, in the order that they are kept in. -/
theorem parts_text {selector : Dict String} (h : Plain selector) :
    parts (text selector) = selector.entries.map fun e => [e.1, e.2] := by
  by_cases hentries : selector.entries = []
  · rw [text_eq, hentries]
    rfl
  · have hterms : Text.pieces ',' (text selector) = selector.entries.map term := by
      refine Text.pieces_join (mt List.map_eq_nil_iff.1 hentries) ?_
      intro part hpart
      obtain ⟨e, he, rfl⟩ := List.mem_map.1 hpart
      exact no_comma_term (h e he).1 (h e he).2
    rw [parts, if_neg (text_ne_empty hentries), hterms, List.map_map]
    exact List.map_congr_left fun e he => pieces_term (h e he).1 (h e he).2

/-- Selectors of plain keys and values are written differently. -/
lemma text_injective {selector other : Dict String} (h : Plain selector) (hother : Plain other)
    (heq : text selector = text other) : selector = other := by
  have hparts := parts_text h
  rw [heq, parts_text hother] at hparts
  have hpair : Function.Injective fun e : String × String => [e.1, e.2] := by
    rintro ⟨k, v⟩ ⟨k', v'⟩ hsame
    simpa using hsame
  exact Dict.ext (hpair.list_map hparts).symm

/-- A comma in a value reads as the end of a term. -/
example : text (.ofList [("app", "db,role=primary")]) =
    text (.ofList [("app", "db"), ("role", "primary")]) := by decide

lemma pairwise_bytes (selector : Dict String) :
    selector.entries.Pairwise fun e f => Text.bytes e.1 < Text.bytes f.1 :=
  selector.ordered.imp Text.bytes_lt_bytes_iff.2

end Selector

/-! ### The selector of an instance -/

namespace Postgres

lemma entries_selectors (db : Postgres) :
    db.selectors.entries = [(Label.kind, "Postgres"), (Label.name, db.name)] := by
  refine Sorted.ofList_of_ordered (List.pairwise_pair.2 ?_)
  show Label.kind < Label.name
  decide

lemma plain_selectors {db : Postgres} (h : Selector.IsPlain db.name) :
    Selector.Plain db.selectors := by
  rw [Selector.Plain, entries_selectors]
  have hkind : Selector.IsPlain Label.kind := ⟨by decide, by decide⟩
  have hpostgres : Selector.IsPlain "Postgres" := ⟨by decide, by decide⟩
  have hname : Selector.IsPlain Label.name := ⟨by decide, by decide⟩
  exact List.forall_mem_cons.2 ⟨⟨hkind, hpostgres⟩, List.forall_mem_singleton.2 ⟨hname, h⟩⟩

lemma name_eq_of_selectors {a b : Postgres} (h : a.selectors = b.selectors) : a.name = b.name := by
  have hentries := congrArg Dict.entries h
  rw [entries_selectors, entries_selectors] at hentries
  simpa using hentries

end Postgres

/-! ### The queries of a pass -/

namespace Kube.StatefulSet

/-- The labels by which a stateful set selects its pods. -/
def podSelector (set : StatefulSet) : Dict String :=
  (set.spec.bind (·.selector.matchLabels)).getD .empty

end Kube.StatefulSet

/-- The query by which a call asks for pods. -/
def Call.query? : Call → Option String
  | .awaitPods _ selector _ _ => some (Selector.text selector)
  | _ => none

def queries (trace : List Exchange) : List String := trace.filterMap fun x => x.call.query?

namespace Pass

variable {σ α β : Type} {answer : (c : Call) → σ → c.Reply × σ} {holds : σ → Prop} {s : σ}
  {query : String}

lemma mem_queries_bind {p : Pass α} {q : α → Pass β} :
    query ∈ queries ((p >>= q).trace answer s) ↔ query ∈ queries (p.trace answer s) ∨
      ∃ value s', p.run answer s = (.ok value, s') ∧
        query ∈ queries ((q value).trace answer s') := by
  rw [trace_bind, queries, List.filterMap_append, List.mem_append]
  refine or_congr_right ?_
  cases p.run answer s with
  | mk result s' => cases result <;> simp [queries]

lemma queries_last {c : Call} {next : c.Reply → Pass α} (h : ∀ reply, (next reply).Ended) (s : σ) :
    queries ((Pass.call c next).trace answer s) = c.query?.toList := by
  rw [trace, (h _).trace_eq, queries]
  cases hquery : c.query? <;> simp [hquery]

/-- What is true of the states of a control plane, and stays so whatever a pass does. -/
structure Invariant (answer : (c : Call) → σ → c.Reply × σ) (holds : σ → Prop) : Prop where
  /-- A call that writes no object keeps it. -/
  asked {c : Call} {s : σ} (h : ∀ reply, c.written? reply = none) (hs : holds s) :
    holds (answer c s).2
  /-- So does bringing an object to its state, however that ends. -/
  brought {kind : Kind} {change : kind.Object → kind.Object} {s : σ} (id : ObjectId)
    (h : kind.Proper change) (hs : holds s) : holds ((createOrPatch kind id change).run answer s).2

/-- A control plane that gives back what it has been asked for, as far as stateful sets and their
selectors go. -/
structure Faithful (answer : (c : Call) → σ → c.Reply × σ) (holds : σ → Prop) : Prop extends
    Invariant answer holds where
  /-- A stateful set that has been changed selects its pods as the change has it. -/
  given {change : StatefulSet → StatefulSet} {s s' : σ} {id : ObjectId} {set : StatefulSet}
    {outcome : Outcome} (h : Kind.Proper .statefulSet change) (hs : holds s)
    (hrun : (createOrPatch .statefulSet id change).run answer s = (.ok (set, outcome), s'))
    (hchanged : outcome.isChanged) : ∃ live, set.podSelector = (change live).podSelector

/-! ### Passes that ask for no pods -/

/-- The pass asks for no pods, and keeps an invariant. -/
def Quiet (answer : (c : Call) → σ → c.Reply × σ) (holds : σ → Prop) (p : Pass α) : Prop :=
  ∀ s, holds s → queries (p.trace answer s) = [] ∧ holds (p.run answer s).2

lemma Quiet.not_mem {p : Pass α} (hp : Quiet answer holds p) (hs : holds s) :
    query ∉ queries (p.trace answer s) := by
  rw [(hp s hs).1]
  exact List.not_mem_nil

lemma Quiet.of_mem_bind {p : Pass α} {q : α → Pass β} (hp : Quiet answer holds p) (hs : holds s)
    (h : query ∈ queries ((p >>= q).trace answer s)) :
    ∃ value s', p.run answer s = (.ok value, s') ∧ holds s' ∧
      query ∈ queries ((q value).trace answer s') := by
  rcases mem_queries_bind.1 h with hfirst | ⟨value, s', hrun, hsecond⟩
  · exact absurd hfirst (hp.not_mem hs)
  · have hafter := (hp s hs).2
    rw [hrun] at hafter
    exact ⟨value, s', hrun, hafter, hsecond⟩

lemma Quiet.bind {p : Pass α} {q : α → Pass β} (hp : Quiet answer holds p)
    (hq : ∀ value, Quiet answer holds (q value)) : Quiet answer holds (p >>= q) := by
  intro s hs
  refine ⟨List.eq_nil_iff_forall_not_mem.2 fun query hquery => ?_, ?_⟩
  · obtain ⟨value, s', -, hs', hsecond⟩ := hp.of_mem_bind hs hquery
    exact (hq value).not_mem hs' hsecond
  · have hafter := (hp s hs).2
    rw [run_bind]
    cases hrun : p.run answer s with
    | mk result s' =>
      rw [hrun] at hafter
      cases result with
      | ok value => exact (hq value s' hafter).2
      | error error => exact hafter

lemma quiet_pure (value : α) : Quiet answer holds (pure value) := fun _ hs => ⟨rfl, hs⟩

lemma Ended.run_snd {p : Pass α} (h : p.Ended) (s : σ) : (p.run answer s).2 = s := by
  rcases h with ⟨value, rfl⟩ | ⟨error, rfl⟩ <;> rfl

lemma quiet_last {c : Call} {next : c.Reply → Pass α} (hquery : c.query? = none)
    (hkeeps : ∀ s, holds s → holds (answer c s).2) (hnext : ∀ reply, (next reply).Ended) :
    Quiet answer holds (.call c next) := by
  intro s hs
  refine ⟨?_, ?_⟩
  · rw [queries_last hnext, hquery, Option.toList_none]
  · rw [run_call, (hnext _).run_snd]
    exact hkeeps s hs

lemma invariant_true : Invariant answer fun _ => True where
  asked _ _ := trivial
  brought _ _ _ := trivial

section Invariant

variable (h : Invariant answer holds)

include h

lemma quiet_ensureNotCancelled : Quiet answer holds ensureNotCancelled :=
  quiet_last rfl (fun _ => h.asked fun _ => rfl) ended_ensureNotCancelled

lemma quiet_announce (db : Postgres) (what : String) (outcome : Outcome) :
    Quiet answer holds (announce db what outcome) := by
  unfold announce
  split
  · exact quiet_last rfl (fun _ => h.asked fun _ => rfl) fun _ => .inl ⟨(), rfl⟩
  · exact quiet_pure ()

lemma closed_quiet : Closed (Quiet answer holds) where
  of_pure := quiet_pure
  bind := Quiet.bind
  looked := quiet_ensureNotCancelled h
  told := quiet_announce h

lemma quiet_createOrPatch {kind : Kind} {change : kind.Object → kind.Object} (id : ObjectId)
    (hchange : kind.Proper change) : Quiet answer holds (createOrPatch kind id change) := by
  intro s hs
  have hsilent : Quiet answer (fun _ => True) (createOrPatch kind id change) :=
    (closed_quiet invariant_true).createOrPatch
      (quiet_last rfl (fun _ _ => trivial) ended_ofExcept)
      (fun _ => quiet_last rfl (fun _ _ => trivial) ended_ofExcept)
      fun _ => quiet_last rfl (fun _ _ => trivial) ended_ofExcept
  exact ⟨(hsilent s trivial).1, h.brought id hchange hs⟩

lemma quiet_ensureServices (db : Postgres) : Quiet answer holds (ensureServices db) :=
  (closed_quiet h).ensureServices (fun id _ hsteady => quiet_createOrPatch h id hsteady.proper) db

lemma quiet_checkStatefulSet (db : Postgres) : Quiet answer holds (checkStatefulSet db) := by
  rw [checkStatefulSet_eq]
  exact quiet_last rfl (fun _ => h.asked fun _ => rfl) ended_checkFound

lemma quiet_ensureDisruptionBudget (set : StatefulSet) :
    Quiet answer holds (ensureDisruptionBudget set) :=
  (closed_quiet h).ensureDisruptionBudget set fun id =>
    quiet_createOrPatch h id set.steady_disruptionBudget.proper

end Invariant

/-! ### What a pass asks for -/

variable {db : Postgres} {version : PostgresVersion} {options : Options}

lemma queries_awaitStatefulSet (options : Options) (set : StatefulSet) (s : σ) :
    queries ((awaitStatefulSet options set).trace answer s) = [Selector.text set.podSelector] :=
  queries_last ended_ofExcept s

/-- After the stateful set its own pods are asked for, and only where it has changed. -/
lemma isChanged_of_mem_queries {v : StatefulSet × Outcome}
    (h : query ∈ queries ((afterSet db options v).trace answer s)) :
    v.2.isChanged ∧ query = Selector.text v.1.podSelector := by
  rcases mem_queries_bind.1 h with hsettled | ⟨_, s', -, hbudget⟩
  · unfold settleIn at hsettled
    split at hsettled
    · rename_i hchanged
      rcases mem_queries_bind.1 hsettled with hawaited | ⟨_, s', -, htold⟩
      · rw [queries_awaitStatefulSet] at hawaited
        exact ⟨hchanged, List.mem_singleton.1 hawaited⟩
      · have hquiet : Quiet answer (fun _ => True)
            (announce db "StatefulSet" v.2 >>= fun _ => ensureNotCancelled) :=
          (quiet_announce invariant_true _ _ _).bind fun _ =>
            quiet_ensureNotCancelled invariant_true
        exact absurd htold (hquiet.not_mem trivial)
    · exact absurd hsettled ((quiet_ensureNotCancelled invariant_true).not_mem trivial)
  · have hquiet : Quiet answer (fun _ => True)
        (ensureDisruptionBudget v.1 >>= fun _ => (pure v.2 : Pass Outcome)) :=
      (quiet_ensureDisruptionBudget invariant_true v.1).bind fun _ => quiet_pure v.2
    exact absurd hbudget (hquiet.not_mem trivial)

/-- **A pass asks for the pods of its own instance**, and for no others, if the control plane gives
back the selector that it has been asked for. -/
theorem query_eq_selectors (h : Faithful answer holds) (hs : holds s)
    (hquery : query ∈ queries ((reconcile db version options).trace answer s)) :
    query = Selector.text db.selectors := by
  rw [reconcile_eq] at hquery
  obtain ⟨_, s₁, -, hserved, hquery⟩ :=
    (quiet_ensureServices h.toInvariant db).of_mem_bind hs hquery
  rw [ensureStatefulSet_eq] at hquery
  obtain ⟨_, s₂, -, hlooked, hquery⟩ :=
    (quiet_ensureNotCancelled h.toInvariant).of_mem_bind hserved hquery
  rw [bind_assoc] at hquery
  obtain ⟨_, s₃, -, hchecked, hquery⟩ :=
    (quiet_checkStatefulSet h.toInvariant db).of_mem_bind hlooked hquery
  obtain ⟨v, s₄, hrun, -, hquery⟩ :=
    (quiet_createOrPatch h.toInvariant _ Postgres.proper_statefulSet).of_mem_bind hchecked hquery
  obtain ⟨hchanged, rfl⟩ := isChanged_of_mem_queries hquery
  obtain ⟨live, hlive⟩ := h.given Postgres.proper_statefulSet hchecked hrun hchanged
  rw [hlive]
  rfl

lemma faithful_memory : Faithful Memory.answer fun m => Typed m.objects where
  asked {c m} h htyped := by
    cases c with
    | create kind ns object => exact absurd (h (.ok object)) nofun
    | patch kind id ops => exact absurd (h (.ok (kind.blank id))) nofun
    | get | awaitPods | isCancelled | emit => exact htyped
  brought {kind change m} id hchange htyped := by
    rcases run_createOrPatch_cases id hchange htyped with
      ⟨error, hrun⟩ | ⟨object, outcome, after, hrun, heffect⟩
    · rw [hrun]
      exact htyped
    · rw [hrun]
      exact heffect.typed htyped
  given hchange htyped hrun _ := by
    have heffect := effect_of_run hchange.identity htyped hrun
    obtain ⟨-, live, ns, uid, version, rfl⟩ := heffect.holds hchange htyped
    exact ⟨live, rfl⟩

/-- **A query determines its labels.** Selectors of plain keys and values have the same text only if
they are the same, and the labels are read off the text in the order of their bytes; the empty text
has none. So passes over instances whose names are plain and different do not ask for the same pods,
whenever and however often they run, under any control plane that gives back the selectors that it
has been asked for. The one in memory does. -/
theorem query_determines_labels :
    (∀ selector other : Dict String, Selector.Plain selector → Selector.Plain other →
      Selector.text selector = Selector.text other → selector = other) ∧
    (∀ selector : Dict String, Selector.Plain selector →
      Selector.parts (Selector.text selector) = selector.entries.map (fun e => [e.1, e.2]) ∧
      selector.entries.Pairwise fun e f => Text.bytes e.1 < Text.bytes f.1) ∧
    Selector.text .empty = "" ∧ Selector.parts "" = [] ∧
    (∀ {σ : Type} {answer : (c : Call) → σ → c.Reply × σ} {holds : σ → Prop},
      Faithful answer holds →
      ∀ a b : Postgres, Selector.IsPlain a.name → Selector.IsPlain b.name → a.name ≠ b.name →
      ∀ (version version' : PostgresVersion) (options options' : Options) (s s' : σ),
        holds s → holds s' →
      ∀ query ∈ queries ((reconcile a version options).trace answer s),
      ∀ other ∈ queries ((reconcile b version' options').trace answer s'), query ≠ other) ∧
    Faithful Memory.answer fun m => Typed m.objects := by
  refine ⟨fun selector other h hother => Selector.text_injective h hother, fun selector h =>
    ⟨Selector.parts_text h, Selector.pairwise_bytes selector⟩, rfl, rfl, ?_, faithful_memory⟩
  intro σ answer holds hfaithful a b ha hb hne version version' options options' s s' hs hs'
    query hquery other hother heq
  -- Both queries are the texts of selectors that name their instance.
  have hsame : Selector.text a.selectors = Selector.text b.selectors := by
    rw [← query_eq_selectors hfaithful hs hquery, ← query_eq_selectors hfaithful hs' hother, heq]
  exact hne (Postgres.name_eq_of_selectors (Selector.text_injective (Postgres.plain_selectors ha)
    (Postgres.plain_selectors hb) hsame))

/-- Another instance, in the same namespace. -/
def neighbour : Postgres where
  metadata := { name := some "billing", ns := some "demo" }

/-- Labels of which keys and values may be empty. -/
def sparse : Dict String := .ofList [("tier", ""), ("", "db")]

theorem query_determines_labels_sparse :
    Selector.text sparse = "=db,tier=" ∧
    Selector.parts "=db,tier=" = [["", "db"], ["tier", ""]] ∧
    Selector.text sparse ≠ Selector.text neighbour.selectors ∧
    queries ((reconcile migrated {} {}).trace Memory.answer {}) =
      ["kubedb.com/kind=Postgres,kubedb.com/name=db"] ∧
    queries ((reconcile neighbour {} {}).trace Memory.answer {}) =
      ["kubedb.com/kind=Postgres,kubedb.com/name=billing"] ∧
    ∀ query ∈ queries ((reconcile migrated {} {}).trace Memory.answer {}),
      ∀ other ∈ queries ((reconcile neighbour {} {}).trace Memory.answer {}), query ≠ other := by
  obtain ⟨hinjective, hparts, -, -, hpasses, hmemory⟩ := query_determines_labels
  have hmigrated : Selector.IsPlain migrated.name := ⟨by decide, by decide⟩
  have hneighbour : Selector.IsPlain neighbour.name := ⟨by decide, by decide⟩
  have hsparse : Selector.Plain sparse := List.forall_mem_cons.2
    ⟨⟨⟨by decide, by decide⟩, ⟨by decide, by decide⟩⟩, List.forall_mem_singleton.2
      ⟨⟨by decide, by decide⟩, ⟨by decide, by decide⟩⟩⟩
  have hne : sparse ≠ neighbour.selectors := by decide
  refine ⟨by decide, (hparts sparse hsparse).1, ?_, by decide +kernel, by decide +kernel, ?_⟩
  · exact mt (hinjective _ _ hsparse (Postgres.plain_selectors hneighbour)) hne
  · exact hpasses hmemory migrated neighbour hmigrated hneighbour (by decide) {} {} {} {} {} {}
      typed_nil typed_nil

end Pass

end PgOperator
