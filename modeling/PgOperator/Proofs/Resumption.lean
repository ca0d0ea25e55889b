import Mathlib.Tactic.Lemma
import PgOperator.Proofs.Interruption

/-!
Passes that may be resumed.

A pass is `Resumable` if a run that follows one that broke off goes on to the same objects as if
there had been one run only, and if a run that follows one that ended finds nothing to do. For a
pass in two parts this follows from the parts (`Resumable.seq`), as long as these keep to objects
of their own: what the second part writes does not make the first one do anything again.
-/

namespace PgOperator

open Memory

/-- What becomes of a value where everything is as it should be already: an outcome says that
nothing has been changed. -/
class Settle (α : Type) where
  settle : α → α
  settle_settle : ∀ a, settle (settle a) = settle a

open Settle

instance : Settle Unit := ⟨id, fun _ => rfl⟩

instance : Settle Outcome := ⟨fun _ => .unchanged, fun _ => rfl⟩

instance (kind : Kind) : Settle kind.Object := ⟨id, fun _ => rfl⟩

instance : Settle Kube.Service := ⟨id, fun _ => rfl⟩

instance : Settle Kube.StatefulSet := ⟨id, fun _ => rfl⟩

instance : Settle Kube.PodDisruptionBudget := ⟨id, fun _ => rfl⟩

instance {α β : Type} [Settle α] [Settle β] : Settle (α × β) where
  settle v := (settle v.1, settle v.2)
  settle_settle v := by rw [settle_settle, settle_settle]

namespace Pass

variable {α β γ : Type}

/-- Carried out where these objects are stored, and where it is not refused anything, the pass
only reads, gives the value and leaves the control plane as it was. -/
def Idle (p : Pass α) (objects : List (ObjectKey × Json)) (value : α) : Prop :=
  ∀ m : Memory, m.objects = objects → m.failures = [] → m.cancelled = false →
    p.OnlyReads answer m ∧ p.run answer m = (.ok value, m)

/-- What it means that a pass may be resumed. The pass may depend on a value of an earlier one;
`own` are the keys of the objects that it reads and writes. -/
structure Resumable [Settle α] [Settle β] (own : ObjectKey → Prop) (p : α → Pass β) : Prop where
  /-- Objects stay objects of their kinds. -/
  typed : ∀ {v s r s'}, Typed s.objects → (p v).Leaves Stored.answer s r s' → Typed s'.objects
  /-- Other objects stay as they are. -/
  frame : ∀ {v s r s'}, Typed s.objects → (p v).Leaves Stored.answer s r s' → ∀ key, ¬ own key →
    lookup s'.objects key = lookup s.objects key
  /-- What is stored at the end does not depend on what an earlier pass has changed. -/
  agree : ∀ {v v' s w s'}, settle v = settle v' → (p v).run Stored.answer s = (.ok w, s') →
    ∃ w', (p v').run Stored.answer s = (.ok w', s') ∧ settle w' = settle w
  /-- A pass that ends is one that was not refused anything. -/
  complete : ∀ {v s w s'}, Typed s.objects → (p v).Leaves Stored.answer s (.ok w) s' →
    (p v).run Stored.answer s = (.ok w, s')
  /-- After a pass that ends the next one does nothing. -/
  rest : ∀ {v s w s'}, Typed s.objects → (p v).Leaves Stored.answer s (.ok w) s' →
    ∀ objects, (∀ key, own key → lookup objects key = lookup s'.objects key) →
      (p (settle v)).Idle objects (settle w)
  /-- After a pass that broke off the next one ends as if there had been no other. -/
  resume : ∀ {v s e s' w t}, Typed s.objects → (p v).Leaves Stored.answer s (.error e) s' →
    (p v).run Stored.answer s' = (.ok w, t) →
      ∃ w', (p v).run Stored.answer s = (.ok w', t) ∧ settle w' = settle w

lemma idle_call {c : Call} {next : c.Reply → Pass α} {objects : List (ObjectKey × Json)} {value : α}
    (hreads : c.OnlyReads) (hanswer : ∀ m : Memory, m.objects = objects → m.failures = [] →
      m.cancelled = false → next (answer c m).1 = .done value ∧ (answer c m).2 = m) :
    (Pass.call c next).Idle objects value := by
  intro m hobjects hfailures hcancelled
  obtain ⟨hdone, hsame⟩ := hanswer m hobjects hfailures hcancelled
  rw [OnlyReads, run_call, hdone, hsame]
  exact ⟨⟨hreads, trivial⟩, rfl⟩

lemma Idle.run_stored {p : Pass α} {s : Stored} {value : α} (h : p.Idle s.objects value) :
    p.run Stored.answer s = (.ok value, s) := by
  have hfree : s.memory.FailureFree := ⟨rfl, rfl, fun count => Int32.le_refl count⟩
  obtain ⟨-, hrun⟩ := h s.memory rfl rfl rfl
  obtain ⟨hresult, hstored⟩ := hfree.run p
  rw [hrun] at hresult hstored
  exact Prod.ext hresult.symm hstored.symm

lemma Idle.bind {p : Pass α} {q : α → Pass β} {objects : List (ObjectKey × Json)} {v : α} {w : β}
    (hp : p.Idle objects v) (hq : (q v).Idle objects w) : (p >>= q).Idle objects w := by
  intro m hobjects hfailures hcancelled
  obtain ⟨hreads, hrun⟩ := hp m hobjects hfailures hcancelled
  obtain ⟨hthenReads, hthen⟩ := hq m hobjects hfailures hcancelled
  exact ⟨hreads.bind hrun hthenReads, run_bind_of_run hrun hthen⟩

namespace Resumable

variable [Settle α] [Settle β] [Settle γ] {own others : ObjectKey → Prop}

lemma mono {p : α → Pass β} (h : Resumable own p) (hsub : ∀ key, own key → others key) :
    Resumable others p where
  typed := h.typed
  frame htyped hleft key hkey := h.frame htyped hleft key fun hown => hkey (hsub key hown)
  agree := h.agree
  complete := h.complete
  rest htyped hleft objects hobjects := h.rest htyped hleft objects fun key hkey =>
    hobjects key (hsub key hkey)
  resume := h.resume

lemma comap {p : β → Pass γ} (h : Resumable own p) {f : α → β}
    (hf : ∀ v, settle (f v) = f (settle v)) : Resumable own fun v => p (f v) where
  typed := h.typed
  frame := h.frame
  agree hv hrun := h.agree (by rw [hf, hf, hv]) hrun
  complete := h.complete
  rest htyped hleft objects hobjects := hf _ ▸ h.rest htyped hleft objects hobjects
  resume := h.resume

/-- What an atomic pass has done when it ends. -/
structure Done (own : ObjectKey → Prop) (p : α → Pass β) (v : α) (s : Stored) (w : β)
    (s' : Stored) : Prop where
  run : (p v).run Stored.answer s = (.ok w, s')
  typed : Typed s'.objects
  frame : ∀ key, ¬ own key → lookup s'.objects key = lookup s.objects key
  rest : ∀ objects, (∀ key, own key → lookup objects key = lookup s'.objects key) →
    (p (settle v)).Idle objects (settle w)

variable {p : α → Pass β} {q : α → β → Pass γ}

lemma of_atomic (hagree : ∀ {v v' s w s'}, settle v = settle v' →
      (p v).run Stored.answer s = (.ok w, s') →
        ∃ w', (p v').run Stored.answer s = (.ok w', s') ∧ settle w' = settle w)
    (hstep : ∀ {v s r s'}, Typed s.objects → (p v).Leaves Stored.answer s r s' →
      (∃ e, r = .error e ∧ s' = s) ∨ ∃ w, r = .ok w ∧ Done own p v s w s') :
    Resumable own p where
  typed htyped hleft := by
    rcases hstep htyped hleft with ⟨e, -, rfl⟩ | ⟨w, -, hdone⟩
    · exact htyped
    · exact hdone.typed
  frame htyped hleft key hkey := by
    rcases hstep htyped hleft with ⟨e, -, rfl⟩ | ⟨w, -, hdone⟩
    · rfl
    · exact hdone.frame key hkey
  agree := hagree
  complete htyped hleft := by
    rcases hstep htyped hleft with ⟨e, hr, -⟩ | ⟨w, hr, hdone⟩
    · exact absurd hr nofun
    · exact Except.ok.inj hr ▸ hdone.run
  rest htyped hleft := by
    rcases hstep htyped hleft with ⟨e, hr, -⟩ | ⟨w, hr, hdone⟩
    · exact absurd hr nofun
    · exact Except.ok.inj hr ▸ hdone.rest
  resume htyped hleft hrun := by
    rcases hstep htyped hleft with ⟨e, -, rfl⟩ | ⟨w, hr, -⟩
    · exact ⟨_, hrun, rfl⟩
    · exact absurd hr nofun

lemma of_storeless {f : α → β} (hf : ∀ {v v'}, settle v = settle v' → settle (f v) = settle (f v'))
    (hrun : ∀ v s, (p v).run Stored.answer s = (.ok (f v), s))
    (hleaves : ∀ {v s r s'}, (p v).Leaves Stored.answer s r s' →
      s' = s ∧ (r = .ok (f v) ∨ ∃ e, r = .error e))
    (hidle : ∀ v objects, (p (settle v)).Idle objects (settle (f v))) :
    Resumable (fun _ => False) p := by
  refine of_atomic (fun {v v' s w s'} hv h => ?_) fun {v s r s'} htyped hleft => ?_
  · obtain ⟨hw, rfl⟩ := Prod.mk.inj ((hrun v s).symm.trans h)
    obtain rfl := Except.ok.inj hw
    exact ⟨f v', hrun v' s, hf hv.symm⟩
  · obtain ⟨rfl, rfl | ⟨e, rfl⟩⟩ := hleaves hleft
    · exact .inr ⟨f v, rfl, hrun v _, htyped, fun _ _ => rfl, fun objects _ => hidle v objects⟩
    · exact .inl ⟨e, rfl, rfl⟩

lemma agree_second (hq : Resumable others fun v : α × β => q v.1 v.2) {v v' : α} {x x' : β}
    {s t : Stored} {w : γ} (hv : settle v = settle v') (hx : settle x = settle x')
    (hrun : (q v x).run Stored.answer s = (.ok w, t)) :
    ∃ w', (q v' x').run Stored.answer s = (.ok w', t) ∧ settle w' = settle w := by
  have hboth : settle (v, x) = settle (v', x') := Prod.ext hv hx
  exact hq.agree hboth hrun

/-- After a second part that keeps to other objects, the first one does nothing again. -/
lemma run_again (hp : Resumable own p) (hq : Resumable others fun v : α × β => q v.1 v.2)
    (hother : ∀ key, own key → ¬ others key) {v : α} {s mid s' : Stored} {w : β}
    {r : Except Error γ} (htyped : Typed s.objects)
    (hfirst : (p v).Leaves Stored.answer s (.ok w) mid)
    (hsecond : (q v w).Leaves Stored.answer mid r s') :
    ∃ w', (p v).run Stored.answer s' = (.ok w', s') ∧ settle w' = settle w := by
  have hframe : ∀ key, own key → lookup s'.objects key = lookup mid.objects key := fun key hkey =>
    hq.frame (v := (v, w)) (hp.typed htyped hfirst) hsecond key (hother key hkey)
  have hidle := (hp.rest htyped hfirst s'.objects hframe).run_stored
  obtain ⟨w', hrun, hw⟩ := hp.agree (settle_settle v) hidle
  exact ⟨w', hrun, hw.trans (settle_settle w)⟩

/-- **Two parts**: a pass in two parts may be resumed if each of them may be and neither touches
the objects of the other one. -/
theorem seq (hp : Resumable own p) (hq : Resumable others fun v : α × β => q v.1 v.2)
    (hother : ∀ key, own key → ¬ others key) :
    Resumable (fun key => own key ∨ others key) fun v => p v >>= q v where
  typed htyped hleft := by
    rcases leaves_bind hleft with ⟨error, -, hfirst⟩ | ⟨w, mid, hfirst, hsecond⟩
    · exact hp.typed htyped hfirst
    · exact hq.typed (v := (_, w)) (hp.typed htyped hfirst) hsecond
  frame htyped hleft key hkey := by
    obtain ⟨hown, hothers⟩ := not_or.1 hkey
    rcases leaves_bind hleft with ⟨error, -, hfirst⟩ | ⟨w, mid, hfirst, hsecond⟩
    · exact hp.frame htyped hfirst key hown
    · exact (hq.frame (v := (_, w)) (hp.typed htyped hfirst) hsecond key hothers).trans
        (hp.frame htyped hfirst key hown)
  agree hv hrun := by
    obtain ⟨x, mid, hfirst, hsecond⟩ := of_run_bind hrun
    obtain ⟨x', hfirst', hx⟩ := hp.agree hv hfirst
    obtain ⟨w', hsecond', hw⟩ := agree_second hq hv hx.symm hsecond
    exact ⟨w', run_bind_of_run hfirst' hsecond', hw⟩
  complete htyped hleft := by
    rcases leaves_bind hleft with ⟨error, hr, -⟩ | ⟨x, mid, hfirst, hsecond⟩
    · exact absurd hr nofun
    · exact run_bind_of_run (hp.complete htyped hfirst)
        (hq.complete (v := (_, x)) (hp.typed htyped hfirst) hsecond)
  rest htyped hleft objects hobjects := by
    rcases leaves_bind hleft with ⟨error, hr, -⟩ | ⟨x, mid, hfirst, hsecond⟩
    · exact absurd hr nofun
    · -- The second part has left the objects of the first one as they were.
      have hframe : ∀ key, own key → lookup objects key = lookup mid.objects key := fun key hkey =>
        (hobjects key (.inl hkey)).trans
          (hq.frame (v := (_, x)) (hp.typed htyped hfirst) hsecond key (hother key hkey))
      have hidle := hp.rest htyped hfirst objects hframe
      exact hidle.bind (hq.rest (v := (_, x)) (hp.typed htyped hfirst) hsecond objects
        fun key hkey => hobjects key (.inr hkey))
  resume {v} {s} {e} {s'} {w} {t} htyped hleft hrun := by
    obtain ⟨x, mid, hagain, hthen⟩ := of_run_bind hrun
    rcases leaves_bind hleft with ⟨error, -, hfirst⟩ | ⟨y, between, hfirst, hsecond⟩
    · -- The first part broke off: it goes on, and the second part starts where it ends.
      obtain ⟨x', hrun', hx⟩ := hp.resume htyped hfirst hagain
      obtain ⟨w', hthen', hw⟩ := agree_second hq rfl hx.symm hthen
      exact ⟨w', run_bind_of_run hrun' hthen', hw⟩
    · -- The second part broke off: the first one does nothing again, and the second one goes on.
      obtain ⟨x', hrun', hx⟩ := run_again hp hq hother htyped hfirst hsecond
      obtain ⟨hvalue, rfl⟩ := Prod.mk.inj (hagain.symm.trans hrun')
      obtain rfl := Except.ok.inj hvalue
      obtain ⟨z, hthen', hz⟩ := agree_second hq rfl hx hthen
      obtain ⟨w', hend, hw⟩ :=
        hq.resume (v := (v, y)) (hp.typed htyped hfirst) hsecond hthen'
      exact ⟨w', run_bind_of_run (hp.complete htyped hfirst) hend, hw.trans hz⟩

lemma andThen {p : Pass β} {q : β → Pass γ} (hp : Resumable own fun _ : Unit => p)
    (hq : Resumable others q) (hother : ∀ key, own key → ¬ others key) :
    Resumable (fun key => own key ∨ others key) fun _ : Unit => p >>= q :=
  seq hp (hq.comap (f := Prod.snd) fun _ => rfl) hother

end Resumable

end Pass

end PgOperator
