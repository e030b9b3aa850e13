import ComponentContainer.Session
import Mathlib.Tactic.Lemma

/-! Postconditions of computations that may fail, one for each of the two ways to end. -/

namespace ComponentContainer.Act

variable {σ ε ε' α β : Type} {m : Act σ ε α} {f : α → Act σ ε β} {s : σ}

lemma bind_run : (m >>= f) s = match m s with
    | (.ok a, t) => f a t
    | (.error e, t) => (.error e, t) := by
  change (match m s with | (r, t) => ExceptT.bindCont f r t) = _
  rcases m s with ⟨a | e, t⟩ <;> rfl

lemma bind_run_ok {a : α} {t : σ} (h : m s = (.ok a, t)) : (m >>= f) s = f a t := by
  rw [bind_run, h]

lemma bind_run_congr {g : α → Act σ ε β} (h : ∀ a t, m s = (.ok a, t) → f a t = g a t) :
    (m >>= f) s = (m >>= g) s := by
  rw [bind_run, bind_run]
  split
  · exact h _ _ ‹_›
  · rfl

lemma exists_of_bind_ok {b : β} {t : σ} (h : (m >>= f) s = (.ok b, t)) :
    ∃ a u, m s = (.ok a, u) ∧ f a u = (.ok b, t) := by
  rw [bind_run] at h
  split at h
  · exact ⟨_, _, ‹_›, h⟩
  · cases h

lemma exists_of_map_ok {g : α → β} {b : β} (h : (m s).1.map g = .ok b) :
    ∃ a t, m s = (.ok a, t) ∧ g a = b := by
  rcases hm : m s with ⟨e | a, t⟩
  · rw [hm] at h
    cases h
  · rw [hm] at h
    exact ⟨a, t, rfl, Except.ok.inj h⟩

lemma adapt_run (g : ε → ε') : (m.adapt g) s = ((m s).1.mapError g, (m s).2) := rfl

lemma adapt_eq_ok {g : ε → ε'} {a : α} {t : σ} (h : (m.adapt g) s = (.ok a, t)) :
    m s = (.ok a, t) := by
  rw [adapt_run] at h
  rcases hm : m s with ⟨e | b, u⟩
  · rw [hm] at h
    cases h
  · rw [hm] at h
    cases h
    rfl

lemma discard_eq (m : Act σ ε α) : discard m = m >>= fun _ => pure () := by
  change Functor.mapConst () m = _
  rw [map_const, Function.comp_apply, map_eq_pure_bind]

lemma tryCatch_run (h : ε → Act σ ε α) : (tryCatch m h) s = match m s with
    | (.ok a, t) => (.ok a, t)
    | (.error e, t) => h e t := by
  have hbind : (tryCatch m h) s = ExceptT.tryCatch m h s := rfl
  rw [hbind]
  unfold ExceptT.tryCatch ExceptT.mk
  simp only [bind, StateT.bind]
  rcases m s with ⟨a | e, t⟩ <;> rfl

lemma observing_run : observing m s = (.ok (m s).1, (m s).2) := by
  unfold observing
  rw [tryCatch_run, bind_run]
  rcases m s with ⟨e | a, t⟩ <;> rfl

/-- Run from `s`, the computation ends with a value and a state in `Q`, or with an error and a
state in `E`. -/
def Ends (m : Act σ ε α) (s : σ) (Q : α → σ → Prop) (E : ε → σ → Prop) : Prop :=
  match m s with
  | (.ok a, t) => Q a t
  | (.error e, t) => E e t

abbrev Yields (m : Act σ ε α) (s : σ) (Q : α → σ → Prop) : Prop := Ends m s Q fun _ _ => True

section

variable {Q Q' : α → σ → Prop} {E E' : ε → σ → Prop}

lemma ends_of (hok : ∀ a t, m s = (.ok a, t) → Q a t)
    (herr : ∀ e t, m s = (.error e, t) → E e t) : Ends m s Q E := by
  unfold Ends
  split
  · exact hok _ _ ‹_›
  · exact herr _ _ ‹_›

lemma Ends.ok {a : α} {t : σ} (h : Ends m s Q E) (hm : m s = (.ok a, t)) : Q a t := by
  simpa only [Ends, hm] using h

lemma Ends.error {e : ε} {t : σ} (h : Ends m s Q E) (hm : m s = (.error e, t)) : E e t := by
  simpa only [Ends, hm] using h

lemma ends_self : Ends m s (fun a t => m s = (.ok a, t)) fun e t => m s = (.error e, t) :=
  ends_of (fun _ _ => id) (fun _ _ => id)

lemma ends_true : Yields m s fun _ _ => True :=
  ends_of (fun _ _ _ => trivial) (fun _ _ _ => trivial)

lemma Ends.mono (h : Ends m s Q' E') (hQ : ∀ a t, Q' a t → Q a t)
    (hE : ∀ e t, E' e t → E e t) : Ends m s Q E :=
  ends_of (fun a t hm => hQ a t (h.ok hm)) (fun e t hm => hE e t (h.error hm))

lemma Ends.and (h : Ends m s Q E) (h' : Ends m s Q' E') :
    Ends m s (fun a t => Q a t ∧ Q' a t) (fun e t => E e t ∧ E' e t) :=
  ends_of (fun _ _ hm => ⟨h.ok hm, h'.ok hm⟩) (fun _ _ hm => ⟨h.error hm, h'.error hm⟩)

lemma ends_pure {a : α} (h : Q a s) : Ends (pure a : Act σ ε α) s Q E := h

lemma Ends.tryCatch {h : ε → Act σ ε α} (hm : Ends m s Q E')
    (hh : ∀ e t, E' e t → Ends (h e) t Q E) : Ends (tryCatch m h) s Q E := by
  have hrun := tryCatch_run (m := m) (s := s) h
  unfold Ends at hm ⊢
  rw [hrun]
  split at hm
  · simp only [*]
  · simpa only [Ends, *] using hh _ _ hm

end

section

variable {Q : β → σ → Prop} {E E' : ε → σ → Prop} {R : α → σ → Prop}

lemma Ends.bind (h : Ends m s R E') (hok : ∀ a t, R a t → Ends (f a) t Q E)
    (herr : ∀ e t, E' e t → E e t) : Ends (m >>= f) s Q E := by
  have hrun := bind_run (m := m) (f := f) (s := s)
  unfold Ends at h ⊢
  rw [hrun]
  split at h
  · simpa only [Ends, *] using hok _ _ h
  · simp only [*]

lemma Ends.bind_pure {g : α → β} (h : Ends m s (fun a t => Q (g a) t) E) :
    Ends (m >>= fun a => pure (g a)) s Q E :=
  h.bind (fun _ _ => id) (fun _ _ => id)

lemma ends_pure_bind {a : α} (h : Ends (f a) s Q E) : Ends (pure a >>= f) s Q E := h

lemma ends_get_bind {f : σ → Act σ ε β} (h : Ends (f s) s Q E) : Ends (get >>= f) s Q E := h

lemma ends_modify_bind {g : σ → σ} {f : Unit → Act σ ε β} (h : Ends (f ()) (g s) Q E) :
    Ends (modify g >>= f) s Q E := h

lemma ends_lift_bind {x : StateM σ α} (h : Ends (f (x s).1) (x s).2 Q E) :
    Ends (liftM x >>= f) s Q E := h

end

lemma Ends.adapt {Q : α → σ → Prop} {E : ε → σ → Prop} {E' : ε' → σ → Prop} {g : ε → ε'}
    (h : Ends m s Q E) (hE : ∀ e t, E e t → E' (g e) t) : Ends (m.adapt g) s Q E' := by
  unfold Ends at h ⊢
  rw [adapt_run]
  rcases hm : m s with ⟨e | a, t⟩
  · simp only [hm] at h
    exact hE e t h
  · simp only [hm] at h
    exact h

lemma Ends.adapt_const {Q : α → σ → Prop} {I : σ → Prop} {g : ε → ε'}
    (h : Ends m s Q fun _ t => I t) : Ends (m.adapt g) s Q fun _ t => I t :=
  h.adapt fun _ _ ht => ht

namespace Yields

lemma mono {Q Q' : α → σ → Prop} (h : Yields m s Q') (hQ : ∀ a t, Q' a t → Q a t) : Yields m s Q :=
  Ends.mono h hQ fun _ _ => id

lemma bind {Q : β → σ → Prop} {R : α → σ → Prop} (h : Yields m s R)
    (hok : ∀ a t, R a t → Yields (f a) t Q) : Yields (m >>= f) s Q :=
  Ends.bind h hok fun _ _ => id

lemma adapt {Q : α → σ → Prop} {g : ε → ε'} (h : Yields m s Q) : Yields (m.adapt g) s Q :=
  Ends.adapt h fun _ _ => id

end Yields

abbrev Stays (m : Act σ ε α) (s : σ) (I : σ → Prop) : Prop :=
  Ends m s (fun _ => I) (fun _ => I)

lemma stays_of {I : σ → Prop} (h : I (m s).2) : Stays m s I :=
  ends_of (fun _ _ hm => by rwa [hm] at h) (fun _ _ hm => by rwa [hm] at h)

lemma Ends.state {I : σ → Prop} (h : Stays m s I) : I (m s).2 := by
  unfold Stays Ends at h
  split at h
  · simpa only [‹m s = _›] using h
  · simpa only [‹m s = _›] using h

end ComponentContainer.Act
