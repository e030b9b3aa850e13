import ComponentContainer.Proofs.Outcome

/-! Computations on two kinds of states that keep step with each other: from related states they
come to related values, or fail alike, and end in related states. -/

namespace ComponentContainer.Act

variable {σ τ ε ε' α α' β β' : Type} {R : τ → σ → Prop} {V : α' → α → Prop} {W : β' → β → Prop}

def Alike (V : α' → α → Prop) : Except ε α' → Except ε α → Prop
  | .ok a', .ok a => V a' a
  | .error e', .error e => e' = e
  | _, _ => False

lemma Alike.error_eq {x' : Except ε α'} {e : ε} (h : Alike V x' (.error e)) : x' = .error e := by
  rcases x' with e' | a'
  · exact congrArg Except.error h
  · exact h.elim

lemma Alike.exists_ok {x' : Except ε α'} {a : α} (h : Alike V x' (.ok a)) :
    ∃ a', x' = .ok a' ∧ V a' a := by
  rcases x' with e' | a'
  · exact h.elim
  · exact ⟨a', rfl, h⟩

lemma Alike.mono {V' : α' → α → Prop} {x' : Except ε α'} {x : Except ε α} (h : Alike V x' x)
    (hV : ∀ a' a, V a' a → V' a' a) : Alike V' x' x := by
  rcases x with e | a
  · rw [h.error_eq]
    exact rfl
  · obtain ⟨a', rfl, ha⟩ := h.exists_ok
    exact hV a' a ha

lemma alike_self {V : α → α → Prop} {x : Except ε α} (h : ∀ a, x = .ok a → V a a) :
    Alike V x x := by
  rcases x with e | a
  · exact rfl
  · exact h a rfl

lemma alike_refl (x : Except ε α) : Alike Eq x x := alike_self fun _ _ => rfl

lemma Alike.eq {x' x : Except ε α} (h : Alike Eq x' x) : x' = x := by
  rcases x with e | a
  · exact h.error_eq
  · obtain ⟨a', rfl, rfl⟩ := h.exists_ok
    rfl

def Agree (R : τ → σ → Prop) (x' : StateM τ α) (x : StateM σ α) : Prop :=
  ∀ s' s, R s' s → (x' s').1 = (x s).1 ∧ R (x' s').2 (x s).2

abbrev Meets (R : τ → σ → Prop) (V : α' → α → Prop) (p' : Except ε α' × τ) (p : Except ε α × σ) :
    Prop :=
  Alike V p'.1 p.1 ∧ R p'.2 p.2

def Simulates (R : τ → σ → Prop) (V : α' → α → Prop) (m' : Act τ ε α') (m : Act σ ε α) : Prop :=
  ∀ s' s, R s' s → Alike V (m' s').1 (m s).1 ∧ R (m' s').2 (m s).2

abbrev Matches (R : τ → σ → Prop) (m' : Act τ ε α) (m : Act σ ε α) : Prop :=
  Simulates R Eq m' m

section

variable {m' : Act τ ε α'} {m : Act σ ε α} {f' : α' → Act τ ε β'} {f : α → Act σ ε β}

lemma simulates_pure {a' : α'} {a : α} (h : V a' a) :
    Simulates R V (pure a' : Act τ ε α') (pure a : Act σ ε α) :=
  fun _ _ hR => ⟨h, hR⟩

lemma matches_pure (a : α) : Matches R (pure a : Act τ ε α) (pure a) := simulates_pure rfl

lemma simulates_throw (e : ε) : Simulates R V (throw e : Act τ ε α') (throw e : Act σ ε α) :=
  fun _ _ hR => ⟨rfl, hR⟩

lemma Simulates.mono {V' : α' → α → Prop} (h : Simulates R V m' m)
    (hV : ∀ a' a, V a' a → V' a' a) : Simulates R V' m' m :=
  fun s' s hR => ⟨(h s' s hR).1.mono hV, (h s' s hR).2⟩

lemma Meets.bind {s' : τ} {s : σ} (hm : Meets R V (m' s') (m s))
    (hf : ∀ a' a t' t, m' s' = (.ok a', t') → V a' a → R t' t → Meets R W (f' a' t') (f a t)) :
    Meets R W ((m' >>= f') s') ((m >>= f) s) := by
  rw [bind_run, bind_run]
  revert hm hf
  rcases m' s' with ⟨x', t'⟩
  rcases m s with ⟨e | a, t⟩
  · rintro ⟨halike, ht⟩ -
    obtain rfl : x' = .error e := halike.error_eq
    exact ⟨rfl, ht⟩
  · rintro ⟨halike, ht⟩ hf
    obtain ⟨a', rfl, ha⟩ := halike.exists_ok
    exact hf a' a t' t rfl ha ht

lemma Simulates.bind (hm : Simulates R V m' m)
    (hf : ∀ a' a, V a' a → Simulates R W (f' a') (f a)) :
    Simulates R W (m' >>= f') (m >>= f) :=
  fun s' s hR => Meets.bind (hm s' s hR) fun a' a t' t _ ha => hf a' a ha t' t

lemma Matches.bind {m' : Act τ ε α} {f' : α → Act τ ε β'} (hm : Matches R m' m)
    (hf : ∀ a, Simulates R W (f' a) (f a)) : Simulates R W (m' >>= f') (m >>= f) :=
  Simulates.bind hm fun a' _ h => h ▸ hf a'

lemma Meets.tryCatch {h' : ε → Act τ ε α'} {h : ε → Act σ ε α} {s' : τ} {s : σ}
    (hm : Meets R V (m' s') (m s)) (hh : ∀ e, Simulates R V (h' e) (h e)) :
    Meets R V ((tryCatch m' h') s') ((tryCatch m h) s) := by
  rw [tryCatch_run, tryCatch_run]
  revert hm
  rcases m' s' with ⟨x', t'⟩
  rcases m s with ⟨e | a, t⟩
  · rintro ⟨halike, ht⟩
    obtain rfl : x' = .error e := halike.error_eq
    exact hh e t' t ht
  · rintro ⟨halike, ht⟩
    obtain ⟨a', rfl, ha⟩ := halike.exists_ok
    exact ⟨ha, ht⟩

lemma Simulates.tryCatch {h' : ε → Act τ ε α'} {h : ε → Act σ ε α} (hm : Simulates R V m' m)
    (hh : ∀ e, Simulates R V (h' e) (h e)) :
    Simulates R V (tryCatch m' h') (tryCatch m h) :=
  fun s' s hR => Meets.tryCatch (hm s' s hR) hh

lemma Meets.adapt {s' : τ} {s : σ} (hm : Meets R V (m' s') (m s)) (g : ε → ε') :
    Meets R V ((m'.adapt g) s') ((m.adapt g) s) := by
  obtain ⟨halike, ht⟩ := hm
  rw [adapt_run, adapt_run]
  refine ⟨?_, ht⟩
  generalize (m s).1 = x at halike ⊢
  rcases x with e | a
  · rw [halike.error_eq]
    exact rfl
  · obtain ⟨a', ha', ha⟩ := halike.exists_ok
    rw [ha']
    exact ha

lemma Simulates.adapt (hm : Simulates R V m' m) (g : ε → ε') :
    Simulates R V (m'.adapt g) (m.adapt g) :=
  fun s' s hR => Meets.adapt (hm s' s hR) g

lemma Matches.observing {m' : Act τ ε α} (hm : Matches R m' m) :
    Matches R (observing m') (observing m) := by
  intro s' s hR
  obtain ⟨halike, ht⟩ := hm s' s hR
  rw [observing_run, observing_run]
  exact ⟨halike.eq, ht⟩

lemma simulates_get_bind {f' : τ → Act τ ε α'} {f : σ → Act σ ε α}
    (hf : ∀ s' s, R s' s → Simulates R V (f' s') (f s)) :
    Simulates R V (get >>= f') (get >>= f) :=
  fun s' s hR => hf s' s hR s' s hR

lemma simulates_get_bind_of {f' : τ → Act τ ε α'} {f : σ → Act σ ε α}
    (hf : ∀ s' s, R s' s → ∃ g : Act σ ε α, f s s = g s ∧ Simulates R V (f' s') g) :
    Simulates R V (get >>= f') (get >>= f) := by
  intro s' s hR
  obtain ⟨g, hg, hsimulates⟩ := hf s' s hR
  have hrun : (get >>= f) s = g s := hg
  rw [hrun]
  exact hsimulates s' s hR

lemma simulates_ite {p : Prop} [Decidable p] {n' : Act τ ε α'} {n : Act σ ε α}
    (hm : Simulates R V m' m) (hn : Simulates R V n' n) :
    Simulates R V (if p then m' else n') (if p then m else n) := by
  split
  · exact hm
  · exact hn

lemma simulates_lift {x' : StateM τ α'} {x : StateM σ α}
    (h : ∀ s' s, R s' s → V (x' s').1 (x s).1 ∧ R (x' s').2 (x s).2) :
    Simulates R V (liftM x' : Act τ ε α') (liftM x) := h

lemma agree_get_bind {g' : τ → StateM τ α} {g : σ → StateM σ α}
    (hg : ∀ s' s, R s' s → Agree R (g' s') (g s)) : Agree R (get >>= g') (get >>= g) :=
  fun s' s hR => hg s' s hR s' s hR

lemma Agree.matches {x' : StateM τ α} {x : StateM σ α} (h : Agree R x' x) :
    Matches R (liftM x' : Act τ ε α) (liftM x) := h

end

section

variable {I : σ → Prop} {Q : α → Prop} {m : Act σ ε α}

lemma simulates_self (h : ∀ s, I s → Ends m s (fun a t => Q a ∧ I t) fun _ t => I t) :
    Simulates (fun s' s => s' = s ∧ I s) (fun a' a => a' = a ∧ Q a) m m := by
  rintro s' s ⟨rfl, hI⟩
  have hs := h s' hI
  refine ⟨alike_self fun a ha => ⟨rfl, (hs.ok (Prod.ext ha rfl)).1⟩, rfl, ?_⟩
  cases hrun : (m s').1 with
  | ok a => exact (hs.ok (Prod.ext hrun rfl)).2
  | error e => exact hs.error (Prod.ext hrun rfl)

lemma matches_self (h : ∀ s, I s → I (m s).2) : Matches (fun s' s => s' = s ∧ I s) m m := by
  rintro s' s ⟨rfl, hI⟩
  exact ⟨alike_refl _, rfl, h s' hI⟩

lemma agree_self {x : StateM σ α} (h : ∀ s, I s → I (x s).2) :
    Agree (fun s' s => s' = s ∧ I s) x x := by
  rintro s' s ⟨rfl, hI⟩
  exact ⟨rfl, rfl, h s' hI⟩

end

end ComponentContainer.Act

namespace ComponentContainer.Session

open Act

lemma simulates_ofExcept {R : Session → Session → Prop} {ε α α' : Type} {V : α' → α → Prop}
    {x' : Except ε α'} {x : Except ε α} (h : Alike V x' x) :
    Simulates R V (ofExcept x') (ofExcept x) := by
  rcases x with e | a
  · rw [h.error_eq]
    exact simulates_throw e
  · obtain ⟨a', rfl, ha⟩ := h.exists_ok
    exact simulates_pure ha

end ComponentContainer.Session
