import ComponentContainer.Proofs.History
import ComponentContainer.Proofs.Outcome

/-! Relations that whatever is asked of a session goes along. A creation starts and ends in one step
of the relation, with the work of its factory and then the work of its hooks in between; so such a
relation may tell what a creation has stored, and that it is over. The requests to a registry go
along every such relation. -/

namespace ComponentContainer.Session

variable {lib : Catalog} {P : Extension → Prop} {A : String → Session → Session → Prop}
  {L : Session → Session → Prop} {ε ε' α β : Type} {s t : Session}

structure Writes (A : Session → Session → Prop) : Prop where
  refl (s : Session) : A s s
  trans {s t u : Session} : A s t → A t u → A s u
  write {s t : Session} : t.registry = s.registry → t.reports = s.reports →
    t.listeners = s.listeners → s.nextStamp ≤ t.nextStamp → A s t

structure Asides (name : String) (A : Session → Session → Prop) : Prop extends Writes A where
  registry_eq {s t : Session} : A s t → t.registry = s.registry
  report {s : Session} {entry : PipelineEntry} {target : Nat} (report : Report) :
    entry ∈ s.registry.pipeline → entry.extension.behaviour = .eligibilityChecker target →
      report.checker = entry.extension.stamp → s.registry.pipeline.length < target →
      A s { s with reports := s.reports ++ [report] }
  detect {s : Session} {e : Extension} : e.behaviour.isListener = true →
    (∀ p ∈ s.listeners, p.1 ≠ name) → A s { s with listeners := s.listeners ++ [(name, e)] }

structure Passage (lib : Catalog) (P : Extension → Prop) (A : String → Session → Session → Prop)
    (L : Session → Session → Prop) : Prop where
  asides (name : String) : Asides name (A name)
  refl (s : Session) : L s s
  trans {s t u : Session} : L s t → L t u → L s u
  held {s t : Session} : L s t → s.registry.Held P → t.registry.Held P
  write {s t : Session} : t.registry = s.registry → t.reports = s.reports →
    t.listeners = s.listeners → s.nextStamp ≤ t.nextStamp → L s t
  amend (s : Session) (name : String) {f : Definition → Definition} :
    (∀ d, (f d).core = d.core) → L s { s with registry := s.registry.amend name f }
  invalidate (s : Session) : L s { s with registry := s.registry.invalidate }
  destroy (s : Session) : L s { s with registry := s.registry.destroySingletons }
  register {s : Session} {r : Registry} (entry : Nat) :
    s.registry.register ⟨lib.blueprint entry, s.nextStamp⟩ = .ok r →
      L s { s with registry := r, nextStamp := s.nextStamp + 1 }
  remove {s : Session} {d : Definition} {r : Registry} (name : String) :
    s.registry.remove name = .ok (d, r) → L s { s with registry := r }
  addToPipeline {s : Session} {r : Registry} (name : String) {e : Extension} : P e →
    s.registry.addToPipeline name e = .ok r → L s { s with registry := r }
  arm {s : Session} {r : Registry} (name : String) (target : Nat) :
    s.registry.addToPipeline name ⟨s.nextStamp, .eligibilityChecker target⟩ = .ok r →
      L s { s with registry := r, nextStamp := s.nextStamp + 1 }
  fail {s u t : Session} {r : Registry} {d : Definition} {name : String} :
    name ∉ s.registry.inCreation → s.registry.singleton? name = none →
      (s.registry.beginCreation name).snapshot name = .ok (d, r) →
      L { s with registry := r } u → A name u t →
      L s { t with registry := t.registry.endCreation name }
  finish {s u t : Session} {r : Registry} {d : Definition} {name : String} {i : Instance}
    {depth : Nat} : name ∉ s.registry.inCreation → s.registry.singleton? name = none →
      (s.registry.beginCreation name).snapshot name = .ok (d, r) →
      L { s with registry := r } u → A name u t → i.Admits P →
      Creation.complete lib (Creation.resolveWithin lib depth) name d { s with registry := r } =
        (.ok i, t) →
      L s { t with registry := (t.registry.endCreation name).store name i }

def Goes (P : Extension → Prop) (L : Session → Session → Prop) (Q : α → Prop)
    (m : Act Session ε α) : Prop :=
  ∀ s, s.registry.Held P → Act.Ends m s (fun a t => Q a ∧ L s t) (fun _ t => L s t)

section

variable {Q : α → Prop} {Q' : β → Prop} {m : Act Session ε α} {f : α → Act Session ε β}

lemma Goes.along {s : Session} (h : Goes P L Q m) (hs : s.registry.Held P) : L s (m s).2 :=
  Act.Ends.state ((h s hs).mono (fun _ _ ht => ht.2) (fun _ _ => id))

lemma Goes.along_ok {s t : Session} {a : α} (h : Goes P L Q m) (hs : s.registry.Held P)
    (hm : m s = (.ok a, t)) : L s t :=
  ((h s hs).ok hm).2

lemma Goes.adapt {g : ε → ε'} (hm : Goes P L Q m) : Goes P L Q (m.adapt g) :=
  fun s hs => (hm s hs).adapt fun _ _ => id

lemma goes_get_bind {f : Session → Act Session ε β}
    (hf : ∀ s, s.registry.Held P → Goes P L Q' (f s)) : Goes P L Q' (get >>= f) :=
  fun s hs => hf s hs s hs

lemma goes_ite {p : Prop} [Decidable p] {n : Act Session ε α} (hm : Goes P L Q m)
    (hn : Goes P L Q n) : Goes P L Q (if p then m else n) := by
  split
  · exact hm
  · exact hn

lemma goes_lift {x : StateM Session α} (h : ∀ s : Session, Q (x s).1 ∧ L s (x s).2) :
    Goes P L Q (liftM x : Act Session ε α) := fun s _ => h s

lemma goes_of_along {x : StateM Session α} (h : ∀ s : Session, L s (x s).2) :
    Goes P L (fun _ => True) (liftM x : Act Session ε α) := goes_lift fun s => ⟨trivial, h s⟩

end

namespace Writes

variable {A : Session → Session → Prop} (hA : Writes A)

include hA

lemma fresh (s : Session) : A s (Session.fresh s).2 := hA.write rfl rfl rfl (Nat.le_succ _)

lemma note (e : Entry) (s : Session) : A s (Session.note e s).2 :=
  hA.write rfl rfl rfl (Nat.le_refl _)

lemma record (level : Level) (message : String) (s : Session) :
    A s (Session.record level message s).2 :=
  hA.write rfl rfl rfl (Nat.le_refl _)

end Writes

namespace Passage

variable (hL : Passage lib P A L) {Q : α → Prop} {Q' : β → Prop} {m : Act Session ε α}
  {f : α → Act Session ε β}

include hL

lemma pure {a : α} (h : Q a) : Goes P L Q (pure a : Act Session ε α) :=
  fun s _ => ⟨h, hL.refl s⟩

lemma throw (e : ε) : Goes P L Q (throw e : Act Session ε α) := fun s _ => hL.refl s

lemma bind (hm : Goes P L Q m) (hf : ∀ a, Q a → Goes P L Q' (f a)) : Goes P L Q' (m >>= f) := by
  intro s hs
  refine (hm s hs).bind (fun a u ⟨ha, hu⟩ => ?_) (fun _ _ => id)
  exact (hf a ha u (hL.held hu hs)).mono (fun _ _ ⟨hb, ht⟩ => ⟨hb, hL.trans hu ht⟩)
    (fun _ _ ht => hL.trans hu ht)

lemma tryCatch {h : ε → Act Session ε α} (hm : Goes P L Q m) (hh : ∀ e, Goes P L Q (h e)) :
    Goes P L Q (tryCatch m h) := by
  intro s hs
  refine (hm s hs).tryCatch fun e u hu => ?_
  exact (hh e u (hL.held hu hs)).mono (fun _ _ ⟨ha, ht⟩ => ⟨ha, hL.trans hu ht⟩)
    (fun _ _ ht => hL.trans hu ht)

lemma discard (hm : Goes P L Q m) : Goes P L (fun _ => True) (discard m) := by
  rw [Act.discard_eq]
  exact hL.bind hm fun _ _ => hL.pure trivial

lemma fresh (s : Session) : L s (Session.fresh s).2 := hL.write rfl rfl rfl (Nat.le_succ _)

lemma note (e : Entry) (s : Session) : L s (Session.note e s).2 :=
  hL.write rfl rfl rfl (Nat.le_refl _)

lemma record (level : Level) (message : String) (s : Session) :
    L s (Session.record level message s).2 :=
  hL.write rfl rfl rfl (Nat.le_refl _)

lemma invalidates (s : Session) : L s (Session.invalidate s).2 :=
  hL.trans (hL.invalidate s) (hL.record _ _ _)

lemma destroys (s : Session) : L s (destroySingletons s).2 :=
  hL.trans (hL.destroy s) (hL.record _ _ _)

lemma amends (name : String) {f : Definition → Definition} (hf : ∀ d, (f d).core = d.core) :
    Goes P L (fun _ => True) (liftM (Session.amend name f) : Act Session ε Bool) :=
  goes_of_along fun s => hL.amend s name hf

lemma registers (entry : Nat) :
    Goes P L (fun _ => True) (do Session.register (← (lib.blueprint entry).build)) := by
  intro s hs
  refine Act.ends_lift_bind (Act.ends_get_bind ?_)
  change Act.Ends (ofExcept (s.registry.register ⟨lib.blueprint entry, s.nextStamp⟩) >>= _) _ _ _
  cases hr : s.registry.register ⟨lib.blueprint entry, s.nextStamp⟩ with
  | error e => exact hL.fresh s
  | ok r => exact ⟨trivial, hL.trans (hL.register entry hr) (hL.record .debug _ _)⟩

lemma removes (name : String) : Goes P L (fun _ => True) (Session.remove name) := by
  intro s hs
  apply Act.ends_get_bind
  cases hr : s.registry.remove name with
  | error e => exact hL.refl s
  | ok p => exact ⟨trivial, hL.trans (hL.remove name hr) (hL.record _ _ _)⟩

lemma adds (name : String) {e : Extension} (he : P e) :
    Goes P L (fun _ => True) (Session.addToPipeline name e) := by
  intro s hs
  apply Act.ends_get_bind
  cases hr : s.registry.addToPipeline name e with
  | error e => exact hL.refl s
  | ok r => exact ⟨trivial, hL.trans (hL.addToPipeline name he hr) (hL.record _ _ _)⟩

end Passage

end ComponentContainer.Session
