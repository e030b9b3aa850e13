import ComponentContainer.Proofs.Bystander.Apart
import ComponentContainer.Proofs.PairedHooks
import ComponentContainer.Proofs.Walks

/-! Requests to two sessions that are apart keep them apart. -/

namespace ComponentContainer

open Act

def Likeness.beside (lib : Catalog) (z : String) (f : ℕ → ℕ) : Likeness where
  name n := n ≠ z
  edit e := z ∉ e.mentioned lib
  answer _ _ := True
  extension e' e := e' = e.restamp f ∧ e.Spares lib z
  stamp n' n := n' = f n
  pipeline p' p := p' = p.restamp f
  answer_refl _ := trivial
  behaviour_eq h := (congrArg Extension.behaviour h.1 :)
  names_eq h := h ▸ Pipeline.names_restamp _

abbrev Instance.Twin (lib : Catalog) (z : String) (f : ℕ → ℕ) : Instance → Instance → Prop :=
  Instance.Paired (Extension.Spares lib z) f

variable {lib : Catalog} {z : String} {f : ℕ → ℕ}

lemma Likeness.allows_beside {a : Action} (h : z ∉ a.mentioned lib) :
    (beside lib z f).Allows a := by
  cases a with
  | note | fail => trivial
  | edit e => exact h
  | query q => exact fun n hn => ne_of_mem_of_not_mem hn h
  | inspect i => exact fun n hn => ne_of_mem_of_not_mem hn h

lemma Likeness.allows_steps {steps : List Step}
    (h : z ∉ steps.flatMap (·.action.mentioned lib)) :
    ∀ step ∈ steps, (beside lib z f).Allows step.action :=
  fun step hstep => allows_beside fun hz => h (List.mem_flatMap.2 ⟨step, hstep, hz⟩)

namespace Session

structure Apart (lib : Catalog) (z : String) (f : ℕ → ℕ) (s' s : Session) : Prop where
  registry : s'.registry.Apart lib z f s.registry
  reports_eq : s'.reports = s.reports.map (·.restamp f)
  listeners_eq : s'.listeners = mapValues (·.restamp f) s.listeners
  nextStamp_eq : ∀ n, f (s.nextStamp + n) = s'.nextStamp + n

variable {ε : Type}

lemma Apart.nextStamp_succ {s' s : Session} (h : s'.Apart lib z f s) (n : ℕ) :
    f (s.nextStamp + 1 + n) = s'.nextStamp + 1 + n := by
  rw [Nat.add_assoc, Nat.add_assoc, h.nextStamp_eq]

lemma note_apart (e' e : Entry) : Agree (Apart lib z f) (note e') (note e) :=
  fun _ _ h => ⟨rfl, { h with }⟩

lemma record_apart (level : Level) (message' message : String) :
    Agree (Apart lib z f) (record level message') (record level message) :=
  fun _ _ h => ⟨rfl, { h with }⟩

lemma setRegistry_apart {r' r : Registry} (hr : r'.Apart lib z f r) :
    Agree (Apart lib z f) (setRegistry r') (setRegistry r) :=
  fun _ _ h => ⟨rfl, { h with registry := hr }⟩

lemma fresh_apart : Simulates (Apart lib z f) (fun n' n => n' = f n)
    (liftM fresh : Act Session ε ℕ) (liftM fresh) :=
  simulates_lift fun _ _ h =>
    ⟨(h.nextStamp_eq 0).symm, { h with nextStamp_eq := h.nextStamp_succ }⟩

lemma register_apart {d : Definition} (hname : d.name ≠ z)
    (hfactory : z ∉ d.factory.mentioned lib) :
    Matches (Apart lib z f) (register (d.restamp f)) (register d) := by
  refine simulates_get_bind fun s' s h =>
    (simulates_ofExcept (h.registry.register hname hfactory)).bind fun r' r hr => ?_
  exact (record_apart _ _ _).matches.bind fun _ => (setRegistry_apart hr).matches

lemma remove_apart {name : String} (hname : name ≠ z) :
    Simulates (Apart lib z f) (fun d' d => d' = d.restamp f) (remove name) (remove name) := by
  refine simulates_get_bind fun s' s h =>
    (simulates_ofExcept (h.registry.remove hname)).bind fun p' p hp => ?_
  exact (setRegistry_apart hp.2).matches.bind fun _ => (record_apart _ _ _).matches.bind fun _ =>
    simulates_pure hp.1

lemma amend_apart {name : String} (hname : name ≠ z) (g : Definition → Definition)
    (hg : ∀ d, g (d.restamp f) = (g d).restamp f) (hfactory : ∀ d, (g d).factory = d.factory) :
    Agree (Apart lib z f) (amend name g) (amend name g) :=
  fun _ _ h =>
    ⟨h.registry.contains_eq hname, { h with registry := h.registry.amend hname hg hfactory }⟩

lemma invalidate_apart : Agree (Apart lib z f) invalidate invalidate :=
  fun _ _ h => ⟨rfl, { h with registry := h.registry.invalidate }⟩

lemma destroySingletons_apart : Agree (Apart lib z f) destroySingletons destroySingletons := by
  refine fun s' s h => ⟨?_, { h with registry := h.registry.destroySingletons }⟩
  change s'.registry.singletons.length = s.registry.singletons.length
  rw [h.registry.singletons_eq]
  exact List.length_map _

lemma addToPipeline_apart (name : String) (e : Extension) :
    Matches (Apart lib z f) (addToPipeline name (e.restamp f)) (addToPipeline name e) := by
  refine simulates_get_bind fun s' s h =>
    (simulates_ofExcept (h.registry.addToPipeline name e)).bind fun r' r hr => ?_
  exact (setRegistry_apart hr).matches.bind fun _ => (record_apart _ _ _).matches

lemma build_apart (b : Blueprint) :
    Simulates (Apart lib z f) (fun d' d => d' = d.restamp f ∧ d.toBlueprint = b)
      (liftM b.build : Act Session ε Definition) (liftM b.build) :=
  fresh_apart.bind fun _ _ hn => simulates_pure ⟨hn ▸ rfl, rfl⟩

lemma pairing_apart : Pairing f (Apart lib z f) where
  note := note_apart
  record := record_apart
  fresh := fresh_apart
  pipeline_eq h := h.registry.pipeline_eq
  listeners_eq h := h.listeners_eq
  report {s' s} r h := by
    refine { h with reports_eq := ?_ }
    change s'.reports ++ [_] = (s.reports ++ [_]).map _
    rw [List.map_append, h.reports_eq]
    rfl
  detect _ e h := { h with
    listeners_eq := (congrArg (· ++ _) h.listeners_eq).trans (mapValues_concat e).symm }

end Session

open Session

lemma Edit.perform_apart (hlib : lib.Spares z) {e : Edit} (he : z ∉ e.mentioned lib) :
    Simulates (Apart lib z f) (fun _ _ => True) (e.perform lib) (e.perform lib) := by
  have hne {name : String} (h : z ∉ [name]) : name ≠ z := fun hz => h (by rw [hz]; exact .head _)
  have hdone {α' α : Type} {V : α' → α → Prop} {m' : Act Session RegistryError α'}
      {m : Act Session RegistryError α} (h : Simulates (Apart lib z f) V m' m)
      (answer' : α' → Answer) (answer : α → Answer) :
      Simulates (Apart lib z f) (fun _ _ => True) (do return answer' (← m'))
        (do return answer (← m)) := h.bind fun _ _ _ => simulates_pure trivial
  cases e with
  | register entry =>
    refine (build_apart (lib.blueprint entry)).bind fun d' d ⟨hd', hd⟩ => ?_
    subst hd'
    have hname : d.name ≠ z := hd ▸ hne he
    have hregister := register_apart (f := f) hname (hd ▸ hlib.blueprint (hne he))
    exact hdone hregister _ _
  | remove name => exact hdone (remove_apart (hne he)) _ _
  | setRole name role =>
    exact hdone (amend_apart (hne he) (·.setRole role) (fun _ => rfl) fun _ => rfl).matches _ _
  | setPrecedence name p =>
    exact hdone (amend_apart (hne he) (·.setPrecedence p) (fun _ => rfl) fun _ => rfl).matches _ _
  | setLazy name lazy =>
    exact hdone (amend_apart (hne he) (·.setLazy lazy) (fun _ => rfl) fun _ => rfl).matches _ _
  | setAttribute name key value =>
    exact hdone (amend_apart (hne he) (·.setAttribute key value) (fun _ => rfl)
      fun _ => rfl).matches _ _
  | contains name => exact simulates_get_bind fun _ _ _ => simulates_pure trivial
  | names => exact simulates_get_bind fun _ _ _ => simulates_pure trivial

end ComponentContainer
