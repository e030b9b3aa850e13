import ComponentContainer.Creation
import ComponentContainer.Proofs.Registry
import Mathlib.Logic.Relation

/-! The single changes that a session undergoes and the paths that they make up. -/

namespace ComponentContainer

def Instance.Admits (P : Extension → Prop) (i : Instance) : Prop := ∀ e, i.extension? = some e → P e

def Registry.Held (P : Extension → Prop) (r : Registry) : Prop := ∀ p ∈ r.singletons, p.2.Admits P

inductive Registry.Step (lib : Catalog) (P : Extension → Prop) (r : Registry) : Registry → Prop
  | register {t : Registry} (entry stamp : Nat) :
    r.register ⟨lib.blueprint entry, stamp⟩ = .ok t → Step lib P r t
  | remove {d : Definition} {t : Registry} (name : String) :
    r.remove name = .ok (d, t) → Step lib P r t
  | amend (name : String) (f : Definition → Definition) :
    (∀ d, (f d).name = d.name ∧ (f d).capabilities = d.capabilities) →
      Step lib P r (r.amend name f)
  | snapshot {d : Definition} {t : Registry} (name : String) :
    r.snapshot name = .ok (d, t) → Step lib P r t
  | invalidate : Step lib P r r.invalidate
  | destroySingletons : Step lib P r r.destroySingletons
  | beginCreation (name : String) : Step lib P r (r.beginCreation name)
  | endCreation (name : String) : Step lib P r (r.endCreation name)
  | store (name : String) (i : Instance) : i.Admits P → Step lib P r (r.store name i)
  | addToPipeline {t : Registry} (name : String) (e : Extension) :
    P e → r.addToPipeline name e = .ok t → Step lib P r t

namespace Session

inductive Step (lib : Catalog) (P : Extension → Prop) (s : Session) : Session → Prop
  | write {t : Session} : t.registry = s.registry → t.reports = s.reports →
    s.nextStamp ≤ t.nextStamp → Step lib P s t
  | registry {r : Registry} : s.registry.Step lib P r → Step lib P s { s with registry := r }
  | arm {r : Registry} (name : String) (target : Nat) :
    s.registry.addToPipeline name ⟨s.nextStamp, .eligibilityChecker target⟩ = .ok r →
      Step lib P s { s with registry := r, nextStamp := s.nextStamp + 1 }
  | report {entry : PipelineEntry} {target : Nat} (report : Report) :
    entry ∈ s.registry.pipeline → entry.extension.behaviour = .eligibilityChecker target →
      report.checker = entry.extension.stamp → s.registry.pipeline.length < target →
      Step lib P s { s with reports := s.reports ++ [report] }

abbrev Path (lib : Catalog) (P : Extension → Prop) : Session → Session → Prop :=
  Relation.ReflTransGen (Step lib P)

end Session

variable {lib : Catalog} {P : Extension → Prop}

lemma Registry.Step.held {r r' : Registry} (h : r.Step lib P r') (hr : r.Held P) : r'.Held P := by
  cases h with
  | register entry stamp h =>
    obtain ⟨-, -, rfl⟩ := Registry.register_eq_ok h
    exact hr
  | remove name h =>
    obtain ⟨-, rfl⟩ := Registry.remove_eq_ok h
    exact fun p hp => hr p (List.mem_filter.1 hp).1
  | snapshot name h =>
    obtain ⟨-, rfl⟩ | ⟨-, -, rfl⟩ := Registry.snapshot_eq_ok h
    · exact hr
    · exact hr
  | destroySingletons => exact fun p hp => absurd hp List.not_mem_nil
  | store name i hi =>
    intro p hp
    rcases List.mem_append.1 hp with hp | hp
    · exact hr p (List.mem_filter.1 hp).1
    · rw [List.mem_singleton.1 hp]
      exact hi
  | addToPipeline name e _ h =>
    obtain ⟨-, rfl⟩ := Registry.addToPipeline_eq_ok h
    exact hr
  | amend | invalidate | beginCreation | endCreation => exact hr

namespace Session

variable {s t : Session}

lemma Step.held (h : s.Step lib P t) (hs : s.registry.Held P) : t.registry.Held P := by
  cases h with
  | write hr => rwa [hr]
  | registry h => exact h.held hs
  | arm name target h =>
    obtain ⟨-, rfl⟩ := Registry.addToPipeline_eq_ok h
    exact hs
  | report => exact hs

lemma Path.held (h : s.Path lib P t) (hs : s.registry.Held P) : t.registry.Held P := by
  induction h with
  | refl => exact hs
  | tail _ h ih => exact h.held ih

end Session

end ComponentContainer
