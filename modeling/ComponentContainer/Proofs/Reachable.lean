import ComponentContainer.Proofs.Walks
import ComponentContainer.Proofs.WellFormed

/-! What holds of all sessions that an empty one can come to. -/

namespace ComponentContainer

def Extension.Unarmed (e : Extension) : Prop := ∀ target, e.behaviour ≠ .eligibilityChecker target

lemma unarmed_of_catalog (lib : Catalog) (stamp entry : Nat) (name : String) :
    Extension.Unarmed ⟨stamp, (lib.extension entry).behaviour name⟩ := by
  intro target h
  cases hspec : lib.extension entry with
  | inert =>
    rw [hspec] at h
    cases h
  | scripted own families =>
    rw [hspec] at h
    cases h

structure Session.WellFormed (s : Session) : Prop where
  registry : s.registry.WellFormed
  stamped : ∀ entry ∈ s.registry.pipeline, ∀ target,
    entry.extension.behaviour = .eligibilityChecker target → entry.extension.stamp < s.nextStamp

def Session.Reachable (lib : Catalog) (s : Session) : Prop :=
  Session.empty.Path lib Extension.Unarmed s

variable {lib : Catalog} {P : Extension → Prop}

namespace Session

variable {s t : Session}

lemma Step.mem_pipeline (h : s.Step lib P t) {entry : PipelineEntry}
    (he : entry ∈ t.registry.pipeline) : entry ∈ s.registry.pipeline ∨ P entry.extension ∨
      entry.extension.stamp = s.nextStamp ∧ s.nextStamp < t.nextStamp := by
  cases h with
  | write hr =>
    rw [hr] at he
    exact .inl he
  | registry h =>
    obtain hp | ⟨name, e, hP, -, hp⟩ := h.pipeline
    · exact .inl (hp ▸ he)
    · rcases Pipeline.mem_add (hp ▸ he) with he | rfl
      · exact .inl he
      · exact .inr (.inl hP)
  | arm name target h =>
    obtain ⟨-, rfl⟩ := Registry.addToPipeline_eq_ok h
    rcases Pipeline.mem_add he with he | rfl
    · exact .inl he
    · exact .inr (.inr ⟨rfl, Nat.lt_succ_self _⟩)
  | report => exact .inl he

lemma Step.accepted (h : s.Step lib P t)
    (hs : ∀ e ∈ s.registry.pipeline, .instanceHook ∈ e.extension.behaviour.capabilities) :
    ∀ e ∈ t.registry.pipeline, .instanceHook ∈ e.extension.behaviour.capabilities := by
  intro e he
  cases h with
  | write hr => exact hs e (hr ▸ he)
  | registry h =>
    obtain hp | ⟨name, x, -, haccepted, hp⟩ := h.pipeline
    · exact hs e (hp ▸ he)
    · rcases Pipeline.mem_add (hp ▸ he) with he | rfl
      · exact hs e he
      · exact haccepted
  | arm name target h =>
    obtain ⟨haccepted, rfl⟩ := Registry.addToPipeline_eq_ok h
    rcases Pipeline.mem_add he with he | rfl
    · exact hs e he
    · exact haccepted
  | report => exact hs e he

lemma Step.wellFormed (h : s.Step lib Extension.Unarmed t) (hs : s.WellFormed) : t.WellFormed := by
  refine ⟨?_, fun entry he target hb => ?_⟩
  · cases h with
    | write hr =>
      rw [hr]
      exact hs.registry
    | registry h => exact h.wellFormed hs.registry
    | arm name target h =>
      have hadd : s.registry.Step lib (fun _ => True) _ := .addToPipeline name _ trivial h
      exact hadd.wellFormed hs.registry
    | report => exact hs.registry
  · rcases h.mem_pipeline he with he | hP | ⟨hstamp, hlt⟩
    · exact Nat.lt_of_lt_of_le (hs.stamped entry he target hb) h.nextStamp_le
    · exact absurd hb (hP target)
    · rwa [hstamp]

theorem Path.wellFormed (h : s.Path lib Extension.Unarmed t) (hs : s.WellFormed) :
    t.WellFormed := by
  induction h with
  | refl => exact hs
  | tail _ h ih => exact h.wellFormed ih

theorem Path.pipeline_length_le (h : s.Path lib P t) (hs : s.WellFormed) :
    s.registry.pipeline.length ≤ t.registry.pipeline.length := by
  rw [← Pipeline.length_names, ← Pipeline.length_names]
  exact (List.subperm_of_subset hs.registry.pipeline_nodup h.pipeline_names_subset).length_le

theorem Reachable.wellFormed (h : s.Reachable lib) : s.WellFormed := by
  exact Path.wellFormed h ⟨.empty, fun entry he => absurd he List.not_mem_nil⟩

theorem Reachable.accepted (h : s.Reachable lib) :
    ∀ e ∈ s.registry.pipeline, .instanceHook ∈ e.extension.behaviour.capabilities := by
  induction h with
  | refl => exact fun e he => absurd he List.not_mem_nil
  | tail _ h ih => exact h.accepted ih

theorem Reachable.held (h : s.Reachable lib) : s.registry.Held Extension.Unarmed :=
  Path.held h fun _ hp => absurd hp List.not_mem_nil

def after (lib : Catalog) (steps : List ComponentContainer.Step) : Session :=
  (Script.run note (perform lib) "" steps Session.empty).2

theorem after_reachable (lib : Catalog) (steps : List ComponentContainer.Step) :
    (after lib steps).Reachable lib := by
  have hempty : Session.empty.Reachable lib := .refl
  exact (Script.run_walks (perform_walks (unarmed_of_catalog lib)) "" steps).path hempty.held

end Session

end ComponentContainer
