import ComponentContainer.Proofs.CapabilityIndex
import ComponentContainer.Proofs.Path
import ComponentContainer.Proofs.Pipeline

/-! What grows and what shrinks along every path of a session. -/

namespace ComponentContainer

variable {lib : Catalog} {P : Extension → Prop}

lemma mem_blueprints {entry : Nat} (h : Name.isDefinable (lib.blueprint entry).name = true) :
    (lib.blueprint entry).name ∈ lib.blueprints.map (·.name) := by
  unfold Catalog.blueprint at h ⊢
  rw [List.getD_eq_getElem?_getD] at h ⊢
  cases hget : lib.blueprints[entry]? with
  | none =>
    rw [hget] at h
    exact absurd h (by decide)
  | some b => exact List.mem_map_of_mem (List.mem_of_getElem? hget)

namespace Registry

variable {r t : Registry}

lemma Step.pipeline (h : r.Step lib P t) :
    t.pipeline = r.pipeline ∨ ∃ name e, P e ∧ .instanceHook ∈ e.behaviour.capabilities ∧
      t.pipeline = r.pipeline.add ⟨name, e⟩ := by
  cases h with
  | register entry stamp h =>
    obtain ⟨-, -, rfl⟩ := register_eq_ok h
    exact .inl rfl
  | remove name h =>
    obtain ⟨-, rfl⟩ := remove_eq_ok h
    exact .inl rfl
  | snapshot name h =>
    obtain ⟨-, rfl⟩ | ⟨-, -, rfl⟩ := snapshot_eq_ok h
    · exact .inl rfl
    · exact .inl rfl
  | addToPipeline name e he h =>
    obtain ⟨haccepted, rfl⟩ := addToPipeline_eq_ok h
    exact .inr ⟨name, e, he, haccepted, rfl⟩
  | amend | invalidate | destroySingletons | beginCreation | endCreation | store => exact .inl rfl

def Known (lib : Catalog) (r : Registry) (n : String) : Prop :=
  n ∈ r.definitions.map (·.1) ∨ n ∈ r.index.flatMap (·.2) ∨ n ∈ r.snapshots.map (·.1) ∨
    n ∈ lib.blueprints.map (·.name)

lemma known_of_declaring {c : Capability} {n : String} (hn : n ∈ r.declaring c) :
    r.Known lib n := .inr (.inl (r.index.names_subset_flatMap c hn))

lemma known_of_snapshot {n : String} {d : Definition} (h : r.snapshot n = .ok (d, t)) :
    r.Known lib n := by
  obtain ⟨hd, -⟩ | ⟨-, hd, -⟩ := snapshot_eq_ok h
  · exact .inr (.inr (.inl (mem_keys_of_lookup hd)))
  · exact .inl (mem_keys_of_lookup hd)

lemma Step.known (h : r.Step lib P t) {n : String} (hn : t.Known lib n) : r.Known lib n := by
  cases h with
  | register entry stamp h =>
    obtain ⟨hdefinable, -, rfl⟩ := register_eq_ok h
    have hname : r.Known lib (lib.blueprint entry).name :=
      .inr (.inr (.inr (mem_blueprints hdefinable)))
    rcases hn with hn | hn | hn | hn
    · rw [List.map_append, List.mem_append, List.map_singleton, List.mem_singleton] at hn
      rcases hn with hn | rfl
      · exact .inl hn
      · exact hname
    · rcases CapabilityIndex.mem_flatMap_enterAll hn with hn | rfl
      · exact .inr (.inl hn)
      · exact hname
    · exact .inr (.inr (.inl ((List.filter_sublist.map _).subset hn)))
    · exact .inr (.inr (.inr hn))
  | remove name h =>
    obtain ⟨-, rfl⟩ := remove_eq_ok h
    rcases hn with hn | hn | hn | hn
    · exact .inl ((List.filter_sublist.map _).subset hn)
    · exact .inr (.inl (CapabilityIndex.mem_flatMap_drop hn))
    · exact .inr (.inr (.inl ((List.filter_sublist.map _).subset hn)))
    · exact .inr (.inr (.inr hn))
  | amend name f =>
    rcases hn with hn | hn
    · exact .inl (r.keys_amend name f ▸ hn)
    · exact .inr hn
  | snapshot name h =>
    obtain ⟨-, rfl⟩ | ⟨-, hfind, rfl⟩ := snapshot_eq_ok h
    · exact hn
    rcases hn with hn | hn | hn | hn
    · exact .inl hn
    · exact .inr (.inl hn)
    · rw [List.map_append, List.mem_append, List.map_singleton, List.mem_singleton] at hn
      rcases hn with hn | rfl
      · exact .inr (.inr (.inl hn))
      · exact .inl (mem_keys_of_lookup hfind)
    · exact .inr (.inr (.inr hn))
  | invalidate =>
    rcases hn with hn | hn | hn | hn
    · exact .inl hn
    · exact .inr (.inl hn)
    · exact absurd hn List.not_mem_nil
    · exact .inr (.inr (.inr hn))
  | addToPipeline name e _ h =>
    obtain ⟨-, rfl⟩ := addToPipeline_eq_ok h
    exact hn
  | destroySingletons | beginCreation | endCreation | store => exact hn

end Registry

namespace Session

variable {s t : Session}

lemma Step.nextStamp_le (h : s.Step lib P t) : s.nextStamp ≤ t.nextStamp := by
  cases h with
  | write _ _ h => exact h
  | arm => exact Nat.le_succ _
  | registry | report => exact Nat.le_refl _

lemma Step.known (h : s.Step lib P t) {n : String} (hn : t.registry.Known lib n) :
    s.registry.Known lib n := by
  cases h with
  | write hr => rwa [hr] at hn
  | registry h => exact h.known hn
  | arm name target h =>
    obtain ⟨-, rfl⟩ := Registry.addToPipeline_eq_ok h
    exact hn
  | report => exact hn

lemma Step.pipeline_names_subset (h : s.Step lib P t) :
    s.registry.pipeline.names ⊆ t.registry.pipeline.names := by
  intro n hn
  cases h with
  | write hr => rwa [hr]
  | registry h =>
    obtain hp | ⟨name, e, -, -, hp⟩ := h.pipeline
    · exact hp ▸ hn
    · exact hp ▸ Pipeline.mem_names_add.2 (.inl hn)
  | arm name target h =>
    obtain ⟨-, rfl⟩ := Registry.addToPipeline_eq_ok h
    exact Pipeline.mem_names_add.2 (.inl hn)
  | report => exact hn

theorem Path.known (h : s.Path lib P t) {n : String} (hn : t.registry.Known lib n) :
    s.registry.Known lib n := by
  induction h with
  | refl => exact hn
  | tail _ h ih => exact ih (h.known hn)

theorem Path.pipeline_names_subset (h : s.Path lib P t) :
    s.registry.pipeline.names ⊆ t.registry.pipeline.names := by
  induction h with
  | refl => exact List.Subset.refl _
  | tail _ h ih => exact List.Subset.trans ih h.pipeline_names_subset

lemma mem_roster {n : String} : n ∈ Creation.roster lib s ↔ s.registry.Known lib n := by
  simp only [Creation.roster, List.mem_append, Registry.Known, or_assoc]

end Session

end ComponentContainer
