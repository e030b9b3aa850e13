import ComponentContainer.Proofs.Bystander.Mentions
import ComponentContainer.Proofs.CapabilityIndex
import ComponentContainer.Proofs.Path

/-! Two registries that differ in one lazy definition and in the numbering of their stamps, and go
on to differ in nothing else, whatever is asked of both of them, as long as it does not mention the
name of that definition. -/

namespace ComponentContainer

open Act

variable {lib : Catalog} {z : String} {f : ℕ → ℕ}

namespace Registry

structure Spares (lib : Catalog) (z : String) (r : Registry) : Prop where
  unlisted : ∀ c, z ∉ r.declaring c
  definitions : ∀ p ∈ r.definitions, z ∉ p.2.factory.mentioned lib
  snapshots : ∀ p ∈ r.snapshots, z ∉ p.2.factory.mentioned lib
  held : r.Held (Extension.Spares lib z)

structure Apart (lib : Catalog) (z : String) (f : ℕ → ℕ) (r' r : Registry) : Prop
    extends r.Spares lib z where
  bystander : ∃ d, r'.find? z = some d ∧ d.lazy = true
  definitions_eq : r'.definitions.filter (·.1 ≠ z) = mapValues (·.restamp f) r.definitions
  order_eq : r'.order.filter (· ≠ z) = r.order
  index_eq : r'.index = r.index
  snapshots_eq : r'.snapshots = mapValues (·.restamp f) r.snapshots
  singletons_eq : r'.singletons = mapValues (·.restamp f) r.singletons
  inCreation_eq : r'.inCreation = r.inCreation
  pipeline_eq : r'.pipeline = r.pipeline.restamp f
  invalidations_eq : r'.invalidations = r.invalidations

namespace Apart

variable {r' r : Registry} {n : String} {d : Definition} (h : Apart lib z f r' r)

include h

lemma find?_eq (hn : n ≠ z) : r'.find? n = (r.find? n).map (·.restamp f) := by
  unfold find?
  rw [← lookup_drop_of_ne hn, h.definitions_eq, lookup_mapValues]

lemma contains_eq (hn : n ≠ z) : r'.contains n = r.contains n := by
  unfold contains
  rw [h.find?_eq hn, Option.isSome_map]

lemma singleton?_eq (n : String) : r'.singleton? n = (r.singleton? n).map (·.restamp f) := by
  unfold singleton?
  rw [h.singletons_eq, lookup_mapValues]

lemma register (hd : d.name ≠ z) (hfactory : z ∉ d.factory.mentioned lib) :
    Alike (Apart lib z f) (r'.register (d.restamp f)) (r.register d) := by
  have hname : (d.restamp f).name = d.name := rfl
  have hkept {α : Type} {p : α → Bool} {x : α} (hx : p x = true) : [x].filter p = [x] :=
    List.filter_eq_self.2 (by simpa using hx)
  unfold Registry.register
  rw [hname, h.contains_eq hd]
  split
  · exact rfl
  split
  · exact rfl
  refine ⟨⟨fun c => ?_, fun p hp => ?_, fun p hp => h.snapshots p (List.mem_filter.1 hp).1,
    h.held⟩, ?_, ?_, ?_, ?_, ?_, h.singletons_eq, h.inCreation_eq, h.pipeline_eq,
    h.invalidations_eq⟩
  · have hnew : z ∉ if c ∈ d.capabilities then [d.name] else [] := by
      split
      · simpa using hd.symm
      · exact List.not_mem_nil
    unfold declaring
    rw [CapabilityIndex.names_enterAll, List.mem_append]
    exact not_or.2 ⟨h.unlisted c, hnew⟩
  · rcases List.mem_append.1 hp with hp | hp
    · exact h.definitions p hp
    · rwa [List.mem_singleton.1 hp]
  · obtain ⟨b, hb, hlazy⟩ := h.bystander
    exact ⟨b, (lookup_concat_of_ne _ hd.symm).trans hb, hlazy⟩
  · rw [List.filter_append, h.definitions_eq, mapValues_concat, hkept (by simpa using hd)]
  · rw [List.filter_append, h.order_eq, hkept (by simpa using hd)]
  · rw [h.index_eq]
    rfl
  · rw [h.snapshots_eq, filter_mapValues]

lemma remove (hn : n ≠ z) :
    Alike (fun p' p => p'.1 = p.1.restamp f ∧ Apart lib z f p'.2 p.2) (r'.remove n)
      (r.remove n) := by
  unfold Registry.remove
  rw [h.find?_eq hn]
  cases r.find? n with
  | none => exact rfl
  | some d =>
    refine ⟨rfl, ⟨fun c => ?_, fun p hp => h.definitions p (List.mem_filter.1 hp).1,
      fun p hp => h.snapshots p (List.mem_filter.1 hp).1,
      fun p hp => h.held p (List.mem_filter.1 hp).1⟩, ?_, ?_, ?_, ?_, ?_, ?_, h.inCreation_eq,
      h.pipeline_eq, h.invalidations_eq⟩
    · unfold declaring
      rw [CapabilityIndex.names_drop]
      exact fun hz => h.unlisted c (List.mem_filter.1 hz).1
    · obtain ⟨b, hb, hlazy⟩ := h.bystander
      exact ⟨b, (lookup_drop_of_ne hn.symm).trans hb, hlazy⟩
    · rw [List.filter_comm, h.definitions_eq, filter_mapValues]
    · rw [List.filter_comm, h.order_eq]
    · rw [h.index_eq]
    · rw [h.snapshots_eq, filter_mapValues]
    · rw [h.singletons_eq, filter_mapValues]

lemma amend (hn : n ≠ z) {g : Definition → Definition}
    (hg : ∀ d, g (d.restamp f) = (g d).restamp f) (hfactory : ∀ d, (g d).factory = d.factory) :
    Apart lib z f (r'.amend n g) (r.amend n g) := by
  refine { h with definitions := fun p hp => ?_, bystander := ?_, definitions_eq := ?_ }
  · obtain ⟨q, hq, rfl⟩ := List.mem_map.1 hp
    have hspares := h.definitions q hq
    split
    · rwa [hfactory]
    · exact hspares
  · obtain ⟨b, hb, hlazy⟩ := h.bystander
    refine ⟨b, ?_, hlazy⟩
    rw [find?_amend, hb, Option.map_some, if_neg hn.symm]
  · have hkeys : ((fun q : String × Definition => decide (q.1 ≠ z)) ∘ fun p =>
        if p.1 = n then (p.1, g p.2) else p) = fun p => decide (p.1 ≠ z) := by
      funext p
      simp only [Function.comp_apply]
      split <;> rfl
    unfold Registry.amend
    rw [List.filter_map, hkeys, h.definitions_eq]
    unfold mapValues
    rw [List.map_map, List.map_map]
    refine List.map_congr_left fun p _ => ?_
    simp only [Function.comp_apply]
    split
    · rw [hg]
    · rfl

lemma snapshot (hn : n ≠ z) :
    Alike (fun p' p => (p'.1 = p.1.restamp f ∧ z ∉ p.1.factory.mentioned lib) ∧
      Apart lib z f p'.2 p.2) (r'.snapshot n) (r.snapshot n) := by
  unfold Registry.snapshot
  rw [h.snapshots_eq, lookup_mapValues]
  cases hstored : r.snapshots.lookup n with
  | some d => exact ⟨⟨rfl, h.snapshots _ (mem_of_lookup hstored)⟩, h⟩
  | none =>
    rw [h.find?_eq hn]
    cases hfind : r.find? n with
    | none => exact rfl
    | some d =>
      have hspares := h.definitions _ (mem_of_lookup hfind)
      refine ⟨⟨rfl, hspares⟩, { h with snapshots := fun p hp => ?_, snapshots_eq := ?_ }⟩
      · rcases List.mem_append.1 hp with hp | hp
        · exact h.snapshots p hp
        · rwa [List.mem_singleton.1 hp]
      · exact (mapValues_concat d).symm

lemma invalidate : Apart lib z f r'.invalidate r.invalidate :=
  { h with
    snapshots_eq := rfl
    invalidations_eq := congrArg (· + 1) h.invalidations_eq
    snapshots := fun _ hp => absurd hp List.not_mem_nil }

lemma destroySingletons : Apart lib z f r'.destroySingletons r.destroySingletons :=
  { h with singletons_eq := rfl, held := fun _ hp => absurd hp List.not_mem_nil }

lemma beginCreation (n : String) : Apart lib z f (r'.beginCreation n) (r.beginCreation n) :=
  { h with inCreation_eq := congrArg (n :: ·) h.inCreation_eq }

lemma endCreation (n : String) : Apart lib z f (r'.endCreation n) (r.endCreation n) :=
  { h with inCreation_eq := congrArg (List.filter _) h.inCreation_eq }

lemma store (n : String) {i : Instance} (hi : i.Admits (Extension.Spares lib z)) :
    Apart lib z f (r'.store n (i.restamp f)) (r.store n i) := by
  refine { h with held := fun p hp => ?_, singletons_eq := ?_ }
  · rcases List.mem_append.1 hp with hp | hp
    · exact h.held p (List.mem_filter.1 hp).1
    · rwa [List.mem_singleton.1 hp]
  · change _ ++ _ = _
    rw [h.singletons_eq, filter_mapValues]
    exact (mapValues_concat i).symm

lemma addToPipeline (n : String) (e : Extension) :
    Alike (Apart lib z f) (r'.addToPipeline n (e.restamp f)) (r.addToPipeline n e) := by
  unfold Registry.addToPipeline PipelineEntry.make
  have hcapabilities : (e.restamp f).behaviour.capabilities = e.behaviour.capabilities := rfl
  rw [hcapabilities]
  split
  · refine { h with pipeline_eq := ?_ }
    change r'.pipeline.add ⟨n, e.restamp f⟩ = _
    rw [h.pipeline_eq]
    exact (Pipeline.add_restamp r.pipeline ⟨n, e⟩).symm
  · exact rfl

end Apart

end Registry

end ComponentContainer
