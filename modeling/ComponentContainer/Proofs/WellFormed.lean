import ComponentContainer.Proofs.Monotone

/-! The tables of a registry keep in step: whatever changes it, the definitions, the order in which
they were registered and the index by capability tell the same. -/

namespace ComponentContainer.Registry

structure WellFormed (r : Registry) : Prop where
  keys_eq : r.definitions.map (·.1) = r.names
  nodup : r.names.Nodup
  name_eq : ∀ p ∈ r.definitions, p.2.name = p.1
  declaring_eq : ∀ c, r.declaring c = r.names.filter fun n => (r.find? n).any (c ∈ ·.capabilities)
  definable : ∀ n ∈ r.names, Name.isDefinable n = true
  pipeline_nodup : r.pipeline.names.Nodup

variable {lib : Catalog} {P : Extension → Prop} {r t : Registry}

namespace WellFormed

lemma find?_isSome (hr : r.WellFormed) {n : String} : (r.find? n).isSome ↔ n ∈ r.names :=
  hr.keys_eq ▸ lookup_isSome_iff_mem_keys

lemma find?_eq_none (hr : r.WellFormed) {n : String} : r.find? n = none ↔ n ∉ r.names := by
  rw [← hr.find?_isSome, Option.not_isSome_iff_eq_none]

lemma name_of_find? (hr : r.WellFormed) {n : String} {d : Definition} (h : r.find? n = some d) :
    d.name = n :=
  hr.name_eq (n, d) (mem_of_lookup h)

lemma declaring_sublist (hr : r.WellFormed) (c : Capability) : (r.declaring c).Sublist r.names := by
  rw [hr.declaring_eq c]
  exact List.filter_sublist

lemma declaring_nodup (hr : r.WellFormed) (c : Capability) : (r.declaring c).Nodup :=
  hr.nodup.sublist (hr.declaring_sublist c)

lemma declaring_implied (hr : r.WellFormed) {c d : Capability} (h : c.implied = some d) :
    (r.declaring c).Sublist (r.declaring d) := by
  rw [hr.declaring_eq c, hr.declaring_eq d]
  refine List.monotone_filter_right _ fun n hn => ?_
  cases hfind : r.find? n with
  | none =>
    rw [hfind] at hn
    cases hn
  | some x =>
    rw [hfind] at hn
    have hc : c ∈ x.capabilities := by simpa using hn
    have hd : d ∈ x.capabilities := x.capabilities.closed c hc d h
    simpa using hd

lemma empty : Registry.empty.WellFormed :=
  ⟨rfl, List.nodup_nil, fun _ hp => absurd hp List.not_mem_nil, fun _ => rfl,
    fun _ hn => absurd hn List.not_mem_nil, List.nodup_nil⟩

lemma register {d : Definition} (hr : r.WellFormed) (h : r.register d = .ok t) :
    t.WellFormed := by
  have hfind := find?_register h
  obtain ⟨hdefinable, htaken, rfl⟩ := register_eq_ok h
  have hnew : d.name ∉ r.names := hr.find?_eq_none.1 htaken
  refine ⟨?_, ?_, fun p hp => ?_, fun c => ?_, fun n hn => ?_, hr.pipeline_nodup⟩
  · rw [List.map_append, hr.keys_eq]
    rfl
  · change (r.names ++ [d.name]).Nodup
    rw [← List.concat_eq_append]
    exact hr.nodup.concat hnew
  · rcases List.mem_append.1 hp with hp | hp
    · exact hr.name_eq p hp
    · rw [List.mem_singleton.1 hp]
  · have hold : r.names.filter (fun n => (if n = d.name then some d else r.find? n).any
        (c ∈ ·.capabilities)) = r.declaring c := by
      rw [hr.declaring_eq c]
      refine List.filter_congr fun n hn => ?_
      rw [if_neg (ne_of_mem_of_not_mem hn hnew)]
    simp only [hfind]
    change (r.index.enterAll d.capabilities d.name).names c =
      (r.names ++ [d.name]).filter fun n =>
        (if n = d.name then some d else r.find? n).any (c ∈ ·.capabilities)
    rw [CapabilityIndex.names_enterAll, List.filter_append, hold, List.filter_singleton, if_pos rfl]
    by_cases hc : c ∈ d.capabilities <;> simp [hc, declaring]
  · rcases List.mem_append.1 hn with hn | hn
    · exact hr.definable n hn
    · rwa [List.mem_singleton.1 hn]

lemma remove {d : Definition} {name : String} (hr : r.WellFormed) (h : r.remove name = .ok (d, t)) :
    t.WellFormed := by
  have hfind := find?_remove h
  obtain ⟨-, rfl⟩ := remove_eq_ok h
  refine ⟨?_, hr.nodup.filter _, fun p hp => hr.name_eq p (List.mem_filter.1 hp).1, fun c => ?_,
    fun n hn => hr.definable n (List.mem_filter.1 hn).1, hr.pipeline_nodup⟩
  · change _ = r.names.filter (· ≠ name)
    rw [← hr.keys_eq, List.filter_map]
    rfl
  · simp only [hfind]
    change (r.index.drop name).names c = (r.names.filter (· ≠ name)).filter fun n =>
      (if n = name then none else r.find? n).any (c ∈ ·.capabilities)
    rw [CapabilityIndex.names_drop]
    change (r.declaring c).filter (· ≠ name) = _
    rw [hr.declaring_eq c, List.filter_comm]
    refine List.filter_congr fun n hn => ?_
    rw [if_neg (by simpa using (List.mem_filter.1 hn).2)]

lemma amend {f : Definition → Definition} (hr : r.WellFormed) (name : String)
    (hf : ∀ d, (f d).name = d.name ∧ (f d).capabilities = d.capabilities) :
    (r.amend name f).WellFormed := by
  refine ⟨?_, hr.nodup, fun p hp => ?_, fun c => ?_, hr.definable, hr.pipeline_nodup⟩
  · exact (r.keys_amend name f).trans hr.keys_eq
  · obtain ⟨q, hq, rfl⟩ := List.mem_map.1 hp
    have hname := hr.name_eq q hq
    split
    · exact (hf q.2).1.trans hname
    · exact hname
  · change r.declaring c = r.names.filter fun n =>
      ((r.amend name f).find? n).any (c ∈ ·.capabilities)
    rw [hr.declaring_eq c]
    refine List.filter_congr fun n _ => ?_
    rw [find?_amend]
    cases r.find? n with
    | none => rfl
    | some d =>
      by_cases h : n = name
      · simp [h, (hf d).2]
      · simp [h]

end WellFormed

lemma Step.wellFormed (h : r.Step lib P t) (hr : r.WellFormed) : t.WellFormed := by
  cases h with
  | register entry stamp h => exact hr.register h
  | remove name h => exact hr.remove h
  | amend name f hf => exact hr.amend name hf
  | snapshot name h =>
    obtain ⟨-, rfl⟩ | ⟨-, -, rfl⟩ := snapshot_eq_ok h
    · exact hr
    · exact ⟨hr.keys_eq, hr.nodup, hr.name_eq, hr.declaring_eq, hr.definable, hr.pipeline_nodup⟩
  | addToPipeline name e _ h =>
    obtain ⟨-, rfl⟩ := addToPipeline_eq_ok h
    exact ⟨hr.keys_eq, hr.nodup, hr.name_eq, hr.declaring_eq, hr.definable,
      Pipeline.nodup_add hr.pipeline_nodup⟩
  | invalidate | destroySingletons | beginCreation | endCreation | store =>
    exact ⟨hr.keys_eq, hr.nodup, hr.name_eq, hr.declaring_eq, hr.definable, hr.pipeline_nodup⟩

end ComponentContainer.Registry
