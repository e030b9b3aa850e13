import ComponentContainer.Registry
import Mathlib.Tactic.Lemma

/-! What a request to a registry has done once it succeeds. -/

namespace ComponentContainer

section

variable {α β : Type} [DecidableEq α] {l : List (α × β)} {a b : α}

lemma mem_of_lookup {x : β} (h : l.lookup a = some x) : (a, x) ∈ l := by
  obtain ⟨before, after, rfl, -⟩ := List.lookup_eq_some_iff.1 h
  exact List.mem_append_right _ List.mem_cons_self

lemma mem_keys_of_lookup {x : β} (h : l.lookup a = some x) : a ∈ l.map (·.1) :=
  List.mem_map_of_mem (mem_of_lookup h)

lemma lookup_isSome_iff_mem_keys : (l.lookup a).isSome ↔ a ∈ l.map (·.1) := by
  rw [List.lookup_isSome_iff, List.mem_map]
  exact exists_congr fun p => and_congr_right fun _ => by rw [beq_iff_eq, eq_comm]

lemma lookup_drop_of_ne (h : a ≠ b) : (l.filter (·.1 ≠ b)).lookup a = l.lookup a := by
  induction l with
  | nil => rfl
  | cons p l ih =>
    by_cases hp : p.1 = b
    · have ha : (a == p.1) = false := by simpa [hp] using h
      rw [List.filter_cons_of_neg (by simpa using hp), ih, List.lookup_cons, ha]
    · rw [List.filter_cons_of_pos (by simpa using hp), List.lookup_cons, List.lookup_cons, ih]

lemma lookup_drop_self : (l.filter (·.1 ≠ b)).lookup b = none := by
  rw [List.lookup_eq_none_iff]
  intro p hp
  have hne : p.1 ≠ b := by simpa using (List.mem_filter.1 hp).2
  simpa using hne.symm

lemma lookup_concat_of_ne (x : β) (h : a ≠ b) : (l ++ [(b, x)]).lookup a = l.lookup a := by
  have hsingle : [(b, x)].lookup a = none := by simpa using h
  rw [List.lookup_append, hsingle, Option.or_none]

lemma lookup_concat_self (x : β) (h : l.lookup b = none) :
    (l ++ [(b, x)]).lookup b = some x := by
  rw [List.lookup_append, h, Option.none_or, List.lookup_cons_self]

lemma lookup_amend (l : List (α × β)) (f : β → β) :
    (l.map fun p => if p.1 = b then (p.1, f p.2) else p).lookup a =
      (l.lookup a).map fun x => if a = b then f x else x := by
  induction l with
  | nil => rfl
  | cons p l ih =>
    obtain ⟨k, x⟩ := p
    rw [List.map_cons]
    by_cases hk : a = k
    · subst hk
      by_cases hb : a = b <;> simp only [hb, if_true, if_false, List.lookup_cons_self, Option.map]
    · have hkey : (a == k) = false := beq_eq_false_iff_ne.2 hk
      by_cases hb : k = b
      · rw [if_pos hb, List.lookup_cons, List.lookup_cons, hkey, ih]
      · rw [if_neg hb, List.lookup_cons, List.lookup_cons, hkey, ih]

end

namespace Registry

variable {r t : Registry} {d : Definition} {e : Extension} {name : String}

lemma register_eq_ok (h : r.register d = .ok t) :
    Name.isDefinable d.name = true ∧ r.find? d.name = none ∧ t = { r with
      definitions := r.definitions ++ [(d.name, d)]
      order := r.order ++ [d.name]
      index := r.index.enterAll d.capabilities d.name
      snapshots := r.snapshots.filter (·.1 ≠ d.name) } := by
  unfold register at h
  split at h
  · cases h
  split at h
  · cases h
  rename_i hname htaken
  refine ⟨by simpa using hname, ?_, (Except.ok.inj h).symm⟩
  simpa [contains] using htaken

lemma remove_eq_ok (h : r.remove name = .ok (d, t)) :
    r.find? name = some d ∧ t = { r with
      definitions := r.definitions.filter (·.1 ≠ name)
      order := r.order.filter (· ≠ name)
      index := r.index.drop name
      snapshots := r.snapshots.filter (·.1 ≠ name)
      singletons := r.singletons.filter (·.1 ≠ name) } := by
  unfold remove at h
  split at h
  · cases h
  · cases h
    exact ⟨‹_›, rfl⟩

lemma snapshot_eq_ok (h : r.snapshot name = .ok (d, t)) :
    r.snapshots.lookup name = some d ∧ t = r ∨
      r.snapshots.lookup name = none ∧ r.find? name = some d ∧
        t = { r with snapshots := r.snapshots ++ [(name, d)] } := by
  unfold snapshot at h
  split at h
  · cases h
    exact .inl ⟨‹_›, rfl⟩
  split at h
  · cases h
    exact .inr ⟨‹_›, ‹_›, rfl⟩
  · cases h

lemma snapshot_eq_error {e : RegistryError} (h : r.snapshot name = .error e) :
    e = .noSuchDefinition name ∧ r.find? name = none := by
  unfold snapshot at h
  split at h
  · cases h
  split at h
  · cases h
  · cases h
    exact ⟨rfl, ‹_›⟩

lemma exists_snapshot (h : r.find? name = some d) : ∃ x t, r.snapshot name = .ok (x, t) := by
  unfold snapshot
  cases r.snapshots.lookup name with
  | some x => exact ⟨x, r, rfl⟩
  | none =>
    rw [h]
    exact ⟨d, _, rfl⟩

lemma addToPipeline_eq_ok (h : r.addToPipeline name e = .ok t) :
    .instanceHook ∈ e.behaviour.capabilities ∧
      t = { r with pipeline := r.pipeline.add ⟨name, e⟩ } := by
  unfold addToPipeline PipelineEntry.make at h
  split at h
  · cases h
    exact ⟨‹_›, rfl⟩
  · cases h

lemma find?_register (h : r.register d = .ok t) (n : String) :
    t.find? n = if n = d.name then some d else r.find? n := by
  obtain ⟨-, htaken, rfl⟩ := register_eq_ok h
  split
  · subst n
    exact lookup_concat_self d htaken
  · exact lookup_concat_of_ne d ‹_›

lemma find?_remove (h : r.remove name = .ok (d, t)) (n : String) :
    t.find? n = if n = name then none else r.find? n := by
  obtain ⟨-, rfl⟩ := remove_eq_ok h
  split
  · subst n
    exact lookup_drop_self
  · exact lookup_drop_of_ne ‹_›

lemma singleton?_remove (h : r.remove name = .ok (d, t)) (n : String) :
    t.singleton? n = if n = name then none else r.singleton? n := by
  obtain ⟨-, rfl⟩ := remove_eq_ok h
  split
  · subst n
    exact lookup_drop_self
  · exact lookup_drop_of_ne ‹_›

lemma find?_amend (r : Registry) (name : String) (f : Definition → Definition) (n : String) :
    (r.amend name f).find? n = (r.find? n).map fun d => if n = name then f d else d :=
  lookup_amend r.definitions f

lemma endCreation_beginCreation (h : name ∉ r.inCreation) :
    (r.beginCreation name).endCreation name = r := by
  have hkept : r.inCreation.filter (· ≠ name) = r.inCreation :=
    List.filter_eq_self.2 fun n hn => by simpa using ne_of_mem_of_not_mem hn h
  change { r with inCreation := (name :: r.inCreation).filter (· ≠ name) } = r
  rw [List.filter_cons_of_neg (by simp), hkept]

lemma keys_amend (r : Registry) (name : String) (f : Definition → Definition) :
    (r.amend name f).definitions.map (·.1) = r.definitions.map (·.1) := by
  rw [amend, List.map_map]
  refine List.map_congr_left fun p _ => ?_
  simp only [Function.comp_apply]
  split <;> rfl

end Registry

end ComponentContainer
