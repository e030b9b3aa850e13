import ComponentContainer.Capability
import Mathlib.Data.List.Nodup
import Mathlib.Tactic.Lemma

/-! The names that a capability index has for each capability when names are entered and dropped. -/

namespace ComponentContainer

lemma CapabilitySet.nodup_toList (s : CapabilitySet) : s.toList.Nodup := by
  rw [← s.canonical]
  exact List.Nodup.filter _ (by decide)

namespace CapabilityIndex

variable {x : CapabilityIndex} {c d : Capability} {n name : String}

lemma names_cons (p : Capability × List String) :
    names (p :: x) c = if c = p.1 then p.2 else x.names c := by
  unfold names
  rw [List.lookup_cons]
  by_cases h : c = p.1
  · rw [if_pos h, beq_iff_eq.2 h, Option.getD_some]
  · rw [if_neg h, beq_eq_false_iff_ne.2 h]

@[simp] lemma names_enter_self : names (enter name x c) c = x.names c ++ [name] := by
  induction x with
  | nil => simp [enter, names]
  | cons p x ih =>
    unfold enter
    by_cases h : p.1 = c
    · rw [if_pos h, names_cons, names_cons, if_pos h.symm, if_pos h.symm]
    · rw [if_neg h, names_cons, names_cons, if_neg (Ne.symm h), if_neg (Ne.symm h), ih]

lemma names_enter_of_ne (h : d ≠ c) : names (enter name x c) d = x.names d := by
  induction x with
  | nil => rw [enter, names_cons, if_neg h]
  | cons p x ih =>
    unfold enter
    by_cases hp : p.1 = c
    · rw [if_pos hp, names_cons, names_cons, if_neg (hp ▸ h), if_neg (hp ▸ h)]
    · rw [if_neg hp, names_cons, names_cons, ih]

lemma names_foldl_enter {cs : List Capability} (hcs : cs.Nodup) (c : Capability) :
    names (cs.foldl (enter name) x) c = x.names c ++ if c ∈ cs then [name] else [] := by
  induction cs generalizing x with
  | nil => simp
  | cons d cs ih =>
    obtain ⟨hd, hcs⟩ := List.nodup_cons.1 hcs
    rw [List.foldl_cons, ih hcs]
    by_cases h : c = d
    · subst h
      simp [hd]
    · simp [names_enter_of_ne h, h]

lemma names_enterAll (s : CapabilitySet) (c : Capability) :
    (x.enterAll s name).names c = x.names c ++ if c ∈ s then [name] else [] :=
  names_foldl_enter s.nodup_toList c

lemma names_drop : (x.drop name).names c = (x.names c).filter (· ≠ name) := by
  induction x with
  | nil => rfl
  | cons p x ih =>
    rw [drop, List.map_cons, names_cons, names_cons]
    split
    · rfl
    · exact ih

lemma names_subset_flatMap (x : CapabilityIndex) (c : Capability) :
    x.names c ⊆ x.flatMap (·.2) := by
  intro n hn
  unfold names at hn
  cases hl : x.lookup c with
  | none =>
    rw [hl] at hn
    exact absurd hn List.not_mem_nil
  | some names =>
    rw [hl] at hn
    obtain ⟨before, after, rfl, -⟩ := List.lookup_eq_some_iff.1 hl
    exact List.mem_flatMap.2 ⟨(c, names), by simp, hn⟩

lemma mem_flatMap_enter (h : n ∈ (enter name x c).flatMap (·.2)) :
    n ∈ x.flatMap (·.2) ∨ n = name := by
  induction x with
  | nil => simpa [enter] using h
  | cons p x ih =>
    unfold enter at h
    split at h
    · simp only [List.flatMap_cons, List.mem_append, List.mem_singleton] at h ⊢
      tauto
    · simp only [List.flatMap_cons, List.mem_append] at h ⊢
      tauto

lemma mem_flatMap_enterAll {s : CapabilitySet} (h : n ∈ (x.enterAll s name).flatMap (·.2)) :
    n ∈ x.flatMap (·.2) ∨ n = name := by
  unfold enterAll at h
  generalize s.toList = cs at h
  induction cs generalizing x with
  | nil => exact .inl h
  | cons c cs ih =>
    rcases ih h with h | h
    · exact mem_flatMap_enter h
    · exact .inr h

lemma mem_flatMap_drop (h : n ∈ (x.drop name).flatMap (·.2)) : n ∈ x.flatMap (·.2) := by
  obtain ⟨p, hp, hn⟩ := List.mem_flatMap.1 h
  obtain ⟨q, hq, rfl⟩ := List.mem_map.1 hp
  exact List.mem_flatMap.2 ⟨q, hq, (List.mem_filter.1 hn).1⟩

end CapabilityIndex

end ComponentContainer
