import ComponentContainer.Pipeline
import Mathlib.Data.List.Dedup
import Mathlib.Data.List.Induction
import Mathlib.Data.List.Nodup
import Mathlib.Data.List.Perm.Subperm

/-! A pipeline when entries are added to it: its names, and what is left of the entries. -/

namespace ComponentContainer.Pipeline

variable {p : Pipeline} {e : PipelineEntry} {n : String}

lemma names_add : (p.add e).names = p.names.filter (· ≠ e.name) ++ [e.name] := by
  unfold names add
  rw [List.map_append, List.map_singleton, List.filter_map]
  rfl

lemma mem_names_add : n ∈ (p.add e).names ↔ n ∈ p.names ∨ n = e.name := by
  rw [names_add, List.mem_append, List.mem_singleton, List.mem_filter, decide_eq_true_eq]
  constructor
  · rintro (⟨hn, -⟩ | hn)
    · exact .inl hn
    · exact .inr hn
  · intro h
    by_cases hn : n = e.name
    · exact .inr hn
    · exact .inl ⟨h.resolve_right hn, hn⟩

lemma nodup_add (h : p.names.Nodup) : (p.add e).names.Nodup := by
  rw [names_add, List.nodup_append]
  refine ⟨h.filter _, by simp, fun a ha b hb => ?_⟩
  rw [List.mem_singleton.1 hb]
  simpa using (List.mem_filter.1 ha).2

lemma mem_add {entry : PipelineEntry} (h : entry ∈ p.add e) : entry ∈ p ∨ entry = e := by
  rcases List.mem_append.1 h with h | h
  · exact .inl (List.mem_filter.1 h).1
  · exact .inr (List.mem_singleton.1 h)

def addAll (p : Pipeline) (l : List PipelineEntry) : Pipeline := l.foldl add p

lemma nodup_addAll {l : List PipelineEntry} (h : p.names.Nodup) : (p.addAll l).names.Nodup := by
  induction l generalizing p with
  | nil => exact h
  | cons e l ih => exact ih (nodup_add h)

lemma addAll_append (p : Pipeline) (l l' : List PipelineEntry) :
    p.addAll (l ++ l') = (p.addAll l).addAll l' := List.foldl_append

lemma getLast?_addAll (p : Pipeline) (l : List PipelineEntry) :
    (p.addAll l).getLast? = l.getLast?.or p.getLast? := by
  induction l using List.reverseRecOn with
  | nil => rfl
  | append_singleton l e _ =>
    rw [addAll_append, List.getLast?_concat]
    exact List.getLast?_concat

lemma addAll_eq {l : List PipelineEntry} (h : (names l).Nodup) (p : Pipeline) :
    p.addAll l = p.filter (·.name ∉ names l) ++ l := by
  induction l generalizing p with
  | nil => simp [addAll, names]
  | cons e l ih =>
    obtain ⟨he, h⟩ : e.name ∉ names l ∧ (names l).Nodup := List.nodup_cons.1 h
    change (p.add e).addAll l = _
    rw [ih h]
    have hkept : [e].filter (·.name ∉ names l) = [e] := by simp [he]
    rw [add, List.filter_append, hkept, List.filter_filter, List.append_assoc, List.singleton_append]
    congr 1
    refine List.filter_congr fun x _ => ?_
    change _ = decide (x.name ∉ e.name :: names l)
    simp [Bool.and_comm]

lemma addAll_addAll_filter {l : List PipelineEntry} (h : (names l).Nodup) (again : PipelineEntry → Bool)
    (p : Pipeline) : (p.addAll l).addAll (l.filter again) =
      p.filter (·.name ∉ names l) ++ (l.filter (!again ·) ++ l.filter again) := by
  have hsub : names (l.filter again) ⊆ names l := (List.filter_sublist.map _).subset
  rw [addAll_eq h, addAll_eq (h.sublist (List.filter_sublist.map _)), List.filter_append,
    List.append_assoc, List.filter_filter]
  congr 1
  · refine List.filter_congr fun x _ => ?_
    by_cases hx : x.name ∈ names l
    · simp [hx]
    · simp [hx, mt (@hsub x.name) hx]
  · congr 1
    refine List.filter_congr fun x hx => ?_
    have hiff : x.name ∈ names (l.filter again) ↔ again x = true := by
      constructor
      · intro hn
        obtain ⟨y, hy, hname⟩ := List.mem_map.1 hn
        obtain ⟨hy, hagain⟩ := List.mem_filter.1 hy
        rwa [← List.inj_on_of_nodup_map h hy hx hname]
      · exact fun hx' => List.mem_map_of_mem (List.mem_filter.2 ⟨hx, hx'⟩)
    simp [hiff]

lemma length_names : p.names.length = p.length := List.length_map _

def latest (l : List PipelineEntry) : Pipeline := l.pwFilter fun x y => x.name ≠ y.name

lemma names_latest (l : List PipelineEntry) : (latest l).names = (names l).dedup :=
  (List.pwFilter_map (R := (· ≠ ·)) PipelineEntry.name l).symm

lemma latest_of_nodup (h : p.names.Nodup) : latest p = p :=
  List.pwFilter_eq_self.2 (List.pairwise_map.1 h)

lemma latest_cons (x : PipelineEntry) (l : List PipelineEntry) :
    latest (x :: l) = if x.name ∈ names l then latest l else x :: latest l := by
  have hmem : (∀ y ∈ latest l, x.name ≠ y.name) ↔ x.name ∉ names l := by
    rw [← List.mem_dedup, ← names_latest, names, List.mem_map]
    exact ⟨fun h ⟨y, hy, hxy⟩ => h y hy hxy.symm, fun h y hy hxy => h ⟨y, hy, hxy.symm⟩⟩
  by_cases hx : x.name ∈ names l
  · rw [if_pos hx]
    exact List.pwFilter_cons_of_neg (mt hmem.1 (not_not.2 hx))
  · rw [if_neg hx]
    exact List.pwFilter_cons_of_pos (hmem.2 hx)

lemma latest_concat (l : List PipelineEntry) (e : PipelineEntry) :
    latest (l ++ [e]) = (latest l).add e := by
  induction l with
  | nil => rfl
  | cons x l ih =>
    have hnames : names (l ++ [e]) = names l ++ [e.name] := List.map_append
    have hmem : x.name ∈ names (l ++ [e]) ↔ x.name ∈ names l ∨ x.name = e.name := by
      rw [hnames, List.mem_append, List.mem_singleton]
    rw [List.cons_append, latest_cons, latest_cons, ih]
    by_cases hx : x.name ∈ names l
    · rw [if_pos (hmem.2 (.inl hx)), if_pos hx]
    by_cases he : x.name = e.name
    · rw [if_pos (hmem.2 (.inr he)), if_neg hx, add, add, List.filter_cons_of_neg (by simpa using he)]
    · rw [if_neg (mt hmem.1 (not_or.2 ⟨hx, he⟩)), if_neg hx, add, add,
        List.filter_cons_of_pos (by simpa using he), List.cons_append]

lemma addAll_eq_latest {l : List PipelineEntry} (h : p.names.Nodup) :
    p.addAll l = latest (p ++ l) := by
  induction l using List.reverseRecOn with
  | nil => rw [List.append_nil, latest_of_nodup h]; rfl
  | append_singleton l e ih =>
    rw [addAll_append, ih, ← List.append_assoc, latest_concat]
    rfl

lemma owner?_add : (p.add e).owner? n = if n = e.name then some e.extension else p.owner? n := by
  unfold owner? add
  rw [List.find?_append]
  split
  · subst n
    have hnone : (p.filter (·.name ≠ e.name)).find? (·.name = e.name) = none := by
      rw [List.find?_eq_none]
      simp
    rw [hnone, Option.none_or]
    simp
  · rename_i hn
    have hsingle : [e].find? (·.name = n) = none := by simpa using Ne.symm hn
    rw [hsingle, Option.or_none, List.find?_filter]
    congr 2
    funext x
    by_cases hx : x.name = n <;> simp [hx, hn]

lemma owner?_latest (l : List PipelineEntry) :
    (latest l).owner? n = (l.reverse.find? (·.name = n)).map (·.extension) := by
  induction l using List.reverseRecOn with
  | nil => rfl
  | append_singleton l e ih =>
    rw [latest_concat, owner?_add, ih, List.reverse_append, List.reverse_singleton,
      List.singleton_append, List.find?_cons]
    by_cases hn : n = e.name
    · simp [hn]
    · have hne : ¬e.name = n := fun h => hn h.symm
      simp [hn, hne]

lemma filter_addAll (l : List PipelineEntry) (p : Pipeline) :
    (p.addAll l).filter (·.name ∉ names l) = p.filter (·.name ∉ names l) := by
  induction l generalizing p with
  | nil => rfl
  | cons e l ih =>
    have hsplit (q : Pipeline) : q.filter (·.name ∉ names (e :: l)) =
        (q.filter (·.name ∉ names l)).filter (·.name ≠ e.name) := by
      rw [List.filter_filter]
      refine List.filter_congr fun x _ => ?_
      simp [names]
    change ((p.add e).addAll l).filter _ = _
    have hkept : (p.add e).filter (·.name ≠ e.name) = p.filter (·.name ≠ e.name) := by
      have hlast : [e].filter (·.name ≠ e.name) = [] := by simp
      rw [add, List.filter_append, hlast, List.append_nil, List.filter_filter]
      simp only [Bool.and_self]
    rw [hsplit, ih, hsplit, List.filter_comm, hkept, List.filter_comm]

lemma length_le_addAll {l : List PipelineEntry} (h : p.names.Nodup) :
    p.length ≤ (p.addAll l).length := by
  induction l generalizing p with
  | nil => exact Nat.le_refl _
  | cons e l ih =>
    have hsub : p.names ⊆ (p.add e).names := fun n hn => mem_names_add.2 (.inl hn)
    have hle := (List.subperm_of_subset h hsub).length_le
    rw [length_names, length_names] at hle
    exact Nat.le_trans hle (ih (nodup_add h))

end ComponentContainer.Pipeline

namespace ComponentContainer

lemma length_add_length_present {before after expected : List String} (hb : before.Nodup)
    (ha : after.Nodup) (he : expected.Nodup) (hsub : before ⊆ after) (hsub' : expected ⊆ after) :
    after.length + (expected.filter (· ∈ before)).length = before.length + expected.length +
      (after.filter fun n => n ∉ before ∧ n ∉ expected).length := by
  have hnodup : (before ++ (expected.filter (· ∉ before) ++
      after.filter fun n => n ∉ before ∧ n ∉ expected)).Nodup := by
    refine List.nodup_append.2 ⟨hb, List.nodup_append.2 ⟨he.filter _, ha.filter _, ?_⟩, ?_⟩
    · rintro m hm n hn rfl
      simp only [List.mem_filter, decide_eq_true_eq] at hm hn
      exact hn.2.2 hm.1
    · rintro m hm n hn rfl
      simp only [List.mem_append, List.mem_filter, decide_eq_true_eq] at hn
      rcases hn with hn | hn
      · exact hn.2 hm
      · exact hn.2.1 hm
  have hperm : (before ++ (expected.filter (· ∉ before) ++
      after.filter fun n => n ∉ before ∧ n ∉ expected)).Perm after := by
    refine (List.perm_ext_iff_of_nodup hnodup ha).2 fun n => ?_
    simp only [List.mem_append, List.mem_filter, decide_eq_true_eq]
    constructor
    · rintro (hn | hn | hn)
      · exact hsub hn
      · exact hsub' hn.1
      · exact hn.1
    · intro hn
      by_cases h : n ∈ before
      · exact .inl h
      by_cases h' : n ∈ expected
      · exact .inr (.inl ⟨h', h⟩)
      · exact .inr (.inr ⟨hn, h, h'⟩)
  have hlength := hperm.length_eq
  have hsplit := List.length_eq_length_filter_add (l := expected) (decide <| · ∈ before)
  have hnew : (expected.filter fun n => !decide (n ∈ before)) = expected.filter (· ∉ before) :=
    List.filter_congr fun n _ => by simp
  rw [hnew] at hsplit
  rw [List.length_append, List.length_append] at hlength
  omega

end ComponentContainer
