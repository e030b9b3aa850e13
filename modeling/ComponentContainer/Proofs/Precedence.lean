import ComponentContainer.Precedence
import Mathlib.Data.List.Sort
import Mathlib.Tactic.Lemma

/-! The sort by precedence is the stable one: it is the library's insertion sort for the order of
precedences. -/

namespace ComponentContainer

namespace Precedence

instance : LE Precedence := ⟨fun a b => a.compare b ≠ .gt⟩

instance : DecidableLE Precedence := fun a b => inferInstanceAs (Decidable (a.compare b ≠ .gt))

variable {a b c : Precedence}

lemma not_le : ¬a ≤ b ↔ a.compare b = .gt := Decidable.not_not

lemma le_iff : a ≤ b ↔ a.tier.rank < b.tier.rank ∨
    a.tier.rank = b.tier.rank ∧ a.order.getD 0 ≤ b.order.getD 0 := by
  change a.compare b ≠ .gt ↔ _
  cases a <;> cases b <;> simp [compare, tier, Tier.rank, order, Int.compare_eq_gt]
  -- the tiers differ
  all_goals first | rfl | exact nofun

lemma le_of_rank_lt (h : a.tier.rank < b.tier.rank) : a ≤ b := le_iff.2 (.inl h)

lemma not_le_of_rank_lt (h : b.tier.rank < a.tier.rank) : ¬a ≤ b := by
  rw [le_iff]
  omega

lemma le_of_tier_eq_untagged (ha : a.tier = .untagged) (hb : b.tier = .untagged) : a ≤ b := by
  cases a <;> cases b <;> first | exact le_iff.2 (.inr ⟨rfl, le_rfl⟩) | contradiction

lemma le_total (a b : Precedence) : a ≤ b ∨ b ≤ a := by
  simp only [le_iff]
  omega

lemma le_trans (h : a ≤ b) (h' : b ≤ c) : a ≤ c := by
  simp only [le_iff] at *
  omega

end Precedence

variable {α : Type} (f : α → Precedence)

instance : Std.Total fun x y => f x ≤ f y := ⟨fun x y => Precedence.le_total (f x) (f y)⟩

instance : IsTrans α fun x y => f x ≤ f y := ⟨fun _ _ _ => Precedence.le_trans⟩

lemma insertByPrecedence_eq (x : α) (l : List α) :
    insertByPrecedence f x l = l.orderedInsert (fun x y => f x ≤ f y) x := by
  induction l with
  | nil => rfl
  | cons y l ih =>
    rw [insertByPrecedence, List.orderedInsert_cons, ih]
    by_cases h : f x ≤ f y
    · rw [if_pos h, if_neg h]
    · rw [if_neg h, if_pos (Precedence.not_le.1 h)]

lemma sortByPrecedence_eq (l : List α) :
    sortByPrecedence f l = l.insertionSort fun x y => f x ≤ f y := by
  unfold sortByPrecedence List.insertionSort
  congr 1
  funext x l
  exact insertByPrecedence_eq f x l

lemma sortByPrecedence_pairwise (l : List α) :
    (sortByPrecedence f l).Pairwise fun x y => f x ≤ f y := by
  rw [sortByPrecedence_eq]
  exact List.pairwise_insertionSort _ l

lemma sortByPrecedence_eq_self {l : List α} (h : l.Pairwise fun x y => f x ≤ f y) :
    sortByPrecedence f l = l := by
  rw [sortByPrecedence_eq]
  exact h.insertionSort_eq

lemma map_sortByPrecedence {β : Type} {f : α → Precedence} {g : β → Precedence} {h : α → β}
    {l : List α} (hf : ∀ x ∈ l, f x = g (h x)) :
    (sortByPrecedence f l).map h = sortByPrecedence g (l.map h) := by
  rw [sortByPrecedence_eq, sortByPrecedence_eq]
  refine List.map_insertionSort _ _ _ _ fun x hx y hy => ?_
  rw [hf x hx, hf y hy]

section

variable {f : α → Precedence} {x : α} {l l' : List α}

lemma insertByPrecedence_append_of_le (h : ∀ y ∈ l', f x ≤ f y) :
    insertByPrecedence f x (l ++ l') = insertByPrecedence f x l ++ l' := by
  induction l with
  | nil =>
    cases l' with
    | nil => rfl
    | cons y l' => exact if_neg (h y List.mem_cons_self)
  | cons y l ih =>
    rw [List.cons_append]
    unfold insertByPrecedence
    rw [ih]
    split <;> rfl

lemma insertByPrecedence_append_of_not_le (h : ∀ y ∈ l, ¬f x ≤ f y) :
    insertByPrecedence f x (l ++ l') = l ++ insertByPrecedence f x l' := by
  induction l with
  | nil => rfl
  | cons y l ih =>
    rw [List.forall_mem_cons] at h
    rw [List.cons_append, List.cons_append, ← ih h.2]
    exact if_pos (Precedence.not_le.1 h.1)

end

lemma filter_insertByPrecedence (q : α → Bool) {x : α} {l : List α}
    (hl : l.Pairwise fun y z => f y ≤ f z) :
    (insertByPrecedence f x l).filter q =
      if q x then insertByPrecedence f x (l.filter q) else l.filter q := by
  induction l with
  | nil =>
    change [x].filter q = if q x then [x] else []
    cases h : q x <;> simp [h]
  | cons y l ih =>
    obtain ⟨hy, hl⟩ := List.pairwise_cons.1 hl
    by_cases hxy : f x ≤ f y
    · -- nothing that is kept comes strictly before `x`
      have hkept : insertByPrecedence f x ((y :: l).filter q) = x :: (y :: l).filter q := by
        refine insertByPrecedence_append_of_le (l := []) fun z hz => ?_
        rcases List.mem_cons.1 (List.mem_filter.1 hz).1 with rfl | hz
        · exact hxy
        · exact Precedence.le_trans hxy (hy z hz)
      rw [hkept, show insertByPrecedence f x (y :: l) = x :: y :: l from if_neg hxy, List.filter_cons]
    · have hlater : insertByPrecedence f x (y :: l) = y :: insertByPrecedence f x l :=
        if_pos (Precedence.not_le.1 hxy)
      rw [hlater, List.filter_cons, List.filter_cons, ih hl]
      by_cases hqx : q x <;> by_cases hqy : q y <;> simp only [hqx, hqy, if_true, if_false,
        Bool.false_eq_true]
      exact (if_pos (Precedence.not_le.1 hxy)).symm

lemma sortByPrecedence_filter (q : α → Bool) (l : List α) :
    sortByPrecedence f (l.filter q) = (sortByPrecedence f l).filter q := by
  induction l with
  | nil => rfl
  | cons x l ih =>
    change _ = (insertByPrecedence f x (sortByPrecedence f l)).filter q
    rw [filter_insertByPrecedence f q (sortByPrecedence_pairwise f l), ← ih, List.filter_cons]
    split <;> rfl

def inTier (tier : Tier) (l : List α) : List α := l.filter fun x => (f x).tier = tier

section

variable {f : α → Precedence} {x y : α} {tier tier' : Tier} {l : List α}

lemma tier_of_mem_inTier (h : y ∈ inTier f tier l) : (f y).tier = tier := by
  simpa using (List.mem_filter.1 h).2

lemma tier_of_mem_sort (h : y ∈ sortByPrecedence f (inTier f tier l)) : (f y).tier = tier :=
  tier_of_mem_inTier ((sortByPrecedence_perm f _).mem_iff.1 h)

lemma inTier_cons_self (h : (f x).tier = tier) : inTier f tier (x :: l) = x :: inTier f tier l :=
  List.filter_cons_of_pos (decide_eq_true h)

lemma inTier_cons_of_ne (h : (f x).tier ≠ tier) : inTier f tier (x :: l) = inTier f tier l :=
  List.filter_cons_of_neg (by simpa)

end

lemma sortByPrecedence_eq_tiers (l : List α) :
    sortByPrecedence f l = sortByPrecedence f (inTier f .priority l) ++
      (sortByPrecedence f (inTier f .ordered l) ++ inTier f .untagged l) := by
  induction l with
  | nil => rfl
  | cons x l ih =>
    change insertByPrecedence f x (sortByPrecedence f l) = _
    rw [ih]
    cases hx : (f x).tier with
    | priority =>
      rw [inTier_cons_self hx, inTier_cons_of_ne (by simp [hx]), inTier_cons_of_ne (by simp [hx])]
      refine insertByPrecedence_append_of_le fun y hy => Precedence.le_of_rank_lt ?_
      rcases List.mem_append.1 hy with hy | hy
      · simp [hx, tier_of_mem_sort hy, Tier.rank]
      · simp [hx, tier_of_mem_inTier hy, Tier.rank]
    | ordered =>
      rw [inTier_cons_of_ne (by simp [hx]), inTier_cons_self hx, inTier_cons_of_ne (by simp [hx])]
      rw [insertByPrecedence_append_of_not_le fun y hy => Precedence.not_le_of_rank_lt ?_,
        insertByPrecedence_append_of_le fun y hy => Precedence.le_of_rank_lt ?_]
      · rfl
      · simp [hx, tier_of_mem_inTier hy, Tier.rank]
      · simp [hx, tier_of_mem_sort hy, Tier.rank]
    | untagged =>
      rw [inTier_cons_of_ne (by simp [hx]), inTier_cons_of_ne (by simp [hx]), inTier_cons_self hx]
      rw [insertByPrecedence_append_of_not_le fun y hy => Precedence.not_le_of_rank_lt ?_,
        insertByPrecedence_append_of_not_le fun y hy => Precedence.not_le_of_rank_lt ?_]
      · congr 2
        exact insertByPrecedence_append_of_le (l := []) fun y hy =>
          Precedence.le_of_tier_eq_untagged hx (tier_of_mem_inTier hy)
      · simp [hx, tier_of_mem_sort hy, Tier.rank]
      · simp [hx, tier_of_mem_sort hy, Tier.rank]

end ComponentContainer
