import ComponentContainer.Proofs.Precedence

/-! The sort by precedence has one result only: the arrangement in order that leaves ties as they
stand. -/

namespace ComponentContainer

namespace Precedence

variable {a b c : Precedence}

lemma compare_swap (a b : Precedence) : a.compare b = (b.compare a).swap := by
  cases a <;> cases b <;> simp [compare, tier, Tier.rank, order, Int.compare_swap] <;> rfl

lemma compare_eq_iff : a.compare b = .eq ↔ a = b := by
  cases a <;> cases b <;> simp [compare, tier, Tier.rank, order]

lemma compare_lt_iff : a.compare b = .lt ↔ a.tier.rank < b.tier.rank ∨
    a.tier = b.tier ∧ ∃ m ∈ a.order, ∃ n ∈ b.order, m < n := by
  rw [compare_swap, Ordering.swap_eq_lt, ← not_le, le_iff]
  cases a <;> cases b <;> simp [tier, Tier.rank, order]

lemma le_refl (a : Precedence) : a ≤ a := (le_total a a).elim id id

lemma isLE_compare : (a.compare b).isLE = true ↔ a ≤ b := Ordering.isLE_iff_ne_gt

instance : Std.TransCmp Precedence.compare where
  eq_swap {a b} := compare_swap a b
  isLE_trans h h' := isLE_compare.2 (le_trans (isLE_compare.1 h) (isLE_compare.1 h'))

lemma le_antisymm (h : a ≤ b) (h' : b ≤ a) : a = b :=
  compare_eq_iff.1 (Std.OrientedCmp.isLE_antisymm (isLE_compare.2 h) (isLE_compare.2 h'))

end Precedence

variable {α : Type} {f : α → Precedence} {l l' : List α}

def ties (f : α → Precedence) (p : Precedence) (l : List α) : List α :=
  l.filter fun x => (f x).compare p = .eq

/-- The same elements in order, where those that compare equal stand as they stood. -/
structure StablyOrders (f : α → Precedence) (l l' : List α) : Prop where
  perm : l'.Perm l
  ordered : l'.Pairwise fun x y => (f x).compare (f y) ≠ .gt
  stable : ∀ p, ties f p l' = ties f p l

lemma mem_ties {x : α} {p : Precedence} : x ∈ ties f p l ↔ x ∈ l ∧ f x = p := by
  simp [ties, Precedence.compare_eq_iff]

lemma ties_cons_self (x : α) (l : List α) : ties f (f x) (x :: l) = x :: ties f (f x) l :=
  List.filter_cons_of_pos (decide_eq_true (Precedence.compare_eq_iff.2 rfl))

lemma ties_cons_of_ne {x : α} {p : Precedence} (h : f x ≠ p) (l : List α) :
    ties f p (x :: l) = ties f p l :=
  List.filter_cons_of_neg (by simpa [Precedence.compare_eq_iff])

lemma le_of_mem_cons {x y : α} (h : (y :: l).Pairwise fun x y => f x ≤ f y) (hx : x ∈ y :: l) :
    f y ≤ f x := by
  rcases List.mem_cons.1 hx with rfl | hx
  · exact Precedence.le_refl (f x)
  · exact List.rel_of_pairwise_cons h hx

lemma eq_of_ties_eq (h : l.Pairwise fun x y => f x ≤ f y) (h' : l'.Pairwise fun x y => f x ≤ f y)
    (hties : ∀ p, ties f p l = ties f p l') : l = l' := by
  induction l generalizing l' with
  | nil =>
    cases l' with
    | nil => rfl
    | cons y l' => exact absurd ((hties (f y)).trans (ties_cons_self y l')) nofun
  | cons x l ih =>
    have hmem (z : α) : z ∈ x :: l ↔ z ∈ l' := by
      have hz := congrArg (z ∈ ·) (hties (f z))
      simpa [mem_ties] using hz
    cases l' with
    | nil => exact absurd ((hmem x).1 List.mem_cons_self) List.not_mem_nil
    | cons y l' =>
      -- both heads are least in the same elements
      have hxy : f x = f y := Precedence.le_antisymm
        (le_of_mem_cons h ((hmem y).2 List.mem_cons_self))
        (le_of_mem_cons h' ((hmem x).1 List.mem_cons_self))
      have hheads := hties (f x)
      rw [ties_cons_self, hxy, ties_cons_self] at hheads
      obtain ⟨rfl, htails⟩ := List.cons.inj hheads
      refine congrArg (x :: ·) (ih h.of_cons h'.of_cons fun p => ?_)
      by_cases hp : f x = p
      · exact hp ▸ htails
      · rw [← ties_cons_of_ne hp, hties p, ties_cons_of_ne hp]

lemma ties_sortByPrecedence (f : α → Precedence) (p : Precedence) (l : List α) :
    ties f p (sortByPrecedence f l) = ties f p l := by
  unfold ties
  rw [← sortByPrecedence_filter]
  refine sortByPrecedence_eq_self f (List.pairwise_of_forall_mem_list fun x hx y hy => ?_)
  rw [(mem_ties.1 hx).2, (mem_ties.1 hy).2]
  exact Precedence.le_refl p

lemma stablyOrders_sortByPrecedence (f : α → Precedence) (l : List α) :
    StablyOrders f l (sortByPrecedence f l) where
  perm := sortByPrecedence_perm f l
  ordered := sortByPrecedence_pairwise f l
  stable p := ties_sortByPrecedence f p l

lemma StablyOrders.eq_sortByPrecedence (h : StablyOrders f l l') : l' = sortByPrecedence f l :=
  eq_of_ties_eq h.ordered (sortByPrecedence_pairwise f l) fun p =>
    (h.stable p).trans (ties_sortByPrecedence f p l).symm

/-- Precedences are totally ordered, by tier and then by order value. Of the arrangements of a list the
sort comes to the only one that is in order and leaves ties as they stood; the tiers come one after the
other, the untagged as they stood; and what is left of a list in order is in order. -/
theorem sortByPrecedence_unique (f : α → Precedence) (l : List α) :
    (Std.TransCmp Precedence.compare ∧ ∀ a b : Precedence, a.compare b = .lt ↔
      a.tier.rank < b.tier.rank ∨ a.tier = b.tier ∧ ∃ m ∈ a.order, ∃ n ∈ b.order, m < n) ∧
    (∀ l', StablyOrders f l l' ↔ l' = sortByPrecedence f l) ∧
    sortByPrecedence f l = sortByPrecedence f (inTier f .priority l) ++
      (sortByPrecedence f (inTier f .ordered l) ++ inTier f .untagged l) ∧
    ∀ whole part : List α, (whole.Pairwise fun x y => (f x).compare (f y) ≠ .gt) →
      part.Sublist whole → sortByPrecedence f part = part := by
  refine ⟨⟨inferInstance, fun _ _ => Precedence.compare_lt_iff⟩, fun l' => ⟨?_, ?_⟩,
    sortByPrecedence_eq_tiers f l, fun whole part hwhole hpart => ?_⟩
  · exact StablyOrders.eq_sortByPrecedence
  · rintro rfl
    exact stablyOrders_sortByPrecedence f l
  · exact sortByPrecedence_eq_self f (hwhole.sublist hpart)

example : sortByPrecedence id [.untagged, .ordered 3, .ordered (-2147483648), .priority 2147483647] =
    [.priority 2147483647, .ordered (-2147483648), .ordered 3, .untagged] := by decide

end ComponentContainer
