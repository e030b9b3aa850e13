import ComponentContainer.Proofs.Reachable

/-! The reports of an eligibility checker once the pipeline is as long as its target: there are no
more of them. -/

namespace ComponentContainer.Session

variable {lib : Catalog} {s t : Session} {checker target : Nat}

lemma reportsOf_congr (h : t.reports = s.reports) (checker : Nat) :
    t.reportsOf checker = s.reportsOf checker := by
  unfold reportsOf
  rw [h]

lemma reportsOf_report (s : Session) (report : Report) (checker : Nat) :
    reportsOf { s with reports := s.reports ++ [report] } checker =
      if report.checker = checker then s.reportsOf checker ++ [report] else s.reportsOf checker := by
  unfold reportsOf
  rw [List.filter_append, List.filter_singleton]
  split <;> simp [*]

structure Armed (s : Session) (checker target : Nat) : Prop where
  given : checker < s.nextStamp
  target_eq : ∀ entry ∈ s.registry.pipeline, ∀ other,
    entry.extension.behaviour = .eligibilityChecker other → entry.extension.stamp = checker →
      other = target

lemma WellFormed.armed (hs : s.WellFormed) {r : Registry} {name : String}
    (h : s.registry.addToPipeline name ⟨s.nextStamp, .eligibilityChecker target⟩ = .ok r)
    (ht : t.registry = r) (hnext : s.nextStamp < t.nextStamp) : t.Armed s.nextStamp target := by
  obtain ⟨-, rfl⟩ := Registry.addToPipeline_eq_ok h
  refine ⟨hnext, fun entry he other hb hstamp => ?_⟩
  rw [ht] at he
  rcases Pipeline.mem_add he with he | rfl
  · exact absurd hstamp (Nat.ne_of_lt (hs.stamped entry he other hb))
  · exact (Behaviour.eligibilityChecker.inj hb).symm

lemma Step.armed (h : s.Step lib Extension.Unarmed t) (hs : s.Armed checker target) :
    t.Armed checker target := by
  refine ⟨Nat.lt_of_lt_of_le hs.given h.nextStamp_le, fun entry he other hb hstamp => ?_⟩
  rcases h.mem_pipeline he with he | hunarmed | ⟨hnew, -⟩
  · exact hs.target_eq entry he other hb hstamp
  · exact absurd hb (hunarmed other)
  · exact absurd (hstamp.symm.trans hnew) (Nat.ne_of_lt hs.given)

theorem Path.armed (h : s.Path lib Extension.Unarmed t) (hs : s.Armed checker target) :
    t.Armed checker target := by
  induction h with
  | refl => exact hs
  | tail _ h ih => exact h.armed ih

lemma Step.reportsOf_eq (h : s.Step lib Extension.Unarmed t) (hs : s.Armed checker target)
    (hl : target ≤ s.registry.pipeline.length) : t.reportsOf checker = s.reportsOf checker := by
  cases h with
  | write _ hr => exact reportsOf_congr hr checker
  | registry | arm => rfl
  | report report he hb hr hlt =>
    have hne : report.checker ≠ checker := by
      intro heq
      rw [hs.target_eq _ he _ hb (hr.symm.trans heq)] at hlt
      exact Nat.not_le_of_lt hlt hl
    rw [reportsOf_report, if_neg hne]

theorem Path.reportsOf_eq (h : s.Path lib Extension.Unarmed t) (hw : s.WellFormed)
    (hs : s.Armed checker target) (hl : target ≤ s.registry.pipeline.length) :
    t.reportsOf checker = s.reportsOf checker := by
  induction h with
  | refl => rfl
  | tail h h' ih =>
    have hlength := Nat.le_trans hl (Path.pipeline_length_le h hw)
    exact (h'.reportsOf_eq (Path.armed h hs) hlength).trans ih

end ComponentContainer.Session
