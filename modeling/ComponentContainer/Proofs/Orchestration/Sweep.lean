import ComponentContainer.Proofs.Orchestration.Batches

/-! The sweep at the end of a mutation phase, which finalizes what is left unprocessed. A name is
classified when its turn comes; those of the first tier are created then, the others later. -/

namespace ComponentContainer

variable {σ : Type}

def finalizable (l : List (String × Extension)) : List String :=
  (l.filter (·.2.hasFinalize)).map (·.1)

lemma finalizable_cons (x : String × Extension) (l : List (String × Extension)) :
    finalizable (x :: l) = finalizable [x] ++ finalizable l := by
  unfold finalizable
  rw [← List.map_append, ← List.filter_append, List.singleton_append]

lemma finalizable_append (l l' : List (String × Extension)) :
    finalizable (l ++ l') = finalizable l ++ finalizable l' := by
  unfold finalizable
  rw [List.filter_append, List.map_append]

lemma finalizable_eq_map {l : List (String × Extension)} (h : ∀ x ∈ l, x.2.hasFinalize = true) :
    finalizable l = l.map (·.1) := by
  rw [finalizable, List.filter_eq_self.2 h]

def Candidate.named (c : Candidate) : String × Extension := (c.name, c.extension)

inductive Classifies (S : Surface σ) : ProcessedSet → σ → List String →
    List (Created σ) → List String → List String → Prop
  | nil (p : ProcessedSet) (s : σ) : Classifies S p s [] [] [] []
  | skip {p : ProcessedSet} {s : σ} {name : String} {rest ordered others : List String}
    {priority : List (Created σ)} : name ∈ p → Classifies S p s rest priority ordered others →
      Classifies S p s (name :: rest) priority ordered others
  | priority {p : ProcessedSet} {s : σ} {name : String} {rest ordered others : List String}
    {c : Created σ} {priority : List (Created σ)} : name ∉ p → S.isTagged name .priority s = true →
      c.candidate.name = name → c.before = s →
      Classifies S (p.mark name) c.after rest priority ordered others →
      Classifies S p s (name :: rest) (c :: priority) ordered others
  | ordered {p : ProcessedSet} {s : σ} {name : String} {rest ordered others : List String}
    {priority : List (Created σ)} : name ∉ p → ¬S.isTagged name .priority s = true →
      S.isTagged name .ordered s = true →
      Classifies S (p.mark name) s rest priority ordered others →
      Classifies S p s (name :: rest) priority (name :: ordered) others
  | other {p : ProcessedSet} {s : σ} {name : String} {rest ordered others : List String}
    {priority : List (Created σ)} : name ∉ p → ¬S.isTagged name .priority s = true →
      ¬S.isTagged name .ordered s = true →
      Classifies S (p.mark name) s rest priority ordered others →
      Classifies S p s (name :: rest) priority ordered (name :: others)

structure Sweep (σ : Type) where
  names : List String
  start : σ
  priority : List (Created σ)
  ordered : List (Created σ)
  others : List (Created σ)
  first : List Candidate
  second : List Candidate

namespace Sweep

structure Fits (w : Sweep σ) (S : Surface σ) (p : ProcessedSet) : Prop where
  classifies : Classifies S p w.start w.names w.priority (w.ordered.map (·.candidate.name))
    (w.others.map (·.candidate.name))
  first_ordered : StablyOrders (·.precedence) (w.priority.map (·.candidate)) w.first
  second_ordered : StablyOrders (·.precedence) (w.ordered.map (·.candidate)) w.second

def hooks (w : Sweep σ) : List Candidate := w.first ++ w.second ++ w.others.map (·.candidate)

def order (w : Sweep σ) : List (String × Extension) := w.hooks.map Candidate.named

def events (w : Sweep σ) : List (Observed σ) :=
  .found .finalizer w.names w.start :: w.priority.map .created ++
    (finalizable (w.first.map Candidate.named)).map .finalized ++ w.ordered.map .created ++
    (finalizable (w.second.map Candidate.named)).map .finalized ++
    w.others.flatMap fun c => .created c :: (finalizable [c.candidate.named]).map .finalized

lemma finalizable_order (w : Sweep σ) : finalizable w.order =
    finalizable (w.first.map Candidate.named) ++ finalizable (w.second.map Candidate.named) ++
      finalizable (w.others.map (·.candidate.named)) := by
  unfold order hooks
  rw [List.map_append, List.map_append, List.map_map, finalizable_append, finalizable_append]
  rfl

end Sweep

lemma Sweep.filterMap_hook?_events (w : Sweep σ) :
    w.events.filterMap Observed.hook? = (finalizable w.order).map .finalized := by
  have hothers (l : List (Created σ)) :
      (l.flatMap fun c => .created c :: (finalizable [c.candidate.named]).map
        (Observed.finalized : String → Observed σ)).filterMap Observed.hook? =
      (finalizable (l.map (·.candidate.named))).map .finalized := by
    induction l with
    | nil => rfl
    | cons c l ih =>
      rw [List.flatMap_cons, List.filterMap_append, ih, List.filterMap_cons_none rfl,
        Observed.filterMap_hook?_finalized, ← List.map_append, List.map_cons, ← finalizable_cons]
  simp only [events, finalizable_order, List.filterMap_append, List.cons_append,
    List.filterMap_cons, Observed.filterMap_hook?_created, Observed.filterMap_hook?_finalized,
    hothers, List.map_append, List.nil_append, List.append_nil, Observed.hook?]

namespace Orchestration

variable {S : Surface σ} {hooks : Hooks σ} {s t u : Orchestration (σ × List (Observed σ))}

lemma ends_finalize_seen (name : String) (e : Extension)
    (s : Orchestration (σ × List (Observed σ))) :
    Act.Yields (finalize S.observed hooks.observed name e) s
      (fun ran t => ran = finalizable [(name, e)] ∧ Sees S s t [] (ran.map .finalized)) := by
  apply Act.ends_get_bind
  by_cases he : e.behaviour.hasFinalize = true
  · rw [if_pos he]
    have hran : [name] = finalizable [(name, e)] := by
      simp [finalizable, Extension.hasFinalize, he]
    have hevent : (Observed.finalized name : Observed σ).Faithful S := trivial
    refine (ends_hook hevent _ _ s).bind fun _ u hu => ?_
    exact (ends_ask_unseen S _ u).bind fun _ t ht => ⟨hran, hu.trans ht.2⟩
  · rw [if_neg he]
    have hran : [] = finalizable [(name, e)] := by simp [finalizable, Extension.hasFinalize, he]
    exact (ends_ask_unseen S _ s).bind fun _ t ht => ⟨hran, ht.2⟩

lemma ends_finalizeAll_seen (l : List (String × Extension))
    (s : Orchestration (σ × List (Observed σ))) :
    Act.Yields (finalizeAll S.observed hooks.observed l) s
      (fun names t => names = finalizable l ∧ Sees S s t [] (names.map .finalized)) := by
  apply finalizeAll_rule (P := fun _ _ => True) trivial fun s _ => ⟨rfl, .refl s⟩
  intro s name e rest _
  refine (ends_finalize_seen name e s).mono (fun ran u ⟨hran, hu⟩ => ?_)
  refine ⟨trivial, fun names t ⟨hnames, ht⟩ => ⟨?_, ?_⟩, fun _ _ => id⟩
  · rw [hran, hnames, ← finalizable_cons]
  · rw [List.map_append]
    exact hu.trans ht

lemma ends_instantiateAll_seen (phase : Phase) (names : List String)
    (s : Orchestration (σ × List (Observed σ))) :
    Act.Yields (instantiateAll (instantiate S.observed phase) names) s
      (fun found t => ∃ created : List (Created σ), found = created.map (·.candidate) ∧
        created.map (·.candidate.name) = names ∧ Sees S s t [] (created.map .created)) :=
  ends_instantiateAll_created (R := fun s t l => Sees S s t [] (l.map .created)) .refl
    (fun h h' => List.map_append ▸ h.trans h') (ends_instantiate_seen phase) names s

lemma ends_finalizeEach_seen (names : List String) (s : Orchestration (σ × List (Observed σ))) :
    Act.Yields (finalizeEach S.observed hooks.observed names) s
      (fun finalized t => ∃ created : List (Created σ),
        created.map (·.candidate.name) = names ∧
        finalized = finalizable (created.map (·.candidate.named)) ∧
        Sees S s t [] (created.flatMap fun c =>
          .created c :: (finalizable [c.candidate.named]).map .finalized)) := by
  apply finalizeEach_rule (P := fun _ _ => True) trivial fun s _ => ⟨[], rfl, rfl, .refl s⟩
  intro s name rest _
  refine (ends_instantiate_seen _ name s).mono (fun c u ⟨hc, hu⟩ => ?_)
  refine (ends_finalize_seen c.name c.extension u).mono (fun ran v ⟨hran, hv⟩ => ?_)
  refine ⟨trivial, fun finalized t ⟨created, hnames, hfinalized, ht⟩ => ?_, fun _ _ => id⟩
  subst hc hran hnames hfinalized
  refine ⟨⟨c, s.registry.1, u.registry.1⟩ :: created, rfl, ?_, (hu.trans hv).trans ht⟩
  exact (finalizable_cons _ _).symm

lemma ends_classify_seen (phase : Phase) (names : List String)
    (s : Orchestration (σ × List (Observed σ))) :
    Act.Yields (classify S.observed markNew (instantiate S.observed phase) names) s
      (fun found t => ∃ (created : List (Created σ)) (marked : List String),
        found.1 = created.map (·.candidate) ∧
        Classifies S s.invoker.processed s.registry.1 names created found.2.1 found.2.2 ∧
        Sees S s t marked (created.map .created)) := by
  apply classify_rule (P := fun _ _ => True) trivial fun s _ => ⟨[], [], rfl, .nil _ _, .refl s⟩
  intro s name rest _
  refine (ends_markNew_seen S name s).mono (fun isNew u hu => ?_)
  cases isNew with
  | false =>
    obtain ⟨hname, rfl⟩ := hu
    refine .skipped ⟨trivial, fun found t ⟨created, marked, hfound, hrest, ht⟩ => ?_, fun _ _ => id⟩
    exact ⟨created, marked, hfound, .skip hname hrest, ht⟩
  | true =>
    obtain ⟨hname, hregistry, hu⟩ := hu
    have hprocessed : u.invoker.processed = s.invoker.processed.mark name := hu.processed
    -- marked already, but nothing else has changed when the tier is read
    have htier (tier : Tier) : S.observed.isTagged name tier u.registry =
        S.isTagged name tier s.registry.1 := by
      rw [Surface.isTagged_observed, hregistry]
    refine .isLetIn (fun hpriority => ?_) (fun hpriority hordered => ?_)
      (fun hpriority hordered => ?_)
    · refine (ends_instantiate_seen phase name u).mono (fun c v ⟨hc, hv⟩ => ?_)
      refine ⟨trivial, fun _ t ⟨created, marked, hfound, hrest, ht⟩ => ?_, fun _ _ => id⟩
      rw [(hu.trans hv).processed] at hrest
      rw [htier] at hpriority
      rw [hregistry] at hv
      exact ⟨⟨c, s.registry.1, v.registry.1⟩ :: created, name :: marked,
        congrArg (c :: ·) hfound, .priority hname hpriority hc rfl hrest, (hu.trans hv).trans ht⟩
    · refine ⟨trivial, fun _ t ⟨created, marked, hfound, hrest, ht⟩ => ?_, fun _ _ => id⟩
      rw [hprocessed, hregistry] at hrest
      rw [htier] at hpriority hordered
      exact ⟨created, name :: marked, hfound, .ordered hname hpriority hordered hrest, hu.trans ht⟩
    · refine ⟨trivial, fun _ t ⟨created, marked, hfound, hrest, ht⟩ => ?_, fun _ _ => id⟩
      rw [hprocessed, hregistry] at hrest
      rw [htier] at hpriority hordered
      exact ⟨created, name :: marked, hfound, .other hname hpriority hordered hrest, hu.trans ht⟩

lemma ends_finalizeDiscovered_seen (s : Orchestration (σ × List (Observed σ))) :
    Act.Yields (finalizeDiscovered S.observed hooks.observed) s
      (fun names t => ∃ (w : Sweep σ) (marked : List String), w.Fits S s.invoker.processed ∧
        names = finalizable w.order ∧ Sees S s t marked w.events) := by
  refine (ends_find _ s).bind (fun names u hu => ?_)
  refine (ends_classify_seen _ names u).bind (fun (found, orderedNames, otherNames) v
    ⟨priority, marked, hfound, hclassifies, hv⟩ => ?_)
  rw [hu.processed] at hclassifies
  have hv := hu.trans hv
  refine (ends_finalizeAll_seen _ v).bind (fun first u ⟨hfirst, hu⟩ => ?_)
  have hu := hv.trans hu
  refine (ends_instantiateAll_seen _ _ u).bind (fun created v ⟨ordered, hcreated, hordered, hv⟩ => ?_)
  have hv := hu.trans hv
  refine (ends_finalizeAll_seen _ v).bind (fun second u ⟨hsecond, hu⟩ => ?_)
  have hu := hv.trans hu
  refine (ends_finalizeEach_seen _ u).bind (fun third t ⟨others, hothers, hthird, ht⟩ => ?_)
  subst hcreated hsecond hthird
  rw [show found = priority.map (·.candidate) from hfound] at hfirst
  subst hfirst
  refine Act.ends_pure ⟨⟨names, _, priority, ordered, others, _, _⟩, _, ⟨?_,
    stablyOrders_sortByPrecedence _ _, stablyOrders_sortByPrecedence _ _⟩, ?_, hu.trans ht⟩
  · rw [hordered, hothers]
    exact hclassifies
  · rw [Sweep.finalizable_order]
    rfl

end Orchestration

end ComponentContainer
