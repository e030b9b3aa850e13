import ComponentContainer.Proofs.Orchestration.Effects

/-! The effects of the stages of a mutation phase, and of the phase: whatever way it ends, each hook
that it ran belongs to a name that it marked itself. -/

namespace ComponentContainer

namespace Orchestration

variable {σ : Type} {s t u : Orchestration (σ × List Call)} (S : Surface σ) (hooks : Hooks σ)

lemma ends_collectFrom (tier : Option Tier) (phase : Phase) (names : List String)
    (s : Orchestration (σ × List Call)) :
    Act.Ends (collectFrom S.recorded tier phase names) s
      (fun batch t => Effect s t (batch.map (·.name)) (batch.map (·.name)) [] ∧
        (batch.map (·.name)).Sublist names ∧ (batch = [] → t = s) ∧
        (tier = none → ∀ n ∈ names, n ∈ t.invoker.processed))
      (fun _ t => ∃ marked requested, Effect s t marked requested [] ∧
        ∀ n ∈ requested, n ∉ s.invoker.processed) := by
  apply collectFrom_rule (P := fun _ _ => True) trivial
    fun s _ => ⟨.refl s, .refl _, fun _ => rfl, fun _ _ => by simp⟩
  · intro s name rest _ hskip
    refine ⟨trivial, fun batch t ⟨ht, hsub, hnil, hall⟩ => ?_, fun _ _ => id⟩
    refine ⟨ht, hsub.cons _, hnil, fun htier => List.forall_mem_cons.2 ⟨?_, hall htier⟩⟩
    subst htier
    exact ht.mem_processed.2 (.inr (hskip.resolve_right (by simp)))
  · intro s name rest _ hname _
    refine (ends_instantiate S phase name s).mono (fun c u ⟨hc, hu⟩ => ?_)
      (fun _ u hu => ⟨[], [name], hu, by simpa using hname⟩)
    have hmark : name ∉ u.invoker.processed := by simpa [hu.mem_processed] using hname
    refine (ends_mark hmark).mono (fun _ v hv => ?_) (fun _ _ => False.elim)
    refine ⟨trivial, fun batch t ⟨ht, hsub, _, hall⟩ => ?_,
      fun _ t ⟨marked, requested, ht, hr⟩ => ?_⟩
    · refine ⟨?_, ?_, by simp, fun htier => List.forall_mem_cons.2 ⟨?_, hall htier⟩⟩
      · simpa [hc] using (hu.trans hv).trans ht
      · simpa [hc] using hsub.cons_cons name
      · exact ht.mem_processed.2 (.inr (hv.mem_processed.2 (.inl (by simp))))
    · refine ⟨[] ++ [name] ++ marked, [name] ++ [] ++ requested, (hu.trans hv).trans ht, ?_⟩
      refine List.forall_mem_cons.2 ⟨hname, fun n hn hs => ?_⟩
      exact hr n hn ((hu.trans hv).mem_processed.2 (.inr hs))

structure Progress (hook : String → Call) (s t : Orchestration (σ × List Call))
    (marked requested ran : List String) : Prop where
  effect : Effect s t marked requested (ran.map hook)
  ran_subperm : ran.Subperm marked
  requested_new : ∀ n ∈ requested, n ∉ s.invoker.processed

namespace Progress

variable {hook : String → Call} {marked marked' requested requested' ran ran' : List String}

lemma refl (s : Orchestration (σ × List Call)) : Progress hook s s [] [] [] :=
  ⟨.refl s, .refl _, by simp⟩

lemma trans (h : Progress hook s u marked requested ran)
    (h' : Progress hook u t marked' requested' ran') :
    Progress hook s t (marked ++ marked') (requested ++ requested') (ran ++ ran') := by
  refine ⟨?_, ?_, fun n hn hs => ?_⟩
  · rw [List.map_append]
    exact h.effect.trans h'.effect
  · exact h.ran_subperm.append h'.ran_subperm
  · rcases List.mem_append.1 hn with hn | hn
    · exact h.requested_new n hn hs
    · exact h'.requested_new n hn (h.effect.mem_processed.2 (.inr hs))

lemma perm (h : Progress hook s t marked requested ran) (hp : marked.Perm marked') :
    Progress hook s t marked' requested ran :=
  ⟨h.effect.perm hp, h.ran_subperm.trans hp.subperm, h.requested_new⟩

lemma extend (h : Progress hook s u marked requested ran)
    (ht : Effect u t [] requested' (ran'.map hook)) (hr : (ran ++ ran').Subperm marked)
    (hq : requested' ⊆ marked) :
    Progress hook s t marked (requested ++ requested') (ran ++ ran') := by
  refine ⟨?_, hr, fun n hn => ?_⟩
  · rw [List.map_append]
    simpa using h.effect.trans ht
  · rcases List.mem_append.1 hn with hn | hn
    · exact h.requested_new n hn
    · exact h.effect.not_mem_of_mem_marked (hq hn)

lemma run (h : Progress hook s u marked requested []) (ht : Effect u t [] [] (ran.map hook))
    (hr : ran.Subperm marked) : Progress hook s t marked requested ran := by
  simpa using h.extend ht hr (List.nil_subset _)

lemma request (h : Progress hook s u marked requested ran) (ht : Effect u t [] requested' [])
    (hq : requested' ⊆ marked) : Progress hook s t marked (requested ++ requested') ran := by
  have ht : Effect u t [] requested' (([] : List String).map hook) := ht
  simpa using h.extend ht (by simpa using h.ran_subperm) hq

end Progress

def Progressed (hook : String → Call) (s t : Orchestration (σ × List Call)) : Prop :=
  ∃ marked requested ran, Progress hook s t marked requested ran

lemma Progressed.after {hook : String → Call} {marked requested ran : List String}
    (h' : Progressed hook u t) (h : Progress hook s u marked requested ran) :
    Progressed hook s t := by
  obtain ⟨_, _, _, h'⟩ := h'
  exact ⟨_, _, _, h.trans h'⟩

lemma ends_collect (tier : Option Tier) (phase : Phase) (hook : String → Call)
    (s : Orchestration (σ × List Call)) :
    Act.Ends (collect S.recorded tier phase) s
      (fun batch t => (∃ requested, Progress hook s t (batch.map (·.name)) requested []) ∧
        (∀ c ∈ batch, c.name ∈ (S.find .registryMutator s.registry.1).1) ∧
        (tier = none → ∀ n ∈ (S.find .registryMutator s.registry.1).1, n ∈ t.invoker.processed) ∧
        (batch = [] → t.registry.1 = (S.find .registryMutator s.registry.1).2))
      (fun _ t => Progressed hook s t) := by
  refine (ends_ask_recording _ _ _).bind (fun names u ⟨hfind, hu⟩ => ?_) (fun _ _ => False.elim)
  have hnames : names = (S.find .registryMutator s.registry.1).1 := congrArg Prod.fst hfind
  refine (ends_collectFrom S tier phase names u).bind (fun found t ⟨ht, hsub, hnil, hall⟩ => ?_)
    (fun _ t ⟨marked, requested, ht, hr⟩ => ?_)
  · have hsort := sortByPrecedence_perm (·.precedence) found
    refine Act.ends_pure ⟨⟨found.map (·.name), ?_⟩, fun c hc => ?_,
      fun htier n hn => hall htier n (hnames ▸ hn), fun hempty => ?_⟩
    · refine Progress.perm ⟨hu.trans ht, List.nil_subperm, fun n hn => ?_⟩ (hsort.map _).symm
      exact (hu.trans ht).not_mem_of_mem_marked hn
    · exact hnames ▸ hsub.subset (List.mem_map_of_mem (hsort.mem_iff.1 hc))
    · rw [hnil (List.nil_perm.1 (hempty ▸ hsort))]
      exact congrArg Prod.snd hfind
  · refine ⟨marked, requested, [], hu.trans ht, List.nil_subperm, fun n hn hs => ?_⟩
    exact hr n hn (hu.mem_processed.2 (.inr hs))

lemma ends_mutateAll_of_progress (phase : Phase) {batch : List Candidate} {requested : List String}
    (hu : Progress .mutated s u (batch.map (·.name)) requested []) :
    Act.Ends (mutateAll S.recorded hooks.recorded phase batch) u
      (fun names t => (S.AlwaysEditable → names = batch.map (·.name)) ∧
        Progress .mutated s t (batch.map (·.name)) requested names)
      (fun _ t => Progressed .mutated s t) :=
  (ends_mutateAll S hooks phase batch u).mono
    (fun _ _ ⟨hn, ha, ht⟩ => ⟨ha, hu.run ht hn.subperm⟩)
    (fun _ _ ⟨_, hn, ht⟩ => ⟨_, _, _, hu.run ht hn.subperm⟩)

lemma ends_discover (before budget : Nat) (s : Orchestration (σ × List Call)) :
    Act.Ends (discover S.recorded hooks.recorded before budget) s
      (fun found t => (S.AlwaysEditable → found.mutated = found.invoked.map (·.name)) ∧
        ∃ requested, Progress .mutated s t (found.invoked.map (·.name)) requested found.mutated)
      (fun _ t => Progressed .mutated s t) := by
  apply discover_rule (P := fun _ _ => True) trivial fun s _ => ⟨fun _ => rfl, [], .refl s⟩
  intro s budget _
  refine (ends_collect S none _ .mutated s).mono (fun batch u ⟨⟨requested, hu⟩, _⟩ => ?_)
    (fun _ _ => id)
  refine ⟨?_, fun _ line => (ends_ask_inside _ _).mono (fun _ v hv => ?_) (fun _ _ => False.elim)⟩
  · rintro rfl
    exact ⟨fun _ => rfl, requested, hu⟩
  have hv : Progress .mutated s v (batch.map (·.name)) requested [] := hu.run hv List.nil_subperm
  refine (ends_mutateAll_of_progress S hooks _ hv).mono (fun names w ⟨hnames, hw⟩ => ?_)
    (fun _ _ => id)
  refine ⟨trivial, fun later t ⟨hlater, requested', ht⟩ => ?_, fun _ _ ht => ht.after hw⟩
  refine ⟨fun hS => ?_, requested ++ requested', ?_⟩
  · rw [hnames hS, hlater hS, List.map_append]
  · rw [List.map_append]
    exact hw.trans ht

lemma ends_mutateDeclared (s : Orchestration (σ × List Call)) :
    Act.Ends (mutateDeclared S.recorded hooks.recorded) s
      (fun found t => (S.AlwaysEditable → found.mutated = found.invoked.map (·.name)) ∧
        ∃ requested, Progress .mutated s t (found.invoked.map (·.name)) requested found.mutated)
      (fun _ t => Progressed .mutated s t) := by
  refine (ends_collect S _ _ .mutated s).bind (fun priority u ⟨⟨requested, hu⟩, _⟩ => ?_)
    (fun _ _ => id)
  refine (ends_mutateAll_of_progress S hooks _ hu).bind (fun first u ⟨hfirst, hu⟩ => ?_)
    (fun _ _ => id)
  refine (ends_collect S _ _ .mutated u).bind (fun ordered v ⟨⟨requested', hv⟩, _⟩ => ?_)
    (fun _ _ hv => hv.after hu)
  refine (ends_mutateAll_of_progress S hooks _ hv).bind (fun second v ⟨hsecond, hv⟩ => ?_)
    (fun _ _ hv => hv.after hu)
  apply Act.ends_get_bind
  refine (ends_discover S hooks _ _ v).bind (fun found t ⟨hfound, requested'', ht⟩ => ?_)
    (fun _ _ ht => ht.after (hu.trans hv))
  refine Act.ends_pure ⟨fun hS => ?_, requested ++ requested' ++ requested'', ?_⟩
  · simp only [hfirst hS, hsecond hS, hfound hS, List.map_append]
  · simpa only [List.map_append] using (hu.trans hv).trans ht

lemma ends_mutateSupplied (supplied : List Supplied) (s : Orchestration (σ × List Call)) :
    Act.Ends (mutateSupplied S.recorded hooks.recorded supplied) s
      (fun out t => (S.AlwaysEditable → out.mutated = out.invoked.map (·.name)) ∧
        out.others.Sublist supplied ∧ (∀ item ∈ supplied, item.name ∈ t.invoker.processed) ∧
        Progress .mutated s t (out.invoked.map (·.name) ++ out.others.map (·.name)) [] out.mutated)
      (fun _ t => ∃ marked ran, Progress .mutated s t marked [] ran) := by
  apply mutateSupplied_rule (P := fun _ _ => True) trivial
    fun s _ => ⟨fun _ => rfl, .refl _, by simp, .refl s⟩
  intro s item rest _
  refine (ends_markNew item.name s).mono (fun isNew u hu => ?_) (fun _ _ => False.elim)
  cases isNew with
  | false =>
    obtain ⟨hitem, rfl⟩ := hu
    refine .old fun line => (ends_ask_inside _ _).mono (fun _ v hv => ?_) (fun _ _ => False.elim)
    have hv : Progress .mutated u v [] [] [] := ⟨hv, .refl _, by simp⟩
    refine ⟨trivial, fun out t ⟨ha, hsub, hall, ht⟩ => ?_,
      fun _ t ⟨_, _, ht⟩ => ⟨_, _, hv.trans ht⟩⟩
    refine ⟨ha, hsub.cons _, List.forall_mem_cons.2 ⟨?_, hall⟩, hv.trans ht⟩
    exact (hv.trans ht).effect.mem_processed.2 (.inr hitem)
  | true =>
    have hu : Progress .mutated s u [item.name] [] [] := ⟨hu, List.nil_subperm, by simp⟩
    refine .isNew (fun _ => ?mutator) (fun _ => ?other)
    case mutator =>
      refine (ends_mutate S hooks _ _ u).mono (fun ran v ⟨hran, hv⟩ => ?_)
        (fun _ t ⟨names, hn, ht⟩ => ⟨_, _, hu.run ht hn.subperm⟩)
      have hv : Progress .mutated s v [item.name] [] (if ran then [item.name] else []) := by
        cases ran with
        | false => exact hu.run hv List.nil_subperm
        | true => exact hu.run hv (.refl _)
      refine ⟨trivial, fun out t ⟨ha, hsub, hall, ht⟩ => ?_,
        fun _ t ⟨_, _, ht⟩ => ⟨_, _, hv.trans ht⟩⟩
      refine ⟨fun hS => ?_, hsub.cons _, List.forall_mem_cons.2 ⟨?_, hall⟩, ?_⟩
      · simp [hran hS, ha hS, Supplied.candidate]
      · exact (hv.trans ht).effect.mem_processed.2 (.inl (by simp))
      · cases ran with
        | false => exact hv.trans ht
        | true => exact hv.trans ht
    case other =>
      refine ⟨trivial, fun out t ⟨ha, hsub, hall, ht⟩ => ?_,
        fun _ t ⟨_, _, ht⟩ => ⟨_, _, hu.trans ht⟩⟩
      refine ⟨ha, hsub.cons_cons _, List.forall_mem_cons.2 ⟨?_, hall⟩, ?_⟩
      · exact (hu.trans ht).effect.mem_processed.2 (.inl (by simp))
      · refine (hu.trans ht).perm ?_
        simpa only [List.map_cons, List.singleton_append] using List.perm_middle.symm

lemma ends_settle (supplied : List Supplied) (s : Orchestration (σ × List Call)) :
    Act.Ends (settle S.recorded hooks.recorded supplied) s
      (fun m t => (S.AlwaysEditable → m.mutated = m.invoked.map (·.name)) ∧
        m.others.Sublist supplied ∧ (∀ item ∈ supplied, item.name ∈ t.invoker.processed) ∧
        ∃ requested, (∀ item ∈ supplied, item.name ∉ requested) ∧
          Progress .mutated s t (m.invoked.map (·.name) ++ m.others.map (·.name)) requested
            m.mutated)
      (fun _ t => ∃ marked requested ran, (∀ item ∈ supplied, item.name ∉ requested) ∧
        Progress .mutated s t marked requested ran) := by
  refine (ends_mutateSupplied S hooks supplied s).bind (fun given u ⟨hgiven, hsub, hall, hu⟩ => ?_)
    (fun _ t ⟨_, _, ht⟩ => ⟨_, [], _, by simp, ht⟩)
  refine (ends_mutateDeclared S hooks u).bind (fun found t ⟨hfound, requested, ht⟩ => ?_)
    (fun _ t ⟨_, requested, _, ht⟩ => ⟨_, _, _, ?_, hu.trans ht⟩)
  · refine Act.ends_pure ⟨fun hS => ?_, hsub, fun item hi => ?_, requested,
      fun item hi hr => ?_, ?_⟩
    · simp only [hgiven hS, hfound hS, List.map_append]
    · exact ht.effect.mem_processed.2 (.inr (hall item hi))
    · exact ht.requested_new _ hr (hall item hi)
    · refine (hu.trans ht).perm ?_
      simp only [List.map_append, List.append_assoc]
      exact List.perm_append_comm.append_left _
  · exact fun item hi hr => ht.requested_new _ hr (hall item hi)

lemma ends_finalize (name : String) (e : Extension) (s : Orchestration (σ × List Call)) :
    Act.Ends (finalize S.recorded hooks.recorded name e) s
      (fun ran t => ran.Sublist [name] ∧ Effect s t [] [] (ran.map .finalized))
      (fun _ t => Effect s t [] [] [.finalized name]) := by
  apply Act.ends_get_bind
  split
  · refine (ends_attempt _ _ _ _).bind (fun _ u hu => ?_) (fun _ _ => id)
    refine (ends_ask_inside _ _).bind (fun _ t ht => ?_) (fun _ _ => False.elim)
    exact ⟨.refl _, hu.trans ht⟩
  · refine (ends_ask_inside _ _).bind (fun _ t ht => ?_) (fun _ _ => False.elim)
    exact ⟨List.nil_sublist _, ht⟩

lemma ends_finalizeAll (l : List (String × Extension)) (s : Orchestration (σ × List Call)) :
    Act.Ends (finalizeAll S.recorded hooks.recorded l) s
      (fun names t => names.Sublist (l.map (·.1)) ∧ Effect s t [] [] (names.map .finalized))
      (fun _ t => ∃ names : List String, names.Sublist (l.map (·.1)) ∧
        Effect s t [] [] (names.map .finalized)) := by
  apply finalizeAll_rule (P := fun _ _ => True) trivial fun s _ => ⟨.refl _, .refl s⟩
  intro s name e rest _
  refine (ends_finalize S hooks name e s).mono (fun ran u ⟨hran, hu⟩ => ?_)
    (fun _ t ht => ⟨[name], by simp, ht⟩)
  refine ⟨trivial, fun names t ⟨hn, ht⟩ => ?_, fun _ t ⟨names, hn, ht⟩ => ?_⟩
  · refine ⟨hran.append hn, ?_⟩
    rw [List.map_append]
    exact hu.trans ht
  · refine ⟨ran ++ names, hran.append hn, ?_⟩
    rw [List.map_append]
    exact hu.trans ht

lemma ends_finalizeSettled (m : Settlement) (s : Orchestration (σ × List Call)) :
    Act.Ends (finalizeSettled S.recorded hooks.recorded m) s
      (fun names t => names.Sublist (m.invoked.map (·.name) ++ m.others.map (·.name)) ∧
        Effect s t [] [] (names.map .finalized))
      (fun _ t => ∃ names : List String,
        names.Sublist (m.invoked.map (·.name) ++ m.others.map (·.name)) ∧
        Effect s t [] [] (names.map .finalized)) := by
  have hown :
      (m.invoked.map fun c => (c.name, c.extension)).map (·.1) = m.invoked.map (·.name) := by
    simp
  have hothers :
      (m.others.map fun i => (i.name, i.extension)).map (·.1) = m.others.map (·.name) := by
    simp
  refine (ends_finalizeAll S hooks _ s).bind (fun own u ⟨hn, hu⟩ => ?_)
    (fun _ t ⟨names, hn, ht⟩ => ⟨names, hown ▸ hn.trans (by simp), ht⟩)
  rw [hown] at hn
  refine (ends_finalizeAll S hooks _ u).bind (fun others t ⟨hn', ht⟩ => ?_)
    (fun _ t ⟨names, hn', ht⟩ => ⟨own ++ names, hn.append (hothers ▸ hn'), ?_⟩)
  · refine Act.ends_pure ⟨hn.append (hothers ▸ hn'), ?_⟩
    rw [List.map_append]
    exact hu.trans ht
  · rw [List.map_append]
    exact hu.trans ht

lemma ends_instantiateAll (phase : Phase) (names : List String)
    (s : Orchestration (σ × List Call)) :
    Act.Ends (instantiateAll (instantiate S.recorded phase) names) s
      (fun cs t => cs.map (·.name) = names ∧ Effect s t [] names [])
      (fun _ t => ∃ requested, requested ⊆ names ∧ Effect s t [] requested []) := by
  apply instantiateAll_rule (P := fun _ _ => True) trivial fun s _ => ⟨rfl, .refl s⟩
  intro s name rest _
  refine (ends_instantiate S phase name s).mono (fun c u ⟨hc, hu⟩ => ?_)
    (fun _ t ht => ⟨[name], by simp, ht⟩)
  refine ⟨trivial, fun cs t ⟨hcs, ht⟩ => ⟨?_, hu.trans ht⟩, fun _ t ⟨requested, hr, ht⟩ => ?_⟩
  · rw [List.map_cons, hc, hcs]
  · exact ⟨name :: requested, List.cons_subset_cons _ hr, hu.trans ht⟩

lemma ends_finalizeEach (names : List String) (s : Orchestration (σ × List Call)) :
    Act.Ends (finalizeEach S.recorded hooks.recorded names) s
      (fun ran t => ran.Sublist names ∧ Effect s t [] names (ran.map .finalized))
      (fun _ t => ∃ requested ran : List String, requested ⊆ names ∧ ran.Sublist names ∧
        Effect s t [] requested (ran.map .finalized)) := by
  apply finalizeEach_rule (P := fun _ _ => True) trivial fun s _ => ⟨.refl _, .refl s⟩
  intro s name rest _
  refine (ends_instantiate S _ name s).mono (fun c u ⟨hc, hu⟩ => ?_)
    (fun _ t ht => ⟨[name], [], by simp, List.nil_sublist _, ht⟩)
  subst hc
  refine (ends_finalize S hooks _ _ u).mono (fun own v ⟨hown, hv⟩ => ?_)
    (fun _ t ht => ⟨[c.name], [c.name], by simp, by simp, hu.trans ht⟩)
  refine ⟨trivial, fun ran t ⟨hran, ht⟩ => ⟨hown.append hran, ?_⟩,
    fun _ t ⟨requested, ran, hr, hran, ht⟩ => ?_⟩
  · rw [List.map_append]
    exact (hu.trans hv).trans ht
  · refine ⟨c.name :: requested, own ++ ran, List.cons_subset_cons _ hr, hown.append hran, ?_⟩
    rw [List.map_append]
    exact (hu.trans hv).trans ht

lemma ends_classify (phase : Phase) (names : List String) (s : Orchestration (σ × List Call)) :
    Act.Ends (classify S.recorded markNew (instantiate S.recorded phase) names) s
      (fun (priority, ordered, untagged) t =>
        Progress .finalized s t (priority.map (·.name) ++ ordered ++ untagged)
          (priority.map (·.name)) [])
      (fun _ t => Progressed .finalized s t) := by
  apply classify_rule (P := fun _ _ => True) trivial fun s _ => .refl s
  intro s name rest _
  refine (ends_markNew name s).mono (fun isNew u hu => ?_) (fun _ _ => False.elim)
  cases isNew with
  | false =>
    obtain ⟨-, rfl⟩ := hu
    exact .skipped ⟨trivial, fun _ _ => id, fun _ _ => id⟩
  | true =>
    have hu : Progress .finalized s u [name] [] [] := ⟨hu, List.nil_subperm, by simp⟩
    refine .isLetIn (fun _ => ?_) (fun _ _ => ?_) (fun _ _ => ?_)
    · refine (ends_instantiate S phase name u).mono (fun c v ⟨hc, hv⟩ => ?_)
        (fun _ t ht => ⟨_, _, _, hu.request ht (.refl _)⟩)
      have hv := hu.request hv (.refl _)
      refine ⟨trivial, fun (priority, ordered, untagged) t ht => ?_, fun _ _ ht => ht.after hv⟩
      simpa [hc] using hv.trans ht
    · refine ⟨trivial, fun (priority, ordered, untagged) t ht => (hu.trans ht).perm ?_,
        fun _ _ ht => ht.after hu⟩
      have hperm := @List.perm_middle _ name (priority.map (·.name)) (ordered ++ untagged)
      simpa using hperm.symm
    · refine ⟨trivial, fun (priority, ordered, untagged) t ht => (hu.trans ht).perm ?_,
        fun _ _ ht => ht.after hu⟩
      have hperm := @List.perm_middle _ name (priority.map (·.name) ++ ordered) untagged
      simpa using hperm.symm

lemma ends_finalizeAll_of_progress {l : List (String × Extension)}
    {marked requested ran : List String} (hu : Progress .finalized s u marked requested ran)
    (hl : (ran ++ l.map (·.1)).Subperm marked) :
    Act.Ends (finalizeAll S.recorded hooks.recorded l) u
      (fun names t => names.Sublist (l.map (·.1)) ∧
        Progress .finalized s t marked requested (ran ++ names))
      (fun _ t => Progressed .finalized s t) := by
  have hrun {names : List String} (hn : names.Sublist (l.map (·.1))) :
      (ran ++ names).Subperm marked := (hn.append_left ran).subperm.trans hl
  refine (ends_finalizeAll S hooks l u).mono (fun names t ⟨hn, ht⟩ => ⟨hn, ?_⟩)
    (fun _ t ⟨names, hn, ht⟩ => ⟨marked, requested, ran ++ names, ?_⟩)
  · simpa using hu.extend ht (hrun hn) (List.nil_subset _)
  · simpa using hu.extend ht (hrun hn) (List.nil_subset _)

lemma ends_instantiateAll_of_progress (phase : Phase) {names marked requested ran : List String}
    (hu : Progress .finalized s u marked requested ran) (hn : names ⊆ marked) :
    Act.Ends (instantiateAll (instantiate S.recorded phase) names) u
      (fun cs t => cs.map (·.name) = names ∧
        Progress .finalized s t marked (requested ++ names) ran)
      (fun _ t => Progressed .finalized s t) := by
  exact (ends_instantiateAll S phase names u).mono
    (fun cs t ⟨hcs, ht⟩ => ⟨hcs, hu.request ht hn⟩)
    (fun _ t ⟨_, hr, ht⟩ => ⟨_, _, _, hu.request ht (List.Subset.trans hr hn)⟩)

lemma ends_finalizeEach_of_progress {names marked requested ran : List String}
    (hu : Progress .finalized s u marked requested ran) (hn : (ran ++ names).Subperm marked) :
    Act.Ends (finalizeEach S.recorded hooks.recorded names) u
      (fun ran' t => Progress .finalized s t marked (requested ++ names) (ran ++ ran'))
      (fun _ t => Progressed .finalized s t) := by
  have hsub : names ⊆ marked := List.Subset.trans (List.subset_append_right ran names) hn.subset
  have hrun {ran' : List String} (hr : ran'.Sublist names) : (ran ++ ran').Subperm marked :=
    (hr.append_left ran).subperm.trans hn
  exact (ends_finalizeEach S hooks names u).mono
    (fun ran' t ⟨hr, ht⟩ => hu.extend ht (hrun hr) hsub)
    (fun _ t ⟨_, _, hq, hr, ht⟩ => ⟨_, _, _, hu.extend ht (hrun hr) (List.Subset.trans hq hsub)⟩)

lemma names_sortByPrecedence_perm (batch : List Candidate) :
    (((sortByPrecedence (·.precedence) batch).map fun c => (c.name, c.extension)).map (·.1)).Perm
      (batch.map (·.name)) := by
  rw [List.map_map]
  exact (sortByPrecedence_perm (·.precedence) batch).map (·.name)

lemma ends_finalizeDiscovered (s : Orchestration (σ × List Call)) :
    Act.Ends (finalizeDiscovered S.recorded hooks.recorded) s
      (fun names t => ∃ marked requested, Progress .finalized s t marked requested names)
      (fun _ t => Progressed .finalized s t) := by
  refine (ends_ask_recording _ _ _).bind (fun found u ⟨_, hu⟩ => ?_) (fun _ _ => False.elim)
  have hu : Progress .finalized s u [] [] [] := ⟨hu, .refl _, by simp⟩
  refine (ends_classify S _ found u).bind (fun (priority, ordered, untagged) v hv => ?_)
    (fun _ _ hv => hv.after hu)
  have hv := hu.trans hv
  have hp := (names_sortByPrecedence_perm priority).subperm
  have hfirst : (priority.map (·.name)).Subperm (priority.map (·.name) ++ ordered ++ untagged) := by
    rw [List.append_assoc]
    exact (List.sublist_append_left _ _).subperm
  refine (ends_finalizeAll_of_progress S hooks hv (hp.trans hfirst)).bind
    (fun first w ⟨hf, hw⟩ => ?_) (fun _ _ => id)
  have hsub : ordered ⊆ priority.map (·.name) ++ ordered ++ untagged := by simp
  refine (ends_instantiateAll_of_progress S _ hw hsub).bind
    (fun created x ⟨hc, hx⟩ => ?_) (fun _ _ => id)
  have ho := (names_sortByPrecedence_perm created).subperm
  rw [hc] at ho
  have hsecond := (hf.subperm.trans hp).append ho
  refine (ends_finalizeAll_of_progress S hooks hx
    (hsecond.trans (List.sublist_append_left _ untagged).subperm)).bind
    (fun second y ⟨hs, hy⟩ => ?_) (fun _ _ => id)
  have hthird := ((hf.subperm.trans hp).append (hs.subperm.trans ho)).append (.refl untagged)
  refine (ends_finalizeEach_of_progress S hooks hy hthird).bind (fun third t ht => ?_)
    (fun _ _ => id)
  exact ⟨_, _, ht⟩

/-- What a mutation phase did between two states: it marked some names, requested some that were
neither processed before nor supplied, and ran hooks, each kind at most once for a marked name. -/
structure PhaseEffect (supplied : List Supplied) (s t : Orchestration (σ × List Call))
    (marked requested mutated finalized : List String) : Prop where
  effect : Effect s t marked requested (mutated.map .mutated ++ finalized.map .finalized)
  mutated_subperm : mutated.Subperm marked
  finalized_subperm : finalized.Subperm marked
  requested_new : ∀ n ∈ requested, n ∉ s.invoker.processed
  requested_unsupplied : ∀ item ∈ supplied, item.name ∉ requested

section

variable {supplied : List Supplied}
  {marked marked' requested requested' mutated finalized finalized' : List String}

lemma Progress.phase (h : Progress .mutated s t marked requested mutated)
    (hr : ∀ item ∈ supplied, item.name ∉ requested) :
    PhaseEffect supplied s t marked requested mutated [] :=
  ⟨by simpa using h.effect, h.ran_subperm, List.nil_subperm, h.requested_new, hr⟩

namespace PhaseEffect

lemma finalize (h : PhaseEffect supplied s u marked requested mutated [])
    (ht : Effect u t [] [] (finalized.map .finalized)) (hf : finalized.Subperm marked) :
    PhaseEffect supplied s t marked requested mutated finalized :=
  ⟨by simpa using h.effect.trans ht, h.mutated_subperm, hf, h.requested_new, h.requested_unsupplied⟩

lemma discovered (h : PhaseEffect supplied s u marked requested mutated finalized)
    (hall : ∀ item ∈ supplied, item.name ∈ u.invoker.processed)
    (ht : Progress .finalized u t marked' requested' finalized') :
    PhaseEffect supplied s t (marked ++ marked') (requested ++ requested') mutated
      (finalized ++ finalized') := by
  refine ⟨?_, ?_, h.finalized_subperm.append ht.ran_subperm, fun n hn => ?_, fun item hi hn => ?_⟩
  · simpa using h.effect.trans ht.effect
  · exact h.mutated_subperm.trans (List.sublist_append_left _ _).subperm
  · rcases List.mem_append.1 hn with hn | hn
    · exact h.requested_new n hn
    · exact fun hs => ht.requested_new n hn (h.effect.mem_processed.2 (.inr hs))
  · rcases List.mem_append.1 hn with hn | hn
    · exact h.requested_unsupplied item hi hn
    · exact ht.requested_new _ hn (hall item hi)

lemma between {r v : Orchestration (σ × List Call)} (hs : Effect r s [] [] [])
    (h : PhaseEffect supplied s t marked requested mutated finalized) (ht : Effect t v [] [] []) :
    PhaseEffect supplied r v marked requested mutated finalized := by
  refine ⟨?_, h.mutated_subperm, h.finalized_subperm, fun n hn hr => ?_, h.requested_unsupplied⟩
  · simpa using (hs.trans h.effect).trans ht
  · exact h.requested_new n hn (hs.mem_processed.2 (.inr hr))

end PhaseEffect

lemma ends_mutateRegistry (s : Orchestration (σ × List Call)) :
    Act.Ends (mutateRegistry S.recorded hooks.recorded supplied) s
      (fun m t => ∃ marked requested,
        PhaseEffect supplied s t marked requested m.mutated m.finalized)
      (fun _ t => ∃ marked requested mutated finalized,
        PhaseEffect supplied s t marked requested mutated finalized) := by
  refine (ends_settle S hooks supplied s).bind (fun m u ⟨_, _, hall, requested, hr, hu⟩ => ?_)
    (fun _ t ⟨_, _, _, hr, ht⟩ => ⟨_, _, _, _, ht.phase hr⟩)
  have hu := hu.phase hr
  refine (ends_finalizeSettled S hooks m u).bind (fun handled v ⟨hn, hv⟩ => ?_)
    (fun _ t ⟨names, hn, ht⟩ => ⟨_, _, _, _, hu.finalize ht hn.subperm⟩)
  have hall : ∀ item ∈ supplied, item.name ∈ v.invoker.processed :=
    fun item hi => hv.mem_processed.2 (.inr (hall item hi))
  have hv := hu.finalize hv hn.subperm
  refine (ends_finalizeDiscovered S hooks v).bind (fun found t ⟨_, _, ht⟩ => ?_)
    (fun _ t ⟨_, _, _, ht⟩ => ⟨_, _, _, _, hv.discovered hall ht⟩)
  exact Act.ends_get_bind ⟨_, _, hv.discovered hall ht⟩

lemma ends_finalizeSupplied (s : Orchestration (σ × List Call)) :
    Act.Ends (finalizeSupplied S.recorded hooks.recorded supplied) s
      (fun names t => ∃ marked, Progress .finalized s t marked [] names)
      (fun _ t => ∃ marked names, Progress .finalized s t marked [] names) := by
  apply finalizeSupplied_rule (P := fun _ _ => True) trivial fun s _ => ⟨[], .refl s⟩
  intro s item rest _
  refine (ends_markNew item.name s).mono (fun isNew u hu => ?_) (fun _ _ => False.elim)
  cases isNew with
  | false =>
    obtain ⟨-, rfl⟩ := hu
    exact ⟨trivial, fun _ _ => id, fun _ _ => id⟩
  | true =>
    have hu : Progress .finalized s u [item.name] [] [] := ⟨hu, List.nil_subperm, by simp⟩
    refine (ends_finalize S hooks _ _ u).mono (fun own v ⟨hown, hv⟩ => ?_)
      (fun _ t ht => ⟨_, [item.name], hu.run ht (.refl _)⟩)
    have hv := hu.run hv hown.subperm
    exact ⟨trivial, fun names t ⟨_, ht⟩ => ⟨_, hv.trans ht⟩,
      fun _ t ⟨_, _, ht⟩ => ⟨_, _, hv.trans ht⟩⟩

lemma ends_mutateDegraded (s : Orchestration (σ × List Call)) :
    Act.Ends (mutateDegraded S.recorded hooks.recorded supplied) s
      (fun m t => ∃ marked requested,
        PhaseEffect supplied s t marked requested m.mutated m.finalized)
      (fun _ t => ∃ marked requested mutated finalized,
        PhaseEffect supplied s t marked requested mutated finalized) := by
  refine Act.ends_get_bind ((ends_ask_inside _ _).bind (fun _ u hu => ?_) (fun _ _ => False.elim))
  have hphase {t : Orchestration (σ × List Call)} {marked names : List String}
      (ht : Progress .finalized u t marked [] names) :
      PhaseEffect supplied s t marked [] [] names :=
    ⟨hu.trans ht.effect, List.nil_subperm, ht.ran_subperm, by simp, by simp⟩
  exact (ends_finalizeSupplied S hooks u).bind (fun names t ⟨_, ht⟩ => ⟨_, [], hphase ht⟩)
    (fun _ t ⟨_, _, ht⟩ => ⟨_, [], [], _, hphase ht⟩)

lemma ends_mutationPhase (s : Orchestration (σ × List Call)) :
    Act.Ends (mutationPhase S.recorded hooks.recorded supplied) s
      (fun m t => ∃ marked requested,
        PhaseEffect supplied s t marked requested m.mutated m.finalized)
      (fun _ t => ∃ marked requested mutated finalized,
        PhaseEffect supplied s t marked requested mutated finalized) := by
  apply mutationPhase_rule
  intro line
  refine (ends_ask_inside _ _).mono (fun _ u hu => ?_) (fun _ _ => False.elim)
  refine (ends_ask_recording _ _ _).mono (fun editable v ⟨_, hv⟩ => ?_) (fun _ _ => False.elim)
  have hv : Effect s v [] [] [] := hu.trans hv
  have hphase : Act.Ends (if editable then mutateRegistry S.recorded hooks.recorded supplied
        else mutateDegraded S.recorded hooks.recorded supplied) v
      (fun m t => ∃ marked requested,
        PhaseEffect supplied v t marked requested m.mutated m.finalized)
      (fun _ t => ∃ marked requested mutated finalized,
        PhaseEffect supplied v t marked requested mutated finalized) := by
    split
    · exact ends_mutateRegistry S hooks v
    · exact ends_mutateDegraded S hooks v
  refine hphase.mono (fun m w ⟨_, _, hw⟩ => ?_) (fun e w ⟨_, _, _, _, hw⟩ line => ?_)
  · refine (ends_ask_recording _ _ _).mono (fun _ x ⟨_, hx⟩ line => ?_) (fun _ _ => False.elim)
    exact (ends_ask_inside _ _).mono (fun _ t ht => ⟨_, _, hw.between hv (hx.trans ht)⟩)
      (fun _ _ => False.elim)
  · exact (ends_ask_inside _ _).mono (fun _ t ht => ⟨_, _, _, _, hw.between hv ht⟩)
      (fun _ _ => False.elim)

end

end Orchestration

end ComponentContainer
