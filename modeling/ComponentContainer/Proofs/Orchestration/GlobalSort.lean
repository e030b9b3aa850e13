import ComponentContainer.Proofs.Orchestration.PhaseOrder
import ComponentContainer.Proofs.Orchestration.PipelineOrder
import ComponentContainer.Proofs.Orchestration.Turns

/-! Where nothing that a phase runs changes what is declared or with which precedence, its tiers and
rounds come down to one stable sort for the mutators and one for the finalizers. -/

namespace ComponentContainer

variable {σ : Type}

/-! ### Where the precedences stay as they are -/

def Surface.Ranks (S : Surface σ) (f : String → Precedence) (names : List String) (s : σ) : Prop :=
  ∀ n ∈ names, S.precedenceOf n s = some (f n)

section

variable {S : Surface σ} {f : String → Precedence} {names : List String} {s : σ} {n : String}
  {p : ProcessedSet} {tier : Option Tier}

lemma Surface.Ranks.isTagged (h : S.Ranks f names s) (hn : n ∈ names) (x : Tier) :
    S.isTagged n x s = true ↔ (f n).tier = x := by
  unfold Surface.isTagged
  simp [h n hn]

lemma Surface.Ranks.tail {name : String} (h : S.Ranks f (name :: names) s) : S.Ranks f names s :=
  fun n hn => h n (List.mem_cons_of_mem _ hn)

lemma filter_mark {name : String} (hnodup : (name :: names).Nodup) (q : String → Bool) :
    names.filter (fun n => decide (n ∉ p.mark name) && q n) =
      names.filter fun n => decide (n ∉ p) && q n := by
  refine List.filter_congr fun n hn => ?_
  have hne : n ≠ name := ne_of_mem_of_not_mem hn (List.nodup_cons.1 hnodup).1
  simp [hne]

lemma Picks.names_eq {picked : List (Created σ)} (h : Picks S tier p s names picked)
    (hs : S.Ranks f names s) (hpicked : ∀ c ∈ picked, S.Ranks f names c.after)
    (hnodup : names.Nodup) : picked.map (·.candidate.name) =
      names.filter fun n => decide (n ∉ p) && tier.all ((f n).tier = ·) := by
  induction h with
  | nil => rfl
  | @skip p s name rest picked hdue _ ih =>
    rw [ih hs.tail (fun c hc => (hpicked c hc).tail) (List.nodup_cons.1 hnodup).2,
      List.filter_cons_of_neg]
    have htag := hs.isTagged List.mem_cons_self
    unfold Surface.Due at hdue
    cases tier <;> simp_all
  | @pick p s name rest c picked hdue hname _ _ ih =>
    obtain ⟨hafter, hpicked⟩ := List.forall_mem_cons.1 hpicked
    have htag := hs.isTagged List.mem_cons_self
    rw [List.map_cons, hname, ih hafter.tail (fun c hc => (hpicked c hc).tail)
      (List.nodup_cons.1 hnodup).2, filter_mark hnodup, List.filter_cons_of_pos]
    unfold Surface.Due at hdue
    cases tier <;> simp_all

lemma Classifies.names_eq {priority : List (Created σ)} {ordered others : List String}
    (h : Classifies S p s names priority ordered others) (hs : S.Ranks f names s)
    (hcreated : ∀ c ∈ priority, S.Ranks f names c.after) (hnodup : names.Nodup) :
    priority.map (·.candidate.name) = inTier f .priority (names.filter (· ∉ p)) ∧
    ordered = inTier f .ordered (names.filter (· ∉ p)) ∧
    others = inTier f .untagged (names.filter (· ∉ p)) := by
  have hmark {p : ProcessedSet} {name : String} {rest : List String}
      (hnodup : (name :: rest).Nodup) (hname : name ∉ p) :
      (name :: rest).filter (· ∉ p) = name :: rest.filter (· ∉ p.mark name) := by
    rw [List.filter_cons_of_pos (by simpa using hname)]
    simpa using (filter_mark (p := p) hnodup fun _ => true).symm
  induction h with
  | nil => exact ⟨rfl, rfl, rfl⟩
  | @skip p s name rest _ _ _ hname _ ih =>
    rw [List.filter_cons_of_neg (by simpa using hname)]
    exact ih hs.tail (fun c hc => (hcreated c hc).tail) (List.nodup_cons.1 hnodup).2
  | @priority p s name rest _ _ c _ hname htag hc _ _ ih =>
    obtain ⟨hafter, hcreated⟩ := List.forall_mem_cons.1 hcreated
    have htier := (hs.isTagged List.mem_cons_self _).1 htag
    obtain ⟨h₁, h₂, h₃⟩ := ih hafter.tail (fun c hc => (hcreated c hc).tail)
      (List.nodup_cons.1 hnodup).2
    rw [hmark hnodup hname, inTier_cons_self htier, inTier_cons_of_ne (by simp [htier]),
      inTier_cons_of_ne (by simp [htier])]
    exact ⟨congrArg₂ _ hc h₁, h₂, h₃⟩
  | @ordered p s name rest _ _ _ hname _ htag _ ih =>
    have htier := (hs.isTagged List.mem_cons_self _).1 htag
    obtain ⟨h₁, h₂, h₃⟩ := ih hs.tail (fun c hc => (hcreated c hc).tail)
      (List.nodup_cons.1 hnodup).2
    rw [hmark hnodup hname, inTier_cons_self htier, inTier_cons_of_ne (by simp [htier]),
      inTier_cons_of_ne (by simp [htier])]
    exact ⟨h₁, congrArg _ h₂, h₃⟩
  | @other p s name rest _ _ _ hname hpriority hordered _ ih =>
    have hfirst := mt (hs.isTagged List.mem_cons_self .priority).2 hpriority
    have hsecond := mt (hs.isTagged List.mem_cons_self .ordered).2 hordered
    have htier : (f name).tier = .untagged := by
      cases h : (f name).tier <;> simp_all
    obtain ⟨h₁, h₂, h₃⟩ := ih hs.tail (fun c hc => (hcreated c hc).tail)
      (List.nodup_cons.1 hnodup).2
    rw [hmark hnodup hname, inTier_cons_of_ne hfirst, inTier_cons_of_ne hsecond,
      inTier_cons_self htier]
    exact ⟨h₁, h₂, congrArg _ h₃⟩

end

/-! ### Mutators -/

section

variable {S : Surface σ} {f : String → Precedence} {names : List String} {p : ProcessedSet}

structure Batch.Steady (b : Batch σ) (S : Surface σ) (f : String → Precedence)
    (names : List String) : Prop where
  names_eq : b.names = names
  start : S.Ranks f names b.start
  after : ∀ c ∈ b.picked, S.Ranks f names c.after
  precedence_eq : ∀ c ∈ b.picked, c.candidate.precedence = f c.candidate.name

namespace Batch.Steady

variable {b : Batch σ}

lemma marked_eq {tier : Option Tier} (h : b.Steady S f names) (hfits : b.Fits S tier p)
    (hnodup : names.Nodup) :
    b.marked = names.filter fun n => decide (n ∉ p) && tier.all ((f n).tier = ·) := by
  obtain ⟨rfl, hstart, hafter, -⟩ := h
  exact hfits.picks.names_eq hstart hafter hnodup

lemma map_order {tier : Option Tier} (h : b.Steady S f names) (hfits : b.Fits S tier p) :
    b.order.map (·.name) = sortByPrecedence f b.marked := by
  have hprecedence : ∀ c ∈ b.picked.map (·.candidate), c.precedence = f c.name := by
    intro c hc
    obtain ⟨x, hx, rfl⟩ := List.mem_map.1 hc
    exact h.precedence_eq x hx
  rw [hfits.ordered.eq_sortByPrecedence, map_sortByPrecedence hprecedence, List.map_map]
  rfl

end Batch.Steady

lemma rounds_eq {rounds : List (Batch σ)} {idle : Option (Batch σ)}
    (hturn : InTurn S p ((rounds ++ idle.toList).map (none, ·)))
    (hsteady : ∀ b ∈ rounds ++ idle.toList, b.Steady S f names) (hpicked : ∀ b ∈ rounds, b.picked ≠ [])
    (hidle : ∀ b ∈ idle, b.picked = []) (hsearched : rounds ++ idle.toList ≠ [])
    (hnodup : names.Nodup) :
    rounds.flatMap Batch.marked = names.filter (· ∉ p) ∧
    (rounds.flatMap Batch.order).map (·.name) = sortByPrecedence f (names.filter (· ∉ p)) ∧
    rounds.length = if names.filter (· ∉ p) = [] then 0 else 1 := by
  have hmarked {p : ProcessedSet} {b : Batch σ} (hb : b ∈ rounds ++ idle.toList)
      (hfits : b.Fits S none p) : b.marked = names.filter (· ∉ p) := by
    simpa using (hsteady b hb).marked_eq hfits hnodup
  cases rounds with
  | nil =>
    obtain ⟨b, rfl⟩ : ∃ b, idle = some b := by
      cases idle with
      | none => exact absurd rfl hsearched
      | some b => exact ⟨b, rfl⟩
    have hnone : names.filter (· ∉ p) = [] := by
      rw [← hmarked List.mem_cons_self hturn.1, Batch.marked, hidle b rfl, List.map_nil]
    rw [hnone]
    exact ⟨rfl, rfl, rfl⟩
  | cons b rest =>
    have hb := hmarked List.mem_cons_self hturn.1
    have hsome : names.filter (· ∉ p) ≠ [] := by
      rw [← hb, Batch.marked, ne_eq, List.map_eq_nil_iff]
      exact hpicked b List.mem_cons_self
    obtain rfl : rest = [] := by
      cases rest with
      | nil => rfl
      | cons b' rest =>
        have hmem : b' ∈ b :: b' :: rest := List.mem_cons_of_mem _ List.mem_cons_self
        have hb' := hmarked (List.mem_append_left _ hmem) hturn.2.1
        refine absurd (List.map_eq_nil_iff.1 (hb'.trans ?_)) (hpicked b' hmem)
        refine List.filter_eq_nil_iff.2 fun n hn => ?_
        rw [hb]
        simp only [ProcessedSet.mem_markAll, List.mem_filter, hn, true_and, decide_eq_true_eq]
        exact fun h => h (em _)
    rw [if_neg hsome, List.flatMap_singleton, List.flatMap_singleton, hb,
      (hsteady b List.mem_cons_self).map_order hturn.1, hb]
    exact ⟨rfl, rfl, rfl⟩

lemma Batches.Fit.order_eq {bs : Batches σ} (h : bs.Fit S p)
    (hsteady : ∀ b ∈ bs.all ++ bs.idle.toList, b.Steady S f names)
    (hsearched : bs.rounds ++ bs.idle.toList ≠ []) (hnodup : names.Nodup) :
    bs.order.map (·.name) = sortByPrecedence f (names.filter (· ∉ p)) ∧
    (∀ n, n ∈ bs.marked ↔ n ∈ names.filter (· ∉ p)) ∧
    bs.rounds.length = if inTier f .untagged (names.filter (· ∉ p)) = [] then 0 else 1 := by
  obtain ⟨hpriority, hordered, hturn⟩ := h.in_turn
  have hpriority_steady := hsteady bs.priority List.mem_cons_self
  have hordered_steady := hsteady bs.ordered (List.mem_cons_of_mem _ List.mem_cons_self)
  have hsteady : ∀ b ∈ bs.rounds ++ bs.idle.toList, b.Steady S f names := fun b hb =>
    hsteady b (List.mem_cons_of_mem _ (List.mem_cons_of_mem _ hb))
  have htier (tier : Tier) : inTier f tier (names.filter (· ∉ p)) =
      names.filter fun n => decide (n ∉ p) && decide ((f n).tier = tier) := by
    rw [inTier, List.filter_filter]
    exact List.filter_congr fun n _ => Bool.and_comm _ _
  have hfirst : bs.priority.marked = inTier f .priority (names.filter (· ∉ p)) := by
    rw [htier]
    exact hpriority_steady.marked_eq hpriority hnodup
  have hsecond : bs.ordered.marked = inTier f .ordered (names.filter (· ∉ p)) := by
    rw [hordered_steady.marked_eq hordered hnodup, hfirst, htier .ordered]
    refine List.filter_congr fun n _ => ?_
    cases h : (f n).tier <;> simp [ProcessedSet.mem_markAll, inTier, h]
  have hthird : names.filter (· ∉ (p.markAll bs.priority.marked).markAll bs.ordered.marked) =
      inTier f .untagged (names.filter (· ∉ p)) := by
    rw [hfirst, hsecond, htier .untagged]
    refine List.filter_congr fun n hn => ?_
    cases h : (f n).tier <;> simp [ProcessedSet.mem_markAll, inTier, h, hn]
  obtain ⟨hmarked, horder, hrounds⟩ :=
    rounds_eq hturn hsteady h.rounds_ne h.idle_eq hsearched hnodup
  rw [hthird] at hmarked horder hrounds
  refine ⟨?_, fun n => ?_, hrounds⟩
  · have huntagged : sortByPrecedence f (inTier f .untagged (names.filter (· ∉ p))) =
        inTier f .untagged (names.filter (· ∉ p)) := sortByPrecedence_eq_self f <|
      List.pairwise_of_forall_mem_list fun a ha b hb =>
        Precedence.le_of_tier_eq_untagged (tier_of_mem_inTier ha) (tier_of_mem_inTier hb)
    rw [sortByPrecedence_eq_tiers, ← huntagged, ← horder, ← hfirst, ← hsecond,
      ← hpriority_steady.map_order hpriority, ← hordered_steady.map_order hordered]
    simp [Batches.order, Batches.all]
  · have hall : n ∈ bs.marked ↔ n ∈ bs.priority.marked ∨ n ∈ bs.ordered.marked ∨
        n ∈ bs.rounds.flatMap Batch.marked := by
      simp [Batches.marked, Batches.all]
    rw [hall, hfirst, hsecond, hmarked]
    unfold inTier
    cases h : (f n).tier <;> simp [h]

end

/-! ### Finalizers -/

lemma exists_extension {hooks : List Candidate} (h : (hooks.map (·.name)).Nodup) :
    ∃ made : String → Extension, ∀ c ∈ hooks, made c.name = c.extension := by
  induction hooks with
  | nil => exact ⟨fun _ => ⟨0, .inert⟩, by simp⟩
  | cons c hooks ih =>
    obtain ⟨hc, hhooks⟩ := List.nodup_cons.1 h
    obtain ⟨made, hmade⟩ := ih hhooks
    refine ⟨fun n => if n = c.name then c.extension else made n, ?_⟩
    refine List.forall_mem_cons.2 ⟨if_pos rfl, fun d hd => ?_⟩
    have hne : d.name ≠ c.name := ne_of_mem_of_not_mem (List.mem_map_of_mem hd) hc
    exact (if_neg hne).trans (hmade d hd)

namespace Sweep

variable {S : Surface σ} {f : String → Precedence} {names : List String} {p : ProcessedSet}

def created (w : Sweep σ) : List (Created σ) := w.priority ++ (w.ordered ++ w.others)

lemma Fits.mem_hooks {w : Sweep σ} (h : w.Fits S p) {c : Candidate} :
    c ∈ w.hooks ↔ ∃ x ∈ w.created, x.candidate = c := by
  simp only [hooks, created, List.mem_append, h.first_ordered.perm.mem_iff,
    h.second_ordered.perm.mem_iff, List.mem_map, or_assoc]
  constructor
  · rintro (⟨x, hx, rfl⟩ | ⟨x, hx, rfl⟩ | ⟨x, hx, rfl⟩)
    · exact ⟨x, .inl hx, rfl⟩
    · exact ⟨x, .inr (.inl hx), rfl⟩
    · exact ⟨x, .inr (.inr hx), rfl⟩
  · rintro ⟨x, hx | hx | hx, rfl⟩
    · exact .inl ⟨x, hx, rfl⟩
    · exact .inr (.inl ⟨x, hx, rfl⟩)
    · exact .inr (.inr ⟨x, hx, rfl⟩)

structure Steady (w : Sweep σ) (S : Surface σ) (f : String → Precedence) (names : List String) :
    Prop where
  names_eq : w.names = names
  start : S.Ranks f names w.start
  after : ∀ c ∈ w.priority, S.Ranks f names c.after
  precedence_eq : ∀ c ∈ w.created, c.candidate.precedence = f c.candidate.name

lemma Fits.order_eq {w : Sweep σ} (h : w.Fits S p) (hsteady : w.Steady S f names)
    (hnodup : names.Nodup) : ∃ made : String → Extension,
      (∀ n ∈ names.filter (· ∉ p), ∃ c ∈ w.created, c.candidate.name = n ∧
        c.candidate.extension = made n) ∧
      finalizable w.order =
        sortByPrecedence f ((names.filter (· ∉ p)).filter fun n => (made n).hasFinalize) := by
  obtain ⟨rfl, hstart, hafter, hprecedence⟩ := hsteady
  obtain ⟨hpriority, hordered, hothers⟩ := h.classifies.names_eq hstart hafter hnodup
  have htiers : Orchestration.Ordered f (w.names.filter (· ∉ p)) w.hooks := by
    unfold hooks
    rw [h.first_ordered.eq_sortByPrecedence, h.second_ordered.eq_sortByPrecedence]
    refine .of_tiers ?_ ?_ ?_ fun c hc => ?_
    · rwa [List.map_map]
    · rwa [List.map_map]
    · rwa [List.map_map]
    · rw [← List.map_append, ← List.map_append] at hc
      obtain ⟨x, hx, rfl⟩ := List.mem_map.1 hc
      exact hprecedence x hx
  have hnames := htiers.names_eq
  have hunique : (w.hooks.map (·.name)).Nodup := by
    rw [hnames, (sortByPrecedence_perm _ _).nodup_iff]
    exact hnodup.filter _
  obtain ⟨made, hmade⟩ := exists_extension hunique
  refine ⟨made, fun n hn => ?_, ?_⟩
  · rw [← (sortByPrecedence_perm f _).mem_iff, ← hnames] at hn
    obtain ⟨c, hc, rfl⟩ := List.mem_map.1 hn
    obtain ⟨x, hx, rfl⟩ := h.mem_hooks.1 hc
    exact ⟨x, hx, rfl, (hmade _ hc).symm⟩
  · rw [sortByPrecedence_filter, ← hnames, order, finalizable, List.filter_map, List.filter_map,
      List.map_map]
    refine congrArg _ (List.filter_congr fun c hc => ?_)
    exact congrArg Extension.hasFinalize (hmade c hc).symm

end Sweep

/-! ### The phase -/

structure Session.Alike (s t : Session) : Prop where
  declaring_eq : ∀ c, t.registry.declaring c = s.registry.declaring c
  precedenceOf_eq : ∀ n, t.registry.precedenceOf n = s.registry.precedenceOf n

namespace Session

variable {s t : Session} {lib : Catalog}

instance : Std.Refl Alike := ⟨fun _ => ⟨fun _ => rfl, fun _ => rfl⟩⟩

instance : IsTrans Session Alike where
  trans _ _ _ h h' := ⟨fun c => (h'.declaring_eq c).trans (h.declaring_eq c),
    fun n => (h'.precedenceOf_eq n).trans (h.precedenceOf_eq n)⟩

def awaiting (s : Session) (p : ProcessedSet) (supplied : List Supplied) (c : Capability) :
    List String :=
  (s.registry.declaring c).filter fun n => n ∉ p ∧ n ∉ supplied.map (·.name)

end Session

lemma mem_map_firstNew {p : ProcessedSet} {supplied : List Supplied} {n : String} :
    n ∈ (firstNew p supplied).map (·.name) ↔ n ∉ p ∧ n ∈ supplied.map (·.name) := by
  induction supplied generalizing p with
  | nil => simp [firstNew]
  | cons item rest ih =>
    by_cases h : item.name ∈ p
    · rw [firstNew_cons_of_mem rest h, ih, List.map_cons, List.mem_cons]
      refine and_congr_right fun hn => (or_iff_right ?_).symm
      rintro rfl
      exact hn h
    · rw [firstNew_cons_of_not_mem rest h, List.map_cons, List.map_cons, List.mem_cons,
        List.mem_cons, ih, ProcessedSet.mem_mark, not_or]
      constructor
      · rintro (rfl | ⟨⟨hn, -⟩, hrest⟩)
        · exact ⟨h, .inl rfl⟩
        · exact ⟨hn, .inr hrest⟩
      · rintro ⟨hn, heq | hrest⟩
        · exact .inl heq
        · exact (em (n = item.name)).imp id fun hne => ⟨⟨hn, hne⟩, hrest⟩

namespace Sequence

variable {q : Sequence σ}

lemma batch_events_subset {b : Batch σ} (hb : b ∈ q.batches.all ++ q.batches.idle.toList) :
    b.events ⊆ q.events := by
  intro e he
  unfold events Batches.events
  simp only [List.mem_append]
  exact .inl (.inl (.inr (List.mem_flatMap.2 ⟨b, hb, he⟩)))

lemma sweep_events_subset : q.sweep.events ⊆ q.events := List.subset_append_right _ _

end Sequence

lemma Sweep.mem_events_of_created {w : Sweep σ} {c : Created σ} (hc : c ∈ w.created) :
    .created c ∈ w.events := by
  unfold created at hc
  unfold events
  simp only [List.mem_append, List.mem_cons, List.mem_map, List.mem_flatMap] at hc ⊢
  rcases hc with hc | hc | hc
  · exact .inl (.inl (.inl (.inl (.inr ⟨c, hc, rfl⟩))))
  · exact .inl (.inl (.inr ⟨c, hc, rfl⟩))
  · exact .inr ⟨c, hc, .inl rfl⟩

namespace Orchestration

lemma turns_of_seen {T : σ → σ → Prop} [Std.Refl T] [IsTrans σ T] {S : Surface σ} (hS : S.Quiet T)
    (hooks : Hooks σ) (supplied : List Supplied) (s : σ) (i : Invoker)
    {answer : Except BootstrapError MutationSummary}
    {t : Orchestration ((σ × List (Turn σ)) × List (Observed (σ × List (Turn σ))))}
    (h : mutationPhase S.monitored.observed hooks.monitored.observed supplied
      ⟨((s, []), []), i⟩ = (answer, t)) :
    phaseTurns S hooks supplied ⟨s, i⟩ = t.registry.1.2 ∧
    mutationPhase S hooks supplied ⟨s, i⟩ = (answer, t.plain.plain) ∧
    ∀ e ∈ t.seen, ∀ x ∈ e.states, x.2 ⊆ t.registry.1.2 ∧
      ((∀ y ∈ t.registry.1.2, T y.before y.after) → T s x.1) := by
  have hobserved := mutationPhase_observed S.monitored hooks.monitored supplied ⟨((s, []), []), i⟩
  have hmonitored := mutationPhase_monitored S hooks supplied ⟨(s, []), i⟩
  have hgoes : Observed.Between (Turn.Along T) ((s, []), [])
      (mutationPhase S.monitored.observed hooks.monitored.observed supplied
        ⟨((s, []), []), i⟩).2.registry :=
    along_of_simulates (.of_unseen (Turn.Along.refl _) rfl)
      (mutationPhase_simulates hS.monitored.observed.simulates
        (hooks.monitored_goes T).observed.simulates (sameRounds_along _) (supplied_same supplied))
  rw [h] at hobserved hgoes
  have hplain : mutationPhase S.monitored hooks.monitored supplied ⟨(s, []), i⟩ =
    (answer, t.plain) := hobserved
  rw [hplain] at hmonitored
  refine ⟨?_, hmonitored, fun e he x hx => ?_⟩
  · change (mutationPhase S.monitored hooks.monitored supplied ⟨(s, []), i⟩).2.turns = _
    rw [hplain]
    rfl
  · obtain ⟨-, events, hevents, hbetween⟩ := hgoes
    have hseen : t.seen = events := hevents
    obtain ⟨hbefore, hafter⟩ := hbetween e (hseen ▸ he) x hx
    exact ⟨hafter.subset, fun hall => hbefore.of_nil rfl fun y hy => hall y (hafter.subset hy)⟩

end Orchestration

namespace Session

variable {lib : Catalog} {s t : Session} {names : List String}

lemma Alike.of_eq (hdefinitions : t.registry.definitions = s.registry.definitions)
    (hindex : t.registry.index = s.registry.index) : s.Alike t := by
  refine ⟨fun c => congrArg (CapabilityIndex.names · c) hindex, fun n => ?_⟩
  unfold Registry.precedenceOf Registry.find?
  rw [hdefinitions]

lemma Reachable.ranks (hs : s.Reachable lib) {x : Session × List (Turn Session)}
    (hx : s.Alike x.1) (c : Capability) :
    (surface lib).monitored.Ranks s.precedence (s.registry.declaring c) x :=
  fun n hn => (hx.precedenceOf_eq n).trans (hs.precedenceOf_eq hn)

lemma Alike.names_eq {c : Capability} {x : Session × List (Turn Session)}
    (hfound : (Observed.found c names x).Faithful (surface lib).monitored) (hx : s.Alike x.1) :
    names = s.registry.declaring c := by
  obtain ⟨y, hy⟩ := hfound
  obtain ⟨rfl, rfl⟩ := Prod.mk.inj hy
  exact hx.declaring_eq c

lemma Alike.precedence_eq {c : Created (Session × List (Turn Session))}
    (hcreated : (Observed.created c).Faithful (surface lib).monitored) (hc : s.Alike c.after.1) :
    c.candidate.precedence = s.precedence c.candidate.name := by
  rw [hcreated.2]
  exact congrArg (·.getD .untagged) (hc.precedenceOf_eq _)

end Session

structure Sequence.Rests (q : Sequence (Session × List (Turn Session))) (lib : Catalog)
    (s : Session) : Prop where
  faithful : ∀ e ∈ q.events, e.Faithful (Session.surface lib).monitored
  alike : ∀ e ∈ q.events, ∀ x ∈ e.states, s.Alike x.1

namespace Sequence.Rests

variable {q : Sequence (Session × List (Turn Session))} {lib : Catalog} {s : Session}

lemma alike_after (h : q.Rests lib s) {c : Created (Session × List (Turn Session))}
    (hc : .created c ∈ q.events) : s.Alike c.after.1 :=
  h.alike _ hc _ (List.mem_cons_of_mem _ List.mem_cons_self)

lemma batch (h : q.Rests lib s) (hs : s.Reachable lib) {b : Batch (Session × List (Turn Session))}
    (hb : b ∈ q.batches.all ++ q.batches.idle.toList) :
    b.Steady (Session.surface lib).monitored s.precedence (s.registry.declaring .registryMutator) := by
  have hsub := Sequence.batch_events_subset hb
  have hfound : .found .registryMutator b.names b.start ∈ q.events := hsub List.mem_cons_self
  have hcreated (c) (hc : c ∈ b.picked) : .created c ∈ q.events :=
    hsub (List.mem_append_left _ (List.mem_cons_of_mem _ (List.mem_map_of_mem hc)))
  have hstart := h.alike _ hfound _ List.mem_cons_self
  exact ⟨hstart.names_eq (h.faithful _ hfound), hs.ranks hstart _,
    fun c hc => hs.ranks (h.alike_after (hcreated c hc)) _,
    fun c hc => (h.alike_after (hcreated c hc)).precedence_eq (h.faithful _ (hcreated c hc))⟩

lemma sweep (h : q.Rests lib s) (hs : s.Reachable lib) :
    q.sweep.Steady (Session.surface lib).monitored s.precedence
      (s.registry.declaring .finalizer) := by
  have hsub : q.sweep.events ⊆ q.events := Sequence.sweep_events_subset
  have hfound : .found .finalizer q.sweep.names q.sweep.start ∈ q.events :=
    hsub (by simp [Sweep.events])
  have hcreated (c) (hc : c ∈ q.sweep.created) : .created c ∈ q.events :=
    hsub (Sweep.mem_events_of_created hc)
  have hstart := h.alike _ hfound _ List.mem_cons_self
  exact ⟨hstart.names_eq (h.faithful _ hfound), hs.ranks hstart _,
    fun c hc => hs.ranks (h.alike_after (hcreated c (List.mem_append_left _ hc))) _,
    fun c hc => (h.alike_after (hcreated c hc)).precedence_eq (h.faithful _ (hcreated c hc))⟩

end Sequence.Rests

namespace Session

variable {s : Session} {p : ProcessedSet} {supplied : List Supplied} {marked : List String}

lemma filter_markAll_new (c : Capability) :
    (s.registry.declaring c).filter (· ∉ p.markAll ((firstNew p supplied).map (·.name))) =
      s.awaiting p supplied c := by
  refine List.filter_congr fun n _ => decide_eq_decide.2 ?_
  rw [ProcessedSet.mem_markAll, mem_map_firstNew]
  tauto

lemma filter_markAll_marked {mutators : List String} (hmarked : ∀ n, n ∈ marked ↔ n ∈ mutators)
    (c : Capability) :
    (s.registry.declaring c).filter
        (· ∉ (p.markAll ((firstNew p supplied).map (·.name))).markAll marked) =
      (s.awaiting p supplied c).filter (· ∉ mutators) := by
  rw [← filter_markAll_new, List.filter_filter]
  refine List.filter_congr fun n _ => ?_
  rw [← Bool.decide_and]
  refine decide_eq_decide.2 ?_
  rw [ProcessedSet.mem_markAll, hmarked, not_or, and_comm]

end Session

lemma exists_untagged_iff {f : String → Precedence} {names : List String} :
    (∃ n ∈ names, f n = .untagged) ↔ inTier f .untagged names ≠ [] := by
  rw [inTier, ne_eq, List.filter_eq_nil_iff]
  have htier (n : String) : (f n).tier = .untagged ↔ f n = .untagged := by
    cases f n <;> simp [Precedence.tier]
  simp [htier]

/-- Where nothing that a phase runs changes what is declared or with which precedence, it mutates the
supplied mutators and then those that the registry declares, by precedence. Its rounds of discovery
are for the untagged ones. What else declares to be a finalizer is finalized by precedence, if its
extension has something to finalize. -/
theorem mutationPhase_eq_sort (lib : Catalog) (hooks : Hooks Session) (supplied : List Supplied)
    {s : Session} (hs : s.Reachable lib) (i : Invoker) {summary : MutationSummary}
    {o : Orchestration Session}
    (h : Orchestration.mutationPhase (Session.surface lib) hooks supplied ⟨s, i⟩ =
      (.ok summary, o))
    (halike : ∀ x ∈ Orchestration.phaseTurns (Session.surface lib) hooks supplied ⟨s, i⟩,
      x.before.Alike x.after) :
    let new := firstNew i.processed supplied
    let mutators := s.awaiting i.processed supplied .registryMutator
    let finalizers := (s.awaiting i.processed supplied .finalizer).filter (· ∉ mutators)
    summary.degraded = false ∧
    summary.mutated = (new.filter (·.extension.isMutator)).map (·.name) ++
      sortByPrecedence s.precedence mutators ∧
    summary.rounds = (if ∃ n ∈ mutators, s.precedence n = .untagged then 1 else 0) ∧
    ∃ made : String → Extension,
      (∀ n ∈ finalizers, ∃ x ∈ Orchestration.phaseTurns (Session.surface lib) hooks supplied ⟨s, i⟩,
        x.deed = .created n (.ok (made n))) ∧
      summary.finalized = summary.mutated ++
        finalizable ((new.filter (!·.extension.isMutator)).map fun item =>
          (item.name, item.extension)) ++
        sortByPrecedence s.precedence (finalizers.filter fun n => (made n).hasFinalize) := by
  intro new mutators finalizers
  rcases hrun : Orchestration.mutationPhase (Session.surface lib).monitored.observed
    hooks.monitored.observed supplied ⟨((s, []), []), i⟩ with ⟨answer, t⟩
  obtain ⟨hturns, hplain, hseen⟩ := Orchestration.turns_of_seen
    (Session.surface_quiet lib fun _ _ => Session.Alike.of_eq) hooks supplied s i hrun
  obtain ⟨rfl, rfl⟩ := Prod.mk.inj (hplain.symm.trans h)
  rw [hturns] at halike ⊢
  obtain ⟨q, marked, hfits, hsearched, hmutated, hfinalized, hrounds, hdegraded, ht⟩ :=
    (Orchestration.ends_mutationPhase_sequence (fun _ => rfl) supplied _).ok hrun
  have hevents : t.seen = q.events := ht.seen
  rw [hevents] at hseen
  have hrests : q.Rests lib s := ⟨ht.faithful, fun e he x hx => (hseen e he x hx).2 halike⟩
  have hr := hs.wellFormed.registry
  obtain ⟨horder, hmarked, hcount⟩ :=
    hfits.batches.order_eq (fun b => hrests.batch hs) hsearched (hr.declaring_nodup _)
  rw [hfits.new_eq, Session.filter_markAll_new] at horder hmarked hcount
  obtain ⟨made, hmade, hswept⟩ := hfits.sweep.order_eq (hrests.sweep hs) (hr.declaring_nodup _)
  rw [hfits.new_eq, Session.filter_markAll_marked hmarked] at hmade hswept
  refine ⟨hdegraded, ?_, ?_, made, fun n hn => ?_, ?_⟩
  · rw [hmutated, Sequence.mutated, horder, Sequence.given, hfits.new_eq]
  · simp only [hrounds, hcount, exists_untagged_iff, ne_eq, ite_not]
    rfl
  · obtain ⟨c, hc, rfl, he⟩ := hmade n hn
    have hevent : .created c ∈ q.events :=
      Sequence.sweep_events_subset (Sweep.mem_events_of_created hc)
    have hmem := Turn.mem_of_created (hrests.faithful _ hevent).1
    rw [he] at hmem
    exact ⟨_, (hseen _ hevent _ (List.mem_cons_of_mem _ List.mem_cons_self)).1 hmem, rfl⟩
  · rw [hfinalized, hmutated, Sequence.finalized, hswept, Sequence.handled, Sequence.others,
      hfits.new_eq]

def Catalog.still : Catalog where
  typeNames := ⟨"", "", "", "", "", "", ""⟩
  blueprints := [.mutator "third" .untagged 0, .mutator "fourth" .untagged 0,
    .mutator "second" (.ordered 0) 0, .mutator "first" (.priority 0) 0,
    .finalizer "last" .untagged 1, .finalizer "next" (.priority 1) 1,
    .finalizer "idle" (.priority 0) 2]
  extensions := [.mutator [] [], .scripted none ⟨none, some [], none, none, none⟩, .inert]

def Session.still : Session :=
  after .still ((List.range 7).map fun entry => ⟨.edit (.register entry), false⟩)

def Supplied.still : List Supplied :=
  [⟨"given", ⟨0, (Catalog.still.extension 0).behaviour "given"⟩⟩,
    ⟨"third", ⟨0, (Catalog.still.extension 1).behaviour "third"⟩⟩]

theorem still_eq_sort : ∃ summary o,
    Orchestration.mutationPhase (Session.surface .still) (.scripted .still (Session.surface .still))
      Supplied.still ⟨.still, .new ""⟩ = (.ok summary, o) ∧
    summary.mutated = ["given", "first", "second", "fourth"] ∧ summary.rounds = 1 ∧
    ∃ made : String → Extension, summary.finalized = summary.mutated ++ ["third"] ++
      sortByPrecedence Session.still.precedence
        (["last", "next", "idle"].filter fun n => (made n).hasFinalize) := by
  have hreachable : Session.still.Reachable .still := Session.after_reachable _ _
  have hunchanged : ∀ x ∈ Orchestration.phaseTurns (Session.surface .still)
      (.scripted .still (Session.surface .still)) Supplied.still ⟨.still, .new ""⟩,
      x.after.registry.definitions = x.before.registry.definitions ∧
      x.after.registry.index = x.before.registry.index := by decide +kernel
  have hok : (Orchestration.mutationPhase (Session.surface .still)
      (.scripted .still (Session.surface .still)) Supplied.still ⟨.still, .new ""⟩).1.isOk = true := by
    decide +kernel
  rcases hrun : Orchestration.mutationPhase (Session.surface .still)
    (.scripted .still (Session.surface .still)) Supplied.still ⟨.still, .new ""⟩ with ⟨_ | summary, o⟩
  · rw [hrun] at hok
    cases hok
  obtain ⟨-, hmutated, hrounds, made, -, hfinalized⟩ := mutationPhase_eq_sort _ _ _ hreachable _ hrun
    fun x hx => .of_eq (hunchanged x hx).1 (hunchanged x hx).2
  have hleft : (Session.still.awaiting (Invoker.new "").processed Supplied.still .finalizer).filter
      (· ∉ Session.still.awaiting (Invoker.new "").processed Supplied.still .registryMutator) =
        ["last", "next", "idle"] := by decide +kernel
  have hhandled : finalizable (((firstNew (Invoker.new "").processed Supplied.still).filter
      (!·.extension.isMutator)).map fun item => (item.name, item.extension)) = ["third"] := by
    decide +kernel
  rw [hleft, hhandled] at hfinalized
  refine ⟨summary, o, rfl, hmutated.trans ?_, hrounds.trans ?_, made, hfinalized⟩
  · decide +kernel
  · decide +kernel

end ComponentContainer
