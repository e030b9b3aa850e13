import ComponentContainer.Proofs.Orchestration.Observing
import ComponentContainer.Proofs.StableSort

/-! What the stages of a mutation phase pick, and in which order they run the hooks of what they
picked. Whether a name is picked is decided when its turn comes, in the state that the creations
before it have left. -/

namespace ComponentContainer

variable {σ : Type}

def Extension.isMutator (e : Extension) : Bool := e.behaviour.mutator.isSome

def Extension.hasFinalize (e : Extension) : Bool := e.behaviour.hasFinalize

lemma Extension.hasFinalize_of_isMutator {e : Extension} (h : e.isMutator = true) :
    e.hasFinalize = true := by
  rw [hasFinalize, Behaviour.hasFinalize, Bool.or_eq_true]
  exact .inl h

def Surface.Due (S : Surface σ) (tier : Option Tier) (p : ProcessedSet) (name : String) (s : σ) :
    Prop :=
  name ∉ p ∧ ∀ x ∈ tier, S.isTagged name x s = true

inductive Picks (S : Surface σ) (tier : Option Tier) :
    ProcessedSet → σ → List String → List (Created σ) → Prop
  | nil (p : ProcessedSet) (s : σ) : Picks S tier p s [] []
  | skip {p : ProcessedSet} {s : σ} {name : String} {rest : List String}
    {picked : List (Created σ)} : ¬S.Due tier p name s → Picks S tier p s rest picked →
      Picks S tier p s (name :: rest) picked
  | pick {p : ProcessedSet} {s : σ} {name : String} {rest : List String} {c : Created σ}
    {picked : List (Created σ)} : S.Due tier p name s → c.candidate.name = name → c.before = s →
      Picks S tier (p.mark name) c.after rest picked →
      Picks S tier p s (name :: rest) (c :: picked)

structure Batch (σ : Type) where
  names : List String
  start : σ
  picked : List (Created σ)
  order : List Candidate

namespace Batch

structure Fits (b : Batch σ) (S : Surface σ) (tier : Option Tier) (p : ProcessedSet) : Prop where
  picks : Picks S tier p b.start b.names b.picked
  ordered : StablyOrders (·.precedence) (b.picked.map (·.candidate)) b.order

def marked (b : Batch σ) : List String := b.picked.map (·.candidate.name)

def events (b : Batch σ) : List (Observed σ) :=
  .found .registryMutator b.names b.start :: b.picked.map .created ++
    (b.order.map (·.name)).map .mutated

lemma Fits.order_eq_nil {b : Batch σ} {S : Surface σ} {tier : Option Tier} {p : ProcessedSet}
    (h : b.Fits S tier p) : b.order = [] ↔ b.picked = [] := by
  rw [← List.length_eq_zero_iff, h.ordered.perm.length_eq, List.length_map,
    List.length_eq_zero_iff]

lemma filterMap_hook?_events (b : Batch σ) :
    b.events.filterMap Observed.hook? = (b.order.map (·.name)).map .mutated := by
  rw [events, List.filterMap_append, List.filterMap_cons_none rfl, Observed.filterMap_hook?_created,
    Observed.filterMap_hook?_mutated, List.nil_append]

end Batch

def InTurn (S : Surface σ) : ProcessedSet → List (Option Tier × Batch σ) → Prop
  | _, [] => True
  | p, (tier, b) :: rest => b.Fits S tier p ∧ InTurn S (p.markAll b.marked) rest

lemma InTurn.exists_fits {S : Surface σ} {p : ProcessedSet} {l : List (Option Tier × Batch σ)}
    (h : InTurn S p l) {x : Option Tier × Batch σ} (hx : x ∈ l) : ∃ p, x.2.Fits S x.1 p := by
  induction l generalizing p with
  | nil => exact absurd hx List.not_mem_nil
  | cons y rest ih =>
    rcases List.mem_cons.1 hx with rfl | hx
    · exact ⟨p, h.1⟩
    · exact ih h.2 hx

structure Batches (σ : Type) where
  priority : Batch σ
  ordered : Batch σ
  rounds : List (Batch σ)
  idle : Option (Batch σ)

namespace Batches

def all (bs : Batches σ) : List (Batch σ) := bs.priority :: bs.ordered :: bs.rounds

def order (bs : Batches σ) : List Candidate := bs.all.flatMap Batch.order

def marked (bs : Batches σ) : List String := bs.all.flatMap Batch.marked

def events (bs : Batches σ) : List (Observed σ) := (bs.all ++ bs.idle.toList).flatMap Batch.events

structure Fit (bs : Batches σ) (S : Surface σ) (p : ProcessedSet) : Prop where
  in_turn : InTurn S p ((some .priority, bs.priority) :: (some .ordered, bs.ordered) ::
    (bs.rounds ++ bs.idle.toList).map (none, ·))
  rounds_ne : ∀ b ∈ bs.rounds, b.picked ≠ []
  idle_eq : ∀ b ∈ bs.idle, b.picked = []

lemma Fit.filterMap_hook?_events {bs : Batches σ} {S : Surface σ} {p : ProcessedSet}
    (h : bs.Fit S p) :
    bs.events.filterMap Observed.hook? = (bs.order.map (·.name)).map .mutated := by
  have hidle : bs.idle.toList.flatMap Batch.order = [] := by
    refine List.flatMap_eq_nil_iff.2 fun b hb => ?_
    obtain ⟨_, hfits⟩ := h.in_turn.exists_fits (x := (none, b)) <|
      List.mem_cons_of_mem _ (List.mem_cons_of_mem _ (List.mem_map_of_mem (List.mem_append_right _ hb)))
    exact hfits.order_eq_nil.2 (h.idle_eq b (Option.mem_toList.1 hb))
  have hevents (l : List (Batch σ)) : (l.flatMap Batch.events).filterMap Observed.hook? =
      ((l.flatMap Batch.order).map (·.name)).map .mutated := by
    induction l with
    | nil => rfl
    | cons b l ih =>
      rw [List.flatMap_cons, List.filterMap_append, b.filterMap_hook?_events, ih]
      simp
  rw [events, order, hevents, List.flatMap_append, hidle, List.append_nil]

end Batches

namespace Orchestration

variable {S : Surface σ} {hooks : Hooks σ} {s t u : Orchestration (σ × List (Observed σ))}

lemma due_iff {tier : Option Tier} {p : ProcessedSet} {name : String}
    {x : σ × List (Observed σ)} :
    S.Due tier p name x.1 ↔ name ∉ p ∧ tier.all (S.observed.isTagged name · x) = true := by
  unfold Surface.Due
  cases tier <;> simp [Surface.isTagged_observed]

lemma ends_collectFrom_picks (tier : Option Tier) (phase : Phase) (names : List String)
    (s : Orchestration (σ × List (Observed σ))) :
    Act.Yields (collectFrom S.observed tier phase names) s
      (fun found t => ∃ picked : List (Created σ), found = picked.map (·.candidate) ∧
        Picks S tier s.invoker.processed s.registry.1 names picked ∧
        Sees S s t (picked.map (·.candidate.name)) (picked.map .created)) := by
  apply collectFrom_rule (P := fun _ _ => True) trivial fun s _ => ⟨[], rfl, .nil _ _, .refl s⟩
  · intro s name rest _ hskip
    have hdue : ¬S.Due tier s.invoker.processed name s.registry.1 := by
      rw [due_iff, not_and_or, not_not]
      exact hskip
    refine ⟨trivial, fun _ _ ⟨picked, hfound, hpicks, ht⟩ => ?_, fun _ _ => id⟩
    exact ⟨picked, hfound, .skip hdue hpicks, ht⟩
  · intro s name rest _ hname htagged
    refine (ends_instantiate_seen phase name s).mono (fun c u ⟨hc, hu⟩ => ?_)
    refine (ends_mark_seen S name u).mono (fun _ v ⟨hregistry, hv⟩ => ?_)
    refine ⟨trivial, fun batch t ⟨picked, hbatch, hpicks, ht⟩ => ?_, fun _ _ => id⟩
    rw [(hu.trans hv).processed, hregistry] at hpicks
    refine ⟨⟨c, s.registry.1, u.registry.1⟩ :: picked, ?_, .pick (due_iff.2 ⟨hname, htagged⟩) hc rfl hpicks, ?_⟩
    · rw [hbatch, List.map_cons]
    · simpa [hc] using (hu.trans hv).trans ht

lemma ends_collect_batch (tier : Option Tier) (phase : Phase)
    (s : Orchestration (σ × List (Observed σ))) :
    Act.Yields (collect S.observed tier phase) s
      (fun found t => ∃ b : Batch σ, found = b.order ∧ b.Fits S tier s.invoker.processed ∧
        Sees S s t b.marked (.found .registryMutator b.names b.start :: b.picked.map .created)) := by
  refine (ends_find _ s).bind (fun names u hu => ?_)
  refine (ends_collectFrom_picks tier phase names u).bind
    (fun found t ⟨picked, hfound, hpicks, ht⟩ => ?_)
  rw [hu.processed] at hpicks
  subst hfound
  exact ⟨⟨names, u.registry.1, picked, _⟩, rfl, ⟨hpicks, stablyOrders_sortByPrecedence _ _⟩,
    hu.trans ht⟩

section

variable (hS : S.AlwaysEditable)

include hS

lemma ends_mutate_seen (phase : Phase) (c : Candidate)
    (s : Orchestration (σ × List (Observed σ))) :
    Act.Yields (mutate S.observed hooks.observed phase c) s
      (fun ran t => ran = true ∧ c.extension.isMutator = true ∧
        Sees S s t [] [.mutated c.name]) := by
  unfold mutate
  split
  · trivial
  rename_i hmutator
  have hmutator : c.extension.isMutator = true := by
    simpa [Extension.isMutator, Option.isSome_iff_ne_none] using hmutator
  refine (ends_ask_unseen S _ s).bind (fun editable u ⟨heditable, hu⟩ => ?_)
  have heditable : editable = true := heditable.trans (hS _)
  rw [heditable, if_neg (by simp)]
  have hevent : (Observed.mutated c.name : Observed σ).Faithful S := trivial
  refine (ends_hook hevent _ _ u).bind (fun _ v hv => ?_)
  refine Act.ends_get_bind ((ends_ask_unseen S _ v).bind (fun _ t ⟨_, ht⟩ => ?_))
  exact ⟨rfl, hmutator, (hu.trans hv).trans ht⟩

lemma ends_mutateAll_seen (phase : Phase) (batch : List Candidate)
    (s : Orchestration (σ × List (Observed σ))) :
    Act.Yields (mutateAll S.observed hooks.observed phase batch) s
      (fun names t => names = batch.map (·.name) ∧ (∀ c ∈ batch, c.extension.isMutator = true) ∧
        Sees S s t [] (names.map .mutated)) := by
  apply mutateAll_rule (P := fun _ _ => True) trivial fun s _ => ⟨rfl, by simp, .refl s⟩
  intro s c rest _
  refine (ends_mutate_seen hS phase c s).mono (fun ran u ⟨hran, hc, hu⟩ => ?_)
  refine ⟨trivial, fun names t ⟨hnames, hrest, ht⟩ => ?_, fun _ _ => id⟩
  subst hran hnames
  exact ⟨rfl, List.forall_mem_cons.2 ⟨hc, hrest⟩, hu.trans ht⟩

lemma ends_discover_batches (before budget : Nat) (s : Orchestration (σ × List (Observed σ))) :
    Act.Yields (discover S.observed hooks.observed before budget) s
      (fun found t => ∃ (rounds : List (Batch σ)) (idle : Option (Batch σ)), found.rounds = rounds.length ∧
        (∀ b ∈ rounds, b.picked ≠ []) ∧ (∀ b ∈ idle, b.picked = []) ∧
        (0 < budget → rounds ++ idle.toList ≠ []) ∧
        InTurn S s.invoker.processed ((rounds ++ idle.toList).map (none, ·)) ∧
        found.invoked = rounds.flatMap Batch.order ∧
        found.mutated = found.invoked.map (·.name) ∧
        (∀ c ∈ found.invoked, c.extension.isMutator = true) ∧
        Sees S s t (rounds.flatMap Batch.marked) ((rounds ++ idle.toList).flatMap Batch.events)) := by
  apply discover_rule (P := fun _ _ => True) trivial fun s _ =>
    ⟨[], none, rfl, by simp, by simp, nofun, trivial, rfl, rfl, by simp, .refl s⟩
  intro s budget _
  refine (ends_collect_batch none _ s).mono (fun found u ⟨b, hfound, hfits, hu⟩ => ?_)
  subst hfound
  refine ⟨fun hempty => ?_, fun hempty line => ?_⟩
  · have hpicked := hfits.order_eq_nil.1 hempty
    refine ⟨[], some b, rfl, by simp, by simpa using hpicked, by simp, ⟨hfits, trivial⟩, rfl, rfl,
      by simp, ?_⟩
    simpa [Batch.events, Batch.marked, hempty, hpicked] using hu
  · refine (ends_ask_unseen S _ u).mono (fun _ v ⟨_, hv⟩ => ?_)
    refine (ends_mutateAll_seen hS _ b.order v).mono (fun names w ⟨hnames, hmutators, hw⟩ => ?_)
    have hw := (hu.trans hv).trans hw
    refine ⟨trivial, fun later t ⟨rounds, idle, hrounds, hpicked, hidle, _, hturn, hinvoked,
      hmutated, hlater, ht⟩ => ?_, fun _ _ => id⟩
    subst hnames
    -- the later rounds start from what this one has marked
    have hprocessed : w.invoker.processed = s.invoker.processed.markAll b.marked := by
      simpa using hw.processed
    rw [hprocessed] at hturn
    refine ⟨b :: rounds, idle, congrArg (· + 1) hrounds,
      List.forall_mem_cons.2 ⟨mt hfits.order_eq_nil.2 hempty, hpicked⟩, hidle, by simp,
      ⟨hfits, hturn⟩, ?_, ?_, List.forall_mem_append.2 ⟨hmutators, hlater⟩, ?_⟩
    · simp [hinvoked]
    · simp [hmutated]
    · simpa [Batch.events] using hw.trans ht

lemma ends_mutateDeclared_batches (s : Orchestration (σ × List (Observed σ))) :
    Act.Yields (mutateDeclared S.observed hooks.observed) s
      (fun found t => ∃ bs : Batches σ, bs.Fit S s.invoker.processed ∧
        bs.rounds ++ bs.idle.toList ≠ [] ∧ found.rounds = bs.rounds.length ∧ found.invoked = bs.order ∧
        found.mutated = found.invoked.map (·.name) ∧
        (∀ c ∈ found.invoked, c.extension.isMutator = true) ∧ Sees S s t bs.marked bs.events) := by
  refine (ends_collect_batch _ _ s).bind (fun found u ⟨priority, hfound, hpriority, hu⟩ => ?_)
  subst hfound
  refine (ends_mutateAll_seen hS _ _ u).bind (fun first v ⟨hfirst, hfirstAll, hv⟩ => ?_)
  have hv := hu.trans hv
  refine (ends_collect_batch _ _ v).bind (fun found u ⟨ordered, hfound, hordered, hu⟩ => ?_)
  subst hfound
  refine (ends_mutateAll_seen hS _ _ u).bind (fun second w ⟨hsecond, hsecondAll, hw⟩ => ?_)
  have hw := hu.trans hw
  apply Act.ends_get_bind
  refine (ends_discover_batches hS _ _ w).bind (fun found t ⟨rounds, idle, hrounds, hpicked, hidle,
    hsearched, hturn, hinvoked, hmutated, hlater, ht⟩ => ?_)
  subst hfirst hsecond
  have hprocessed : v.invoker.processed = s.invoker.processed.markAll priority.marked := by
    simpa using hv.processed
  have hprocessed' : w.invoker.processed = v.invoker.processed.markAll ordered.marked := by
    simpa using hw.processed
  rw [hprocessed] at hordered hprocessed'
  rw [hprocessed'] at hturn
  refine Act.ends_pure ⟨⟨priority, ordered, rounds, idle⟩,
    ⟨⟨hpriority, hordered, hturn⟩, hpicked, hidle⟩, hsearched (Nat.succ_pos _), hrounds,
    ?_, ?_, ?_, ?_⟩
  · simp [hinvoked, Batches.order, Batches.all]
  · simp [hmutated]
  · exact List.forall_mem_append.2 ⟨List.forall_mem_append.2 ⟨hfirstAll, hsecondAll⟩, hlater⟩
  · simpa [Batches.events, Batches.marked, Batches.all, Batch.events] using (hv.trans hw).trans ht

end

end Orchestration

end ComponentContainer
