import ComponentContainer.Proofs.Orchestration.FixedPoint
import ComponentContainer.Proofs.Orchestration.Sweep
import ComponentContainer.Proofs.Reachable

/-! The order of a whole mutation phase: which hooks run, one after the other, and what the summary
says of them. -/

namespace ComponentContainer

variable {σ : Type}

def firstNew (p : ProcessedSet) (supplied : List Supplied) : List Supplied :=
  (supplied.filter (·.name ∉ p)).eraseDupsBy fun x y => x.name == y.name

lemma firstNew_cons_of_mem {p : ProcessedSet} {item : Supplied} (rest : List Supplied)
    (h : item.name ∈ p) : firstNew p (item :: rest) = firstNew p rest := by
  simp [firstNew, h]

lemma firstNew_cons_of_not_mem {p : ProcessedSet} {item : Supplied} (rest : List Supplied)
    (h : item.name ∉ p) :
    firstNew p (item :: rest) = item :: firstNew (p.mark item.name) rest := by
  rw [firstNew, List.filter_cons_of_pos (by simpa using h), List.eraseDupsBy_cons, List.filter_filter]
  congr 2
  refine List.filter_congr fun x _ => ?_
  simp [and_comm]

structure Sequence (σ : Type) where
  new : List Supplied
  batches : Batches σ
  sweep : Sweep σ

namespace Sequence

variable (q : Sequence σ)

def given : List Supplied := q.new.filter (·.extension.isMutator)

def others : List Supplied := q.new.filter (!·.extension.isMutator)

def mutated : List String := q.given.map (·.name) ++ q.batches.order.map (·.name)

def handled : List String := finalizable (q.others.map fun i => (i.name, i.extension))

def finalized : List String := q.mutated ++ q.handled ++ finalizable q.sweep.order

def events : List (Observed σ) :=
  (q.given.map (·.name)).map .mutated ++ q.batches.events ++ (q.mutated ++ q.handled).map .finalized ++
    q.sweep.events

structure Fits (S : Surface σ) (p : ProcessedSet) (supplied : List Supplied) : Prop where
  new_eq : q.new = firstNew p supplied
  batches : q.batches.Fit S (p.markAll (q.new.map (·.name)))
  sweep : q.sweep.Fits S ((p.markAll (q.new.map (·.name))).markAll q.batches.marked)

end Sequence

lemma Sequence.Fits.filterMap_hook?_events {q : Sequence σ} {S : Surface σ} {p : ProcessedSet}
    {supplied : List Supplied} (h : q.Fits S p supplied) :
    q.events.filterMap Observed.hook? = q.mutated.map .mutated ++ q.finalized.map .finalized := by
  unfold Sequence.events Sequence.finalized
  simp only [List.filterMap_append, Observed.filterMap_hook?_mutated,
    h.batches.filterMap_hook?_events, Observed.filterMap_hook?_finalized, q.sweep.filterMap_hook?_events]
  unfold Sequence.mutated
  simp only [List.map_append, List.append_assoc]

namespace Orchestration

variable {S : Surface σ} {hooks : Hooks σ} {s t u : Orchestration (σ × List (Observed σ))}

section

variable (hS : S.AlwaysEditable)

include hS

lemma ends_mutateSupplied_seen (supplied : List Supplied)
    (s : Orchestration (σ × List (Observed σ))) :
    Act.Yields (mutateSupplied S.observed hooks.observed supplied) s
      (fun out t => ∃ new : List Supplied, new = firstNew s.invoker.processed supplied ∧
        out.invoked = (new.filter (·.extension.isMutator)).map
          (fun item => ⟨item.name, .untagged, item.extension⟩) ∧
        out.mutated = out.invoked.map (·.name) ∧
        out.others = new.filter (!·.extension.isMutator) ∧
        Sees S s t (new.map (·.name)) (out.mutated.map .mutated)) := by
  apply mutateSupplied_rule (P := fun _ _ => True) trivial
    fun s _ => ⟨[], rfl, rfl, rfl, rfl, .refl s⟩
  intro s item rest _
  refine (ends_markNew_seen S item.name s).mono (fun isNew u hu => ?_)
  cases isNew with
  | false =>
    obtain ⟨hitem, rfl⟩ := hu
    refine .old fun line => (ends_ask_unseen S _ u).mono (fun _ v ⟨_, hv⟩ => ⟨trivial, ?_, fun _ _ => id⟩)
    intro out t ⟨new, hnew, hinvoked, hmutated, hothers, ht⟩
    have hprocessed : v.invoker.processed = u.invoker.processed := hv.processed
    refine ⟨new, ?_, hinvoked, hmutated, hothers, hv.trans ht⟩
    rw [hnew, firstNew_cons_of_mem rest hitem, hprocessed]
  | true =>
    obtain ⟨hitem, -, hu⟩ := hu
    -- marked before it is known to be a mutator, so a second one of the name is skipped
    have hfirst := firstNew_cons_of_not_mem rest hitem
    refine .isNew (fun hmutator => ?mutator) (fun hmutator => ?other)
    case mutator =>
      have hmutator : item.extension.isMutator = true := hmutator
      refine (ends_mutate_seen hS _ _ u).mono (fun ran v ⟨hran, _, hv⟩ => ⟨trivial, ?_, fun _ _ => id⟩)
      intro out t ⟨new, hnew, hinvoked, hmutated, hothers, ht⟩
      have hv := hu.trans hv
      subst hran
      have hprocessed : v.invoker.processed = s.invoker.processed.mark item.name := hv.processed
      refine ⟨item :: new, ?_, ?_, ?_, ?_, hv.trans ht⟩
      · rw [hnew, hprocessed, hfirst]
      · simp [hinvoked, hmutator, Supplied.candidate]
      · simp [hmutated, Supplied.candidate]
      · simp [hothers, hmutator]
    case other =>
      have hmutator : ¬item.extension.isMutator = true := hmutator
      refine ⟨trivial, fun out t ⟨new, hnew, hinvoked, hmutated, hothers, ht⟩ => ?_, fun _ _ => id⟩
      have hprocessed : u.invoker.processed = s.invoker.processed.mark item.name := hu.processed
      refine ⟨item :: new, ?_, ?_, hmutated, ?_, hu.trans ht⟩
      · rw [hnew, hprocessed, hfirst]
      · simp [hinvoked, hmutator]
      · simp [hothers, hmutator]

lemma ends_settle_seen (supplied : List Supplied) (s : Orchestration (σ × List (Observed σ))) :
    Act.Yields (settle S.observed hooks.observed supplied) s
      (fun m t => ∃ (new : List Supplied) (bs : Batches σ),
        new = firstNew s.invoker.processed supplied ∧
        bs.Fit S (s.invoker.processed.markAll (new.map (·.name))) ∧
        bs.rounds ++ bs.idle.toList ≠ [] ∧ m.rounds = bs.rounds.length ∧
        m.mutated = (new.filter (·.extension.isMutator)).map (·.name) ++ bs.order.map (·.name) ∧
        m.mutated = m.invoked.map (·.name) ∧ (∀ c ∈ m.invoked, c.extension.isMutator = true) ∧
        m.others = new.filter (!·.extension.isMutator) ∧
        Sees S s t (new.map (·.name) ++ bs.marked)
          (((new.filter (·.extension.isMutator)).map (·.name)).map .mutated ++ bs.events)) := by
  refine (ends_mutateSupplied_seen hS supplied s).bind (fun out u
    ⟨new, hnew, hinvoked, hmutated, hothers, hu⟩ => ?_)
  refine (ends_mutateDeclared_batches hS u).bind (fun found t
    ⟨bs, hfit, hsearched, hrounds, horder, hnames, hmutators, ht⟩ => ?_)
  rw [hu.processed] at hfit
  refine Act.ends_pure ⟨new, bs, hnew, hfit, hsearched, hrounds, ?_, ?_, ?_, hothers, ?_⟩
  · simp [hmutated, hinvoked, hnames, horder]
  · simp [hmutated, hnames]
  · refine List.forall_mem_append.2 ⟨fun c hc => ?_, hmutators⟩
    rw [hinvoked] at hc
    obtain ⟨item, hitem, rfl⟩ := List.mem_map.1 hc
    exact (List.mem_filter.1 hitem).2
  · simpa [hmutated, hinvoked, Function.comp_def] using hu.trans ht

omit hS in
lemma ends_finalizeSettled_seen {m : Settlement}
    (hm : ∀ c ∈ m.invoked, c.extension.isMutator = true)
    (s : Orchestration (σ × List (Observed σ))) :
    Act.Yields (finalizeSettled S.observed hooks.observed m) s
      (fun names t => names = m.invoked.map (·.name) ++
          finalizable (m.others.map fun i => (i.name, i.extension)) ∧
        Sees S s t [] (names.map .finalized)) := by
  refine (ends_finalizeAll_seen _ s).bind (fun own u ⟨hown, hu⟩ => ?_)
  refine (ends_finalizeAll_seen _ u).bind (fun others t ⟨hothers, ht⟩ => ?_)
  have hall : ∀ x ∈ m.invoked.map fun c => (c.name, c.extension), x.2.hasFinalize = true := by
    intro x hx
    obtain ⟨c, hc, rfl⟩ := List.mem_map.1 hx
    exact Extension.hasFinalize_of_isMutator (hm c hc)
  rw [finalizable_eq_map hall, List.map_map] at hown
  subst hown hothers
  refine Act.ends_pure ⟨rfl, ?_⟩
  rw [List.map_append]
  exact hu.trans ht

lemma ends_mutateRegistry_seen (supplied : List Supplied)
    (s : Orchestration (σ × List (Observed σ))) :
    Act.Yields (mutateRegistry S.observed hooks.observed supplied) s
      (fun summary t => ∃ (q : Sequence σ) (marked : List String),
        q.Fits S s.invoker.processed supplied ∧
        q.batches.rounds ++ q.batches.idle.toList ≠ [] ∧ summary.mutated = q.mutated ∧
        summary.finalized = q.finalized ∧ summary.rounds = q.batches.rounds.length ∧
        summary.degraded = false ∧ Sees S s t marked q.events) := by
  refine (ends_settle_seen hS supplied s).bind (fun m u ⟨new, bs, hnew, hfit, hsearched, hrounds,
    hmutated, hinvoked, hmutators, hothers, hu⟩ => ?_)
  refine (ends_finalizeSettled_seen hmutators u).bind (fun handled v ⟨hhandled, hv⟩ => ?_)
  have hv := hu.trans hv
  refine (ends_finalizeDiscovered_seen v).bind (fun swept t ⟨w, marked, hw, hswept, ht⟩ => ?_)
  rw [hv.processed, List.append_nil, ProcessedSet.markAll_append] at hw
  rw [← hinvoked, hmutated, hothers] at hhandled
  subst hhandled hswept
  exact Act.ends_get_bind (Act.ends_pure
    ⟨⟨new, bs, w⟩, _, ⟨hnew, hfit, hw⟩, hsearched, hmutated, rfl, hrounds, rfl, hv.trans ht⟩)

lemma ends_mutationPhase_sequence (supplied : List Supplied)
    (s : Orchestration (σ × List (Observed σ))) :
    Act.Yields (mutationPhase S.observed hooks.observed supplied) s
      (fun summary t => ∃ (q : Sequence σ) (marked : List String),
        q.Fits S s.invoker.processed supplied ∧
        q.batches.rounds ++ q.batches.idle.toList ≠ [] ∧ summary.mutated = q.mutated ∧
        summary.finalized = q.finalized ∧ summary.rounds = q.batches.rounds.length ∧
        summary.degraded = false ∧ Sees S s t marked q.events) := by
  apply mutationPhase_rule
  intro line
  refine (ends_ask_unseen S _ s).mono (fun _ u ⟨_, hu⟩ => ?_)
  refine (ends_ask_unseen S _ u).mono (fun editable v ⟨heditable, hv⟩ => ?_)
  have heditable : editable = true := heditable.trans (hS _)
  rw [heditable, if_pos rfl]
  have hv := hu.trans hv
  refine Act.Ends.mono (ends_mutateRegistry_seen hS supplied v) (fun summary w ⟨q, marked, hfits,
    hsearched, hmutated, hfinalized, hrounds, hdegraded, hw⟩ => ?_) (fun _ _ _ _ => Act.ends_true)
  refine (ends_ask_unseen S _ w).mono (fun _ x ⟨_, hx⟩ line => ?_)
  refine (ends_ask_unseen S _ x).mono (fun _ t ⟨_, ht⟩ => ?_)
  rw [hv.processed] at hfits
  refine ⟨q, marked, hfits, hsearched, hmutated, hfinalized, hrounds, hdegraded, ?_⟩
  simpa using ((hv.trans hw).trans hx).trans ht

lemma ends_mutationPhase_seen (supplied : List Supplied)
    (s : Orchestration (σ × List (Observed σ))) :
    Act.Yields (mutationPhase S.observed hooks.observed supplied) s
      (fun summary t => ∃ (q : Sequence σ) (marked : List String),
        q.Fits S s.invoker.processed supplied ∧ summary.mutated = q.mutated ∧
        summary.finalized = q.finalized ∧ summary.rounds = q.batches.rounds.length ∧
        summary.degraded = false ∧ Sees S s t marked q.events) :=
  (ends_mutationPhase_sequence hS supplied s).mono
    fun _ _ ⟨q, marked, hfits, _, h⟩ => ⟨q, marked, hfits, h⟩

end

end Orchestration

/-- Mutators run before finalizers, supplied before declared, tier by tier and in each batch in the
order of the precedences that its members had when they were created. The summary names the hooks as
they were called. -/
theorem mutationPhase_in_order (lib : Catalog) (hooks : Hooks Session) (supplied : List Supplied)
    (s : Session) (i : Invoker) {summary : MutationSummary} {o : Orchestration Session}
    (h : Orchestration.mutationPhase (Session.surface lib) hooks supplied ⟨s, i⟩ =
      (.ok summary, o)) :
    ∃ (q : Sequence Session) (t : Orchestration (Session × List (Observed Session))),
      Orchestration.mutationPhase (Session.surface lib).observed hooks.observed supplied
        ⟨(s, []), i⟩ = (.ok summary, t) ∧ t.plain = o ∧
      q.Fits (Session.surface lib) i.processed supplied ∧
      t.seen = q.events ∧ (∀ e ∈ t.seen, e.Faithful (Session.surface lib)) ∧
      summary.mutated = q.mutated ∧ summary.finalized = q.finalized ∧
      summary.rounds = q.batches.rounds.length ∧ summary.degraded = false ∧
      t.seen.filterMap Observed.hook? =
        summary.mutated.map .mutated ++ summary.finalized.map .finalized := by
  have herase := Orchestration.mutationPhase_observed (Session.surface lib) hooks supplied
    ⟨(s, []), i⟩
  rcases hrun : Orchestration.mutationPhase (Session.surface lib).observed hooks.observed supplied
    ⟨(s, []), i⟩ with ⟨r, t⟩
  rw [hrun] at herase
  obtain ⟨rfl, rfl⟩ := Prod.mk.inj (h.symm.trans herase)
  obtain ⟨q, marked, hfits, hmutated, hfinalized, hrounds, hdegraded, ht⟩ :=
    (Orchestration.ends_mutationPhase_seen (surface_alwaysEditable lib) supplied _).ok hrun
  have hseen : t.seen = q.events := ht.seen
  refine ⟨q, t, rfl, rfl, hfits, hseen, hseen ▸ ht.faithful, hmutated, hfinalized, hrounds, hdegraded,
    ?_⟩
  rw [hseen, hfits.filterMap_hook?_events, hmutated, hfinalized]

def Blueprint.finalizer (name : String) (precedence : Precedence) (entry : Nat) : Blueprint :=
  { mutator name precedence entry with capabilities := .ofList [.finalizer] }

def Catalog.tiered : Catalog where
  typeNames := ⟨"", "", "", "", "", "", ""⟩
  blueprints := [.mutator "third" (.ordered 0) 0, .mutator "late" (.priority 0) 1,
    .mutator "second" (.priority 2) 1, .mutator "first" (.priority 1) 1,
    .finalizer "last" .untagged 2, .finalizer "next" (.ordered 0) 2,
    .finalizer "swept" (.priority 0) 2]
  extensions := [.mutator [⟨.edit (.register 1), false⟩] [], .mutator [] [],
    .scripted none ⟨none, some [], none, none, none⟩]

def Session.tiered : Session :=
  after .tiered ([0, 2, 3, 4, 5, 6].map fun entry => ⟨.edit (.register entry), false⟩)

def Supplied.tiered : List Supplied :=
  [⟨"given", ⟨0, (Catalog.tiered.extension 1).behaviour "given"⟩⟩,
    ⟨"handled", ⟨0, (Catalog.tiered.extension 2).behaviour "handled"⟩⟩]

def Session.runTiered : Except BootstrapError MutationSummary × Orchestration Session :=
  Orchestration.mutationPhase (surface .tiered) (.scripted .tiered (surface .tiered))
    Supplied.tiered ⟨tiered, .new ""⟩

theorem tiered_in_order : ∃ q : Sequence Session,
    q.Fits (Session.surface .tiered) ∅ Supplied.tiered ∧ q.batches.rounds.length = 1 ∧
    q.mutated = ["given", "first", "second", "third", "late"] ∧
    q.finalized = q.mutated ++ ["handled", "swept", "next", "last"] := by
  have hok : Session.runTiered.1.map (fun m => (m.rounds, m.mutated, m.finalized)) =
      .ok (1, ["given", "first", "second", "third", "late"],
        ["given", "first", "second", "third", "late", "handled", "swept", "next", "last"]) := by
    decide +kernel
  rcases hrun : Session.runTiered with ⟨_ | summary, o⟩
  · rw [hrun] at hok
    cases hok
  rw [hrun] at hok
  obtain ⟨hrounds, hmutated, hfinalized⟩ : summary.rounds = 1 ∧ _ ∧ _ := by
    simpa [Except.map] using hok
  obtain ⟨q, -, -, -, hfits, -, -, hq, hq', hcount, -⟩ := mutationPhase_in_order _ _ _ _ _ hrun
  refine ⟨q, hfits, hcount ▸ hrounds, hq ▸ hmutated, ?_⟩
  rw [← hq', ← hq, hfinalized, hmutated]
  rfl

end ComponentContainer
