import ComponentContainer.Proofs.Orchestration.Faults
import ComponentContainer.Proofs.Orchestration.PhaseOrder
import Mathlib.Data.List.DropRight
import Mathlib.Logic.Function.Iterate

/-! A phase whose finalizers declare nothing leaves nothing to do. Every later phase for the same
supplied extensions searches, finds nothing new and only counts one more invalidation. -/

namespace ComponentContainer

open Turn

def Deed.isSearch : Deed → Bool
  | searched .. => true
  | created .. | mutated .. | finalized .. | edited _ => false

/-- The turns after the last search for mutators. -/
def Turn.closing {σ : Type} (turns : List (Turn σ)) : List (Turn σ) :=
  turns.rtakeWhile (!·.deed.isMutatorSearch)

lemma Turn.closing_append {σ : Type} {l l' : List (Turn σ)}
    (h : ∀ x ∈ l', x.deed.isMutatorSearch = false) : closing (l ++ l') = closing l ++ l' := by
  unfold closing List.rtakeWhile
  rw [List.reverse_append, List.takeWhile_append_of_pos (by simpa using h), List.reverse_append,
    List.reverse_reverse]

def Session.DeclaresNoMore (s t : Session) : Prop :=
  ∀ c, t.registry.declaring c ⊆ s.registry.declaring c

namespace Session.DeclaresNoMore

instance : Std.Refl DeclaresNoMore := ⟨fun _ _ => List.Subset.refl _⟩

instance : IsTrans Session DeclaresNoMore := ⟨fun _ _ _ h h' c => List.Subset.trans (h' c) (h c)⟩

lemma of_eq {s t : Session} (hindex : t.registry.index = s.registry.index) :
    s.DeclaresNoMore t := by
  intro c
  unfold Registry.declaring
  rw [hindex]
  exact List.Subset.refl _

end Session.DeclaresNoMore

namespace Orchestration

structure Exhausted (supplied : List Supplied) (s : Session) (p : ProcessedSet) : Prop where
  supplied : ∀ item ∈ supplied, item.name ∈ p
  mutators : ∀ n ∈ s.registry.declaring .registryMutator, n ∈ p
  finalizers : ∀ n ∈ s.registry.declaring .finalizer, n ∈ p

structure Idles (o t : Orchestration (Session × List (Turn Session))) : Prop where
  plain : ∃ log, t.plain = ⟨{ o.registry.1 with log }, o.invoker⟩
  turns : ∃ l, t.turns = o.turns ++ l ∧ ∀ x ∈ l, x.deed.isSearch = true

namespace Idles

variable {o t u : Orchestration (Session × List (Turn Session))} {supplied : List Supplied}

lemma refl (o : Orchestration (Session × List (Turn Session))) : Idles o o :=
  ⟨⟨_, rfl⟩, [], (List.append_nil _).symm, by simp⟩

lemma trans (h : Idles o u) (h' : Idles u t) : Idles o t := by
  obtain ⟨⟨log, hplain⟩, l, hl, hsearch⟩ := h
  obtain ⟨⟨log', hplain'⟩, l', hl', hsearch'⟩ := h'
  obtain ⟨hregistry, hinvoker⟩ := Orchestration.mk.inj hplain
  refine ⟨⟨log', ?_⟩, l ++ l', ?_, List.forall_mem_append.2 ⟨hsearch, hsearch'⟩⟩
  · rw [hplain', hregistry, hinvoker]
  · rw [hl', hl, List.append_assoc]

lemma invoker_eq (h : Idles o t) : t.invoker = o.invoker := by
  obtain ⟨⟨_, hplain⟩, -⟩ := h
  exact (Orchestration.mk.inj hplain).2

lemma exhausted (h : Idles o t) (ho : Exhausted supplied o.registry.1 o.invoker.processed) :
    Exhausted supplied t.registry.1 t.invoker.processed := by
  rw [h.invoker_eq]
  obtain ⟨⟨_, hplain⟩, -⟩ := h
  obtain ⟨hregistry, -⟩ := Orchestration.mk.inj hplain
  rw [hregistry]
  exact ⟨ho.supplied, ho.mutators, ho.finalizers⟩

end Idles

variable {lib : Catalog} {hooks : Hooks Session} {supplied : List Supplied}
  {o : Orchestration (Session × List (Turn Session))}

/-! ### Where nothing is left to do -/

lemma ends_record_idles {ε : Type} (level : Level) (message : String)
    (o : Orchestration (Session × List (Turn Session))) :
    Act.Ends (record (Session.surface lib).monitored level message : Act _ ε Unit) o
      (fun _ t => Idles o t) (fun _ _ => False) :=
  ⟨⟨_, rfl⟩, [], (List.append_nil _).symm, by simp⟩

lemma ends_find_idles {ε : Type} (c : Capability)
    (o : Orchestration (Session × List (Turn Session))) :
    Act.Ends (ask ((Session.surface lib).monitored.find c) : Act _ ε _) o
      (fun names t => names = o.registry.1.registry.declaring c ∧ Idles o t) (fun _ _ => False) :=
  ⟨rfl, ⟨_, rfl⟩, _, rfl, by simp [Deed.isSearch]⟩

lemma ends_markNew_processed {σ ε : Type} {o : Orchestration σ} {name : String}
    (h : name ∈ o.invoker.processed) :
    Act.Ends (markNew name : Act _ ε Bool) o (fun isNew t => isNew = false ∧ t = o)
      (fun _ _ => False) := by
  apply Act.ends_get_bind
  rw [if_pos h]
  exact ⟨rfl, rfl⟩

section

variable {σ : Type} {o : Orchestration σ} {names : List String}
  (h : ∀ n ∈ names, n ∈ o.invoker.processed)

include h

lemma ends_collectFrom_processed (S : Surface σ) (tier : Option Tier) (phase : Phase) :
    Act.Ends (collectFrom S tier phase names) o (fun cs t => cs = [] ∧ t = o)
      (fun _ _ => False) := by
  apply collectFrom_rule (P := fun o names => ∀ n ∈ names, n ∈ o.invoker.processed) h
    fun _ _ => ⟨rfl, rfl⟩
  · exact fun o name rest h _ => ⟨(List.forall_mem_cons.1 h).2, fun _ _ => id, fun _ _ => id⟩
  · exact fun o name rest h hname => absurd (h name List.mem_cons_self) hname

lemma ends_classify_processed (S : Surface σ)
    (create : String → Act (Orchestration σ) BootstrapError Candidate) :
    Act.Ends (classify S markNew create names) o (fun found t => found = ([], [], []) ∧ t = o)
      (fun _ _ => False) := by
  apply classify_rule (P := fun o names => ∀ n ∈ names, n ∈ o.invoker.processed) h
    fun _ _ => ⟨rfl, rfl⟩
  intro o name rest h
  obtain ⟨hname, hrest⟩ := List.forall_mem_cons.1 h
  refine (ends_markNew_processed hname).mono (fun taken u ⟨htaken, hu⟩ => ?_) (fun _ _ => id)
  subst htaken hu
  exact .skipped ⟨hrest, fun _ _ => id, fun _ _ => id⟩

end

lemma ends_collect_idles (tier : Option Tier) (phase : Phase)
    (ho : Exhausted supplied o.registry.1 o.invoker.processed) :
    Act.Ends (collect (Session.surface lib).monitored tier phase) o
      (fun cs t => cs = [] ∧ Idles o t) (fun _ _ => False) := by
  refine (ends_find_idles _ o).bind (fun names u ⟨hnames, hu⟩ => ?_) (fun _ _ => id)
  have hprocessed : ∀ n ∈ names, n ∈ u.invoker.processed := by
    rw [hnames, hu.invoker_eq]
    exact ho.mutators
  refine (ends_collectFrom_processed hprocessed _ tier phase).bind (fun cs t ⟨hcs, ht⟩ => ?_)
    (fun _ _ => id)
  subst hcs ht
  exact Act.ends_pure ⟨rfl, hu⟩

lemma ends_mutateSupplied_idles (items : List Supplied)
    (hitems : ∀ item ∈ items, item.name ∈ o.invoker.processed) :
    Act.Ends (mutateSupplied (Session.surface lib).monitored hooks.monitored items) o
      (fun out t => out = ⟨[], [], []⟩ ∧ Idles o t) (fun _ _ => False) := by
  apply mutateSupplied_rule (P := fun o items => ∀ item ∈ items, item.name ∈ o.invoker.processed)
    hitems fun o _ => ⟨rfl, .refl o⟩
  intro o item rest hitems
  obtain ⟨hitem, hrest⟩ := List.forall_mem_cons.1 hitems
  refine (ends_markNew_processed hitem).mono (fun isNew u ⟨hold, hu⟩ => ?_) (fun _ _ => id)
  subst hold hu
  refine .old fun line => (ends_record_idles _ _ _).mono (fun _ v hv => ?_) (fun _ _ => id)
  refine ⟨?_, fun _ _ ⟨hout, ht⟩ => ⟨hout, hv.trans ht⟩, fun _ _ => id⟩
  rw [hv.invoker_eq]
  exact hrest

lemma ends_mutateDeclared_idles (ho : Exhausted supplied o.registry.1 o.invoker.processed) :
    Act.Ends (mutateDeclared (Session.surface lib).monitored hooks.monitored) o
      (fun found t => found = ⟨0, [], []⟩ ∧ Idles o t) (fun _ _ => False) := by
  refine (ends_collect_idles _ _ ho).bind (fun cs u ⟨hcs, hu⟩ => ?_) (fun _ _ => id)
  subst hcs
  refine Act.ends_pure_bind ?_
  refine (ends_collect_idles _ _ (hu.exhausted ho)).bind (fun cs v ⟨hcs, hv⟩ => ?_) (fun _ _ => id)
  subst hcs
  refine Act.ends_pure_bind (Act.ends_get_bind ?_)
  have huv := hu.trans hv
  have hdiscover : Act.Ends (discover (Session.surface lib).monitored hooks.monitored 0
      (((Session.surface lib).monitored.roster v.registry).length + 1)) v
      (fun found t => found = ⟨0, [], []⟩ ∧ Idles o t) (fun _ _ => False) := by
    refine (ends_collect_idles _ _ (huv.exhausted ho)).bind (fun cs w ⟨hcs, hw⟩ => ?_)
      (fun _ _ => id)
    subst hcs
    exact ⟨rfl, huv.trans hw⟩
  refine hdiscover.bind (fun found t ⟨hfound, ht⟩ => ?_) (fun _ _ => id)
  subst hfound
  exact ⟨rfl, ht⟩

lemma ends_finalizeDiscovered_idles (ho : Exhausted supplied o.registry.1 o.invoker.processed) :
    Act.Ends (finalizeDiscovered (Session.surface lib).monitored hooks.monitored) o
      (fun names t => names = [] ∧ Idles o t) (fun _ _ => False) := by
  refine (ends_find_idles _ o).bind (fun names u ⟨hnames, hu⟩ => ?_) (fun _ _ => id)
  have hprocessed : ∀ n ∈ names, n ∈ u.invoker.processed := by
    rw [hnames, hu.invoker_eq]
    exact ho.finalizers
  refine (ends_classify_processed hprocessed _ _).bind (fun found t ⟨hfound, ht⟩ => ?_)
    (fun _ _ => id)
  subst hfound ht
  exact ⟨rfl, hu⟩

lemma ends_mutateRegistry_idles (ho : Exhausted supplied o.registry.1 o.invoker.processed) :
    Act.Ends (mutateRegistry (Session.surface lib).monitored hooks.monitored supplied) o
      (fun summary t => summary = ⟨o.invoker.run, [], [], 0, false⟩ ∧ Idles o t)
      (fun _ _ => False) := by
  have hsettle : Act.Ends (settle (Session.surface lib).monitored hooks.monitored supplied) o
      (fun m t => m = ⟨[], [], [], 0⟩ ∧ Idles o t) (fun _ _ => False) := by
    refine (ends_mutateSupplied_idles _ ho.supplied).bind (fun given u ⟨hgiven, hu⟩ => ?_)
      (fun _ _ => id)
    refine (ends_mutateDeclared_idles (hu.exhausted ho)).bind (fun found t ⟨hfound, ht⟩ => ?_)
      (fun _ _ => id)
    subst hgiven hfound
    exact ⟨rfl, hu.trans ht⟩
  refine hsettle.bind (fun m u ⟨hm, hu⟩ => ?_) (fun _ _ => id)
  subst hm
  refine Act.ends_pure_bind ?_
  refine (ends_finalizeDiscovered_idles (hu.exhausted ho)).bind (fun names t ⟨hnames, ht⟩ => ?_)
    (fun _ _ => id)
  subst hnames
  have hidles := hu.trans ht
  refine Act.ends_get_bind ⟨?_, hidles⟩
  rw [hidles.invoker_eq]
  rfl

def counted (n : Nat) (o : Orchestration Session) (log : List Record) : Orchestration Session :=
  let r := o.registry.registry
  ⟨{ o.registry with registry := { r with invalidations := r.invalidations + n }, log }, o.invoker⟩

variable (lib hooks) in
lemma ends_mutationPhase_idles (o : Orchestration (Session × List (Turn Session)))
    (ho : Exhausted supplied o.registry.1 o.invoker.processed)
    (hsnapshots : o.registry.1.registry.snapshots = []) :
    Act.Ends (mutationPhase (Session.surface lib).monitored hooks.monitored supplied) o
      (fun summary t => summary = ⟨o.invoker.run, [], [], 0, false⟩ ∧
        (∃ log, t.plain = o.plain.counted 1 log) ∧
        ∃ l, t.turns = o.turns ++ l ∧ ∀ x ∈ l, x.deed.isSearch = true)
      (fun _ _ => False) := by
  apply mutationPhase_rule
  intro line
  refine (ends_record_idles _ _ o).mono (fun _ u hu => ?_) (fun _ _ => id)
  have heditable : Act.Ends (ask (Session.surface lib).monitored.editable : Act _ BootstrapError _) u
      (fun editable t => editable = true ∧ t = u) (fun _ _ => False) := ⟨rfl, rfl⟩
  refine heditable.mono (fun editable v ⟨heditable, hv⟩ => ?_) (fun _ _ => id)
  rw [if_pos heditable, hv]
  refine (ends_mutateRegistry_idles (hu.exhausted ho)).mono (fun summary w ⟨hsummary, hw⟩ => ?_)
    (fun _ _ => False.elim)
  rw [hu.invoker_eq] at hsummary
  replace hw := hu.trans hw
  have hinvalidate : Act.Ends
      (ask (Session.surface lib).monitored.invalidate : Act _ BootstrapError _) w
      (fun _ t => (∃ log, t.plain =
          ⟨{ w.registry.1 with registry := w.registry.1.registry.invalidate, log }, w.invoker⟩) ∧
        t.turns = w.turns)
      (fun _ _ => False) := ⟨⟨_, rfl⟩, rfl⟩
  refine hinvalidate.mono (fun _ x ⟨⟨_, hx⟩, hturns⟩ line => ?_) (fun _ _ => id)
  refine (ends_record_idles _ _ x).mono (fun _ t ht => ⟨hsummary, ?_, ?_⟩) (fun _ _ => id)
  · obtain ⟨⟨_, hw⟩, -⟩ := hw
    obtain ⟨⟨log, ht⟩, -⟩ := ht
    obtain ⟨hregistry, hinvoker⟩ := Orchestration.mk.inj hw
    obtain ⟨hregistry', hinvoker'⟩ := Orchestration.mk.inj hx
    refine ⟨log, ?_⟩
    rw [ht, hregistry', hinvoker', hregistry, hinvoker, Registry.invalidate, ← hsnapshots]
    rfl
  · obtain ⟨-, l, hl, hsearch⟩ := hw
    obtain ⟨-, l', hl', hsearch'⟩ := ht
    refine ⟨l ++ l', ?_, List.forall_mem_append.2 ⟨hsearch, hsearch'⟩⟩
    rw [hl', hturns, hl, List.append_assoc]

/-! ### After a phase -/

lemma closing_of_finishes {o t : Orchestration (Session × List (Turn Session))}
    (hfinishes : Finishes o t) (halong : Along Session.DeclaresNoMore o.registry t.registry)
    (hclosing : ∀ x ∈ closing t.turns, x.before.DeclaresNoMore x.after) :
    o.registry.1.DeclaresNoMore t.registry.1 := by
  obtain ⟨⟨l, hl, hquiet⟩, -⟩ := hfinishes
  obtain ⟨l', hl', hall⟩ := halong
  obtain rfl : l' = l := List.append_cancel_left (hl'.symm.trans hl)
  rw [hl, closing_append hquiet] at hclosing
  exact hall fun x hx => hclosing x (List.mem_append_right _ hx)

lemma ends_and_along {ε α : Type} {m : Act (Orchestration (Session × List (Turn Session))) ε α}
    {Q : α → Orchestration (Session × List (Turn Session)) → Prop}
    {E : ε → Orchestration (Session × List (Turn Session)) → Prop} (hm : Act.Ends m o Q E)
    (h : Act.Matches (Related fun s' s =>
      s' = s ∧ Along Session.DeclaresNoMore o.registry s) m m) :
    Act.Yields m o fun a t => Q a t ∧ Along Session.DeclaresNoMore o.registry t.registry := by
  have hrun : Act.Stays m o fun t => Along Session.DeclaresNoMore o.registry t.registry :=
    Act.stays_of (along_of_simulates (Along.refl _) h)
  exact (hm.and hrun).mono (fun _ _ => id) (fun _ _ _ => trivial)

variable (lib supplied)

lemma ends_settle_processed (o : Orchestration (Session × List (Turn Session))) :
    Act.Yields (settle (Session.surface lib).monitored
        (Hooks.scripted lib (Session.surface lib)).monitored supplied) o
      (fun _ t => (∀ item ∈ supplied, item.name ∈ t.invoker.processed) ∧
        ∀ n ∈ t.registry.1.registry.declaring .registryMutator, n ∈ t.invoker.processed) := by
  refine Act.ends_of (fun m t h => ?_) (fun _ _ _ => trivial)
  set S := Session.surface lib
  set hooks := Hooks.scripted lib S
  let o' : Orchestration (Session × List Call) := ⟨(o.registry.1, []), o.invoker⟩
  have hmonitored : settle S hooks supplied o.plain = (.ok m, t.plain) := by
    have hrun := run_plain (settle_matches S.monitored_simulates hooks.monitored_simulates
      (S.monitored_rounds hooks) supplied) o
    rwa [h] at hrun
  have hrecorded := settle_recorded S hooks supplied o'
  have hrun : settle S hooks supplied o'.plain = (.ok m, t.plain) := hmonitored
  rcases ht : settle S.recorded hooks.recorded supplied o' with ⟨answer, t'⟩
  rw [hrun, ht] at hrecorded
  obtain ⟨rfl, hplain⟩ := Prod.mk.inj hrecorded
  obtain ⟨hregistry, hinvoker⟩ := Orchestration.mk.inj hplain
  rw [hregistry, hinvoker]
  exact ⟨((ends_settle S hooks supplied o').ok ht).2.2.1,
    (ends_settle_session lib supplied o').ok ht⟩

lemma ends_mutateRegistry_exhausts (o : Orchestration (Session × List (Turn Session))) :
    Act.Yields (mutateRegistry (Session.surface lib).monitored
        (Hooks.scripted lib (Session.surface lib)).monitored supplied) o
      (fun _ t => (∀ x ∈ closing t.turns, x.before.DeclaresNoMore x.after) →
        Exhausted supplied t.registry.1 t.invoker.processed) := by
  set S := Session.surface lib
  set hooks := Hooks.scripted lib S
  have hS : S.monitored.Goes (Along Session.DeclaresNoMore) :=
    (Session.surface_quiet lib fun _ _ _ => .of_eq).monitored
  have hhooks := hooks.monitored_goes Session.DeclaresNoMore
  refine (ends_settle_processed lib supplied o).bind fun m w ⟨hsupplied, hmutators⟩ => ?_
  refine (ends_and_along (ends_finalizeSettled_finishes m w) (finalizeSettled_simulates
    hS.simulates hhooks.simulates (settlement_same m))).bind fun _ x ⟨hwx, hwx'⟩ => ?_
  refine (ends_and_along (ends_finalizeDiscovered_finishes x) (finalizeDiscovered_simulates
    hS.simulates hhooks.simulates)).bind fun _ t ⟨⟨hxt, hfinalizers⟩, hxt'⟩ => ?_
  refine Act.ends_get_bind fun hclosing => ?_
  have hwt := hwx.trans hxt
  have hfewer := closing_of_finishes hwt (trans_of _ hwx' hxt') hclosing
  refine ⟨fun item hi => hwt.processed _ (hsupplied item hi), fun n hn => ?_, fun n hn => ?_⟩
  · exact hwt.processed n (hmutators n (hfewer _ hn))
  · exact hfinalizers n (closing_of_finishes hxt hxt' hclosing _ hn)

lemma ends_mutationPhase_exhausts (o : Orchestration (Session × List (Turn Session))) :
    Act.Yields (mutationPhase (Session.surface lib).monitored
        (Hooks.scripted lib (Session.surface lib)).monitored supplied) o
      (fun _ t => t.registry.1.registry.snapshots = [] ∧
        ((∀ x ∈ closing t.turns, x.before.DeclaresNoMore x.after) →
          Exhausted supplied t.registry.1 t.invoker.processed)) := by
  apply mutationPhase_rule
  intro line
  refine Act.ends_true.mono fun _ u _ => ?_
  have heditable : Act.Yields (ask (Session.surface lib).monitored.editable : Act _ BootstrapError _)
    u fun editable _ => editable = true := rfl
  refine heditable.mono fun editable v heditable => ?_
  rw [if_pos heditable]
  refine Act.Ends.mono (ends_mutateRegistry_exhausts lib supplied v) (fun summary w hw => ?_)
    (fun _ _ _ _ => Act.ends_true)
  exact fun _ => ⟨rfl, fun hclosing => ⟨(hw hclosing).supplied, (hw hclosing).mutators,
    (hw hclosing).finalizers⟩⟩

variable {lib supplied}

variable (lib hooks) in
lemma mutationPhase_exhausted (o : Orchestration Session)
    (ho : Exhausted supplied o.registry o.invoker.processed)
    (hsnapshots : o.registry.registry.snapshots = []) :
    (∃ log, mutationPhase (Session.surface lib) hooks supplied o =
      (.ok ⟨o.invoker.run, [], [], 0, false⟩, o.counted 1 log)) ∧
    ∀ x ∈ phaseTurns (Session.surface lib) hooks supplied o, x.deed.isSearch = true := by
  have hidles := ends_mutationPhase_idles lib hooks ⟨(o.registry, []), o.invoker⟩ ho hsnapshots
  have hmonitored := mutationPhase_monitored (Session.surface lib) hooks supplied
    ⟨(o.registry, []), o.invoker⟩
  unfold phaseTurns
  rcases hrun : mutationPhase (Session.surface lib).monitored hooks.monitored supplied
    ⟨(o.registry, []), o.invoker⟩ with ⟨e | summary, t⟩
  · exact (hidles.error hrun).elim
  · obtain ⟨rfl, ⟨log, hplain⟩, l, hl, hsearch⟩ := hidles.ok hrun
    rw [hrun, hplain] at hmonitored
    refine ⟨⟨log, hmonitored⟩, fun x hx => hsearch x ?_⟩
    have hturns : t.turns = l := hl
    rwa [← hturns]

end Orchestration

open Orchestration

/-- Once a phase has succeeded in which no turn after the last search for mutators declares anything,
it may be repeated any number of times. Each repetition succeeds, mutates and finalizes nothing, and
only searches. Apart from the log it leaves the session as it is, with one more invalidation. -/
theorem mutationPhase_repeats_quietly (lib : Catalog) (supplied : List Supplied) (s : Session)
    (i : Invoker) {summary : MutationSummary} {o : Orchestration Session}
    (h : mutationPhase (Session.surface lib) (Hooks.scripted lib (Session.surface lib)) supplied
      ⟨s, i⟩ = (.ok summary, o))
    (hclosing : ∀ x ∈ closing (phaseTurns (Session.surface lib)
      (Hooks.scripted lib (Session.surface lib)) supplied ⟨s, i⟩), x.before.DeclaresNoMore x.after)
    (k : ℕ) :
    let again := (fun t => (mutationPhase (Session.surface lib)
      (Hooks.scripted lib (Session.surface lib)) supplied t).2)^[k] o
    (∃ log, again = o.counted k log) ∧
    (mutationPhase (Session.surface lib) (Hooks.scripted lib (Session.surface lib)) supplied
      again).1 = .ok ⟨o.invoker.run, [], [], 0, false⟩ ∧
    ∀ x ∈ phaseTurns (Session.surface lib) (Hooks.scripted lib (Session.surface lib)) supplied again,
      x.deed.isSearch = true := by
  have hexhausts := ends_mutationPhase_exhausts lib supplied ⟨(s, []), i⟩
  have hmonitored := mutationPhase_monitored (Session.surface lib)
    (Hooks.scripted lib (Session.surface lib)) supplied ⟨(s, []), i⟩
  unfold phaseTurns at hclosing
  rcases hrun : mutationPhase (Session.surface lib).monitored
    (Hooks.scripted lib (Session.surface lib)).monitored supplied ⟨(s, []), i⟩ with ⟨answer, t⟩
  rw [hrun] at hmonitored hclosing
  obtain ⟨rfl, rfl⟩ := Prod.mk.inj (hmonitored.symm.trans h)
  obtain ⟨hsnapshots, hexhausted⟩ := hexhausts.ok hrun
  have hexhausted := hexhausted hclosing
  have hagain (n : ℕ) (log : List Record) := mutationPhase_exhausted lib
    (Hooks.scripted lib (Session.surface lib)) (t.plain.counted n log)
    ⟨hexhausted.supplied, hexhausted.mutators, hexhausted.finalizers⟩ hsnapshots
  intro again
  have hstate : ∃ log, again = t.plain.counted k log := by
    induction k with
    | zero => exact ⟨_, rfl⟩
    | succ k ih =>
      obtain ⟨log, hlog⟩ := ih
      obtain ⟨⟨log', hnext⟩, -⟩ := hagain k log
      refine ⟨log', ?_⟩
      unfold again
      rw [Function.iterate_succ_apply', hlog, hnext]
      rfl
  obtain ⟨log, hlog⟩ := hstate
  obtain ⟨⟨log', hnext⟩, hsearches⟩ := hagain k log
  rw [hlog]
  exact ⟨⟨log, rfl⟩, congrArg Prod.fst hnext, hsearches⟩

def Catalog.spreading : Catalog where
  typeNames := ⟨"", "", "", "", "", "", ""⟩
  blueprints := [.mutator "source" .untagged 0, .mutator "branch" (.priority 0) 1,
    .finalizer "leaf" .untagged 2]
  extensions := [.mutator [⟨.edit (.register 1), false⟩, ⟨.edit (.register 2), false⟩] [],
    .mutator [] [], .scripted none ⟨none, some [], none, none, none⟩]

def Session.spreading : Session :=
  Session.after .spreading [⟨.edit (.register 0), false⟩]

def Supplied.spreading : List Supplied :=
  [⟨"given", ⟨0, (Catalog.spreading.extension 2).behaviour "given"⟩⟩]

theorem spreading_repeats_quietly : ∃ summary o,
    mutationPhase (Session.surface .spreading) (.scripted .spreading (Session.surface .spreading))
      Supplied.spreading ⟨.spreading, .new "run"⟩ = (.ok summary, o) ∧
    summary.finalized = ["source", "branch", "given", "leaf"] ∧
    (mutationPhase (Session.surface .spreading) (.scripted .spreading (Session.surface .spreading))
      Supplied.spreading o).1 = .ok ⟨"run", [], [], 0, false⟩ := by
  have hanswer : (mutationPhase (Session.surface .spreading)
      (.scripted .spreading (Session.surface .spreading)) Supplied.spreading
      ⟨.spreading, .new "run"⟩).1 =
      .ok ⟨"run", ["source", "branch"], ["source", "branch", "given", "leaf"], 2, false⟩ := by
    decide +kernel
  have hindex : ∀ x ∈ closing (phaseTurns (Session.surface .spreading)
      (.scripted .spreading (Session.surface .spreading)) Supplied.spreading
      ⟨.spreading, .new "run"⟩), x.after.registry.index = x.before.registry.index := by
    decide +kernel
  have hname : (mutationPhase (Session.surface .spreading)
      (.scripted .spreading (Session.surface .spreading)) Supplied.spreading
      ⟨.spreading, .new "run"⟩).2.invoker.run = "run" := by decide +kernel
  rcases hrun : mutationPhase (Session.surface .spreading)
    (.scripted .spreading (Session.surface .spreading)) Supplied.spreading
    ⟨.spreading, .new "run"⟩ with ⟨answer, o⟩
  rw [hrun] at hanswer hname
  subst hanswer
  obtain ⟨-, hagain, -⟩ := mutationPhase_repeats_quietly _ _ _ _ hrun
    (fun x hx => .of_eq (hindex x hx)) 0
  rw [hname] at hagain
  exact ⟨_, o, rfl, rfl, hagain⟩

end ComponentContainer
