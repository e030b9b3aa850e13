import ComponentContainer.Proofs.Orchestration.Stages
import ComponentContainer.Proofs.Orchestration.Turns

/-! How the stages of a phase and of a build fail. Every failure goes back to a turn: to a hook that
fails, or to a name that a search has found and that was then refused or handed out as an extension
without the capability. -/

namespace ComponentContainer

lemma CapabilitySet.mem_ofList {cs : List Capability} {c : Capability} :
    c ∈ ofList cs ↔ ∃ d ∈ cs, c = d ∨ d.implied = some c := by
  have hfold (s : CapabilitySet) :
      c ∈ cs.foldl insert s ↔ c ∈ s ∨ ∃ d ∈ cs, c = d ∨ d.implied = some c := by
    induction cs generalizing s with
    | nil => simp
    | cons d cs ih => rw [List.foldl_cons, ih, mem_insert, or_assoc, List.exists_mem_cons_iff]
  rw [ofList, hfold]
  simp

lemma Behaviour.mutator_of_mem_capabilities {b : Behaviour}
    (h : Capability.registryMutator ∈ b.capabilities) : b.mutator.isSome = true := by
  obtain ⟨c, hc, hmutator⟩ := CapabilitySet.mem_ofList.1 h
  rcases hmutator with rfl | himplied
  · exact (List.mem_filter.1 hc).2
  · cases c <;> cases himplied

variable {σ : Type}

def Deed.isMutatorSearch : Deed → Bool
  | searched .registryMutator _ => true
  | searched .. | created .. | mutated .. | finalized .. | edited _ => false

namespace Turn

def Found (turns : List (Turn σ)) (c : Capability) (name : String) : Prop :=
  ∃ x ∈ turns, ∃ names, x.deed = .searched c names ∧ name ∈ names

def Asked (turns : List (Turn σ)) (c : Capability) (name : String)
    (answer : Except RegistryError Extension) : Prop :=
  ∃ before x after, turns = before ++ x :: after ∧ Found before c name ∧
    x.deed = .created name answer

inductive Fault (turns : List (Turn σ)) : BootstrapError → Prop
  | hook {x : Turn σ} {name : String} {phase : Phase} {source : HookError} : x ∈ turns →
    x.deed = .mutated name (.error source) ∨ x.deed = .finalized name (.error source) →
    Fault turns (.hook name phase source)
  | refused {c : Capability} {name : String} {phase : Phase} {source : RegistryError} :
    Asked turns c name (.error source) → Fault turns (.registry name phase source)
  | unfit {c : Capability} {name : String} {phase : Phase} {e : Extension} :
    Asked turns c name (.ok e) → c ∉ e.behaviour.capabilities →
    Fault turns (.registry name phase (.capabilityMismatch name c))

variable {l l' : List (Turn σ)} {c : Capability} {name : String}

lemma Found.mono (h : Found l c name) (hl : l <+: l') : Found l' c name := by
  obtain ⟨x, hx, hfound⟩ := h
  exact ⟨x, hl.subset hx, hfound⟩

lemma Asked.mono {answer : Except RegistryError Extension} (h : Asked l c name answer)
    (hl : l <+: l') : Asked l' c name answer := by
  obtain ⟨before, x, after, rfl, hfound, hx⟩ := h
  obtain ⟨rest, rfl⟩ := hl
  exact ⟨before, x, after ++ rest, by simp, hfound, hx⟩

lemma Fault.mono {e : BootstrapError} (h : Fault l e) (hl : l <+: l') : Fault l' e := by
  cases h with
  | hook hx hanswer => exact .hook (hl.subset hx) hanswer
  | refused hasked => exact .refused (hasked.mono hl)
  | unfit hasked hunfit => exact .unfit (hasked.mono hl) hunfit

end Turn

def Surface.TakesHooks (S : Surface σ) : Prop :=
  ∀ name (e : Extension) s, Capability.instanceHook ∈ e.behaviour.capabilities →
    (S.addToPipeline name e s).1 = .ok ()

open Turn

namespace Orchestration

structure Proceeds (o t : Orchestration (σ × List (Turn σ))) : Prop where
  turns : o.turns <+: t.turns
  pipelineBuilt_eq : t.invoker.pipelineBuilt = o.invoker.pipelineBuilt

structure Finishes (o t : Orchestration (σ × List (Turn σ))) : Prop where
  turns : ∃ l, t.turns = o.turns ++ l ∧ ∀ x ∈ l, x.deed.isMutatorSearch = false
  processed : ∀ n ∈ o.invoker.processed, n ∈ t.invoker.processed
  pipelineBuilt_eq : t.invoker.pipelineBuilt = o.invoker.pipelineBuilt

variable {S : Surface σ} {hooks : Hooks σ} {o t u : Orchestration (σ × List (Turn σ))}

namespace Proceeds

lemma refl (o : Orchestration (σ × List (Turn σ))) : Proceeds o o := ⟨List.prefix_rfl, rfl⟩

lemma trans (h : Proceeds o u) (h' : Proceeds u t) : Proceeds o t :=
  ⟨h.turns.trans h'.turns, h'.pipelineBuilt_eq.trans h.pipelineBuilt_eq⟩

lemma of_turn {x : Turn σ} (hturns : t.turns = o.turns ++ [x]) (hinvoker : t.invoker = o.invoker) :
    Proceeds o t :=
  ⟨⟨[x], hturns.symm⟩, hinvoker ▸ rfl⟩

end Proceeds

namespace Finishes

lemma of_quiet (hturns : t.turns = o.turns)
    (hprocessed : ∀ n ∈ o.invoker.processed, n ∈ t.invoker.processed)
    (hbuilt : t.invoker.pipelineBuilt = o.invoker.pipelineBuilt) : Finishes o t :=
  ⟨⟨[], hturns.trans (List.append_nil _).symm, by simp⟩, hprocessed, hbuilt⟩

lemma refl (o : Orchestration (σ × List (Turn σ))) : Finishes o o := .of_quiet rfl (fun _ => id) rfl

lemma trans (h : Finishes o u) (h' : Finishes u t) : Finishes o t := by
  obtain ⟨⟨l, hl, hquiet⟩, hprocessed, hbuilt⟩ := h
  obtain ⟨⟨l', hl', hquiet'⟩, hprocessed', hbuilt'⟩ := h'
  refine ⟨⟨l ++ l', ?_, List.forall_mem_append.2 ⟨hquiet, hquiet'⟩⟩,
    fun n hn => hprocessed' n (hprocessed n hn), hbuilt'.trans hbuilt⟩
  rw [hl', hl, List.append_assoc]

lemma of_turn {x : Turn σ} (hturns : t.turns = o.turns ++ [x]) (hinvoker : t.invoker = o.invoker)
    (hx : x.deed.isMutatorSearch = false) : Finishes o t :=
  ⟨⟨[x], hturns, List.forall_mem_singleton.2 hx⟩, fun _ => hinvoker ▸ id, hinvoker ▸ rfl⟩

lemma proceeds (h : Finishes o t) : Proceeds o t := by
  obtain ⟨⟨l, hl, -⟩, -, hbuilt⟩ := h
  exact ⟨⟨l, hl.symm⟩, hbuilt⟩

lemma preserves_found (c : Capability) :
    Preserves Finishes (fun _ => True) (fun n (o : Orchestration (σ × List (Turn σ))) =>
      Found o.turns c n) :=
  ⟨refl, trans, fun _ => id, fun h hn => hn.mono h.proceeds.turns⟩

end Finishes

lemma ends_record_finishes {ε : Type} (level : Level) (message : String)
    (o : Orchestration (σ × List (Turn σ))) :
    Act.Ends (record S.monitored level message : Act _ ε Unit) o (fun _ t => Finishes o t)
      (fun _ _ => False) :=
  .of_quiet rfl (fun _ => id) rfl

lemma ends_mark_finishes {ε : Type} (name : String) (o : Orchestration (σ × List (Turn σ))) :
    Act.Ends (mark name : Act _ ε Unit) o
      (fun _ t => Finishes o t ∧ t.registry = o.registry ∧ name ∈ t.invoker.processed)
      (fun _ _ => False) :=
  ⟨.of_quiet rfl (fun _ hn => ProcessedSet.mem_mark.2 (.inl hn)) rfl, rfl,
    ProcessedSet.mem_mark.2 (.inr rfl)⟩

lemma ends_markNew_finishes {ε : Type} (name : String) (o : Orchestration (σ × List (Turn σ))) :
    Act.Ends (markNew name : Act _ ε Bool) o
      (fun _ t => Finishes o t ∧ t.registry = o.registry ∧ name ∈ t.invoker.processed)
      (fun _ _ => False) := by
  apply Act.ends_get_bind
  by_cases hn : name ∈ o.invoker.processed
  · rw [if_pos hn]
    exact ⟨.refl o, rfl, hn⟩
  · rw [if_neg hn]
    exact (ends_mark_finishes name o).bind (fun _ _ ht => ht) (fun _ _ => id)

lemma ends_attempt_taking {ε ε' α : Type} (deed : Except ε α → Deed) (m : Act σ ε α) (g : ε → ε')
    (o : Orchestration (σ × List (Turn σ))) :
    Act.Ends ((attempt (Turn.takingAct deed m)).adapt g) o
      (fun a t => t.invoker = o.invoker ∧ ∃ x, t.turns = o.turns ++ [x] ∧ x.deed = deed (.ok a))
      (fun e t => ∃ e', e = g e' ∧ ∃ x, t.turns = o.turns ++ [x] ∧ x.deed = deed (.error e')) := by
  have hattempt : Act.Ends (attempt (Turn.takingAct deed m)) o
      (fun a t => t.invoker = o.invoker ∧ ∃ x, t.turns = o.turns ++ [x] ∧ x.deed = deed (.ok a))
      (fun e t => ∃ x, t.turns = o.turns ++ [x] ∧ x.deed = deed (.error e)) := by
    have hrun : attempt (Turn.takingAct deed m) o = ((m o.registry.1).1, { o with registry :=
      ((m o.registry.1).2, o.turns ++ [⟨deed (m o.registry.1).1, o.registry.1,
        (m o.registry.1).2⟩]) }) := rfl
    unfold Act.Ends
    rw [hrun]
    rcases m o.registry.1 with ⟨e | a, s⟩
    · exact ⟨_, rfl, rfl⟩
    · exact ⟨rfl, _, rfl, rfl⟩
  exact hattempt.adapt fun e t ht => ⟨e, rfl, ht⟩

lemma ends_instantiate_asked {c : Capability} (phase : Phase) {name : String}
    (hfound : Found o.turns c name) :
    Act.Ends (instantiate S.monitored phase name) o
      (fun d t => d.name = name ∧ Asked t.turns c name (.ok d.extension) ∧ Finishes o t)
      (fun e t => Fault t.turns e) := by
  refine (ends_attempt_taking (.created name) (S.instantiate name) _ o).bind
    (fun e t ⟨hinvoker, x, hturns, hx⟩ => ?_) (fun e t ⟨e', he, x, hturns, hx⟩ => ?_)
  · refine Act.ends_get_bind ⟨rfl, ⟨o.turns, x, [], hturns, hfound, hx⟩, ?_⟩
    exact .of_turn hturns hinvoker (by rw [hx]; rfl)
  · rw [he]
    exact .refused ⟨o.turns, x, [], hturns, hfound, hx⟩

lemma ends_find_found (c : Capability) (o : Orchestration (σ × List (Turn σ))) :
    Act.Ends (ask (S.monitored.find c) : Act _ BootstrapError (List String)) o
      (fun names t => names = (S.find c o.registry.1).1 ∧ Proceeds o t ∧
        t.invoker = o.invoker ∧ (∀ n ∈ names, Found t.turns c n) ∧
        (c ≠ .registryMutator → Finishes o t))
      (fun _ _ => False) := by
  refine ⟨rfl, .of_turn rfl rfl, rfl, fun n hn => ?_, fun hc => ?_⟩
  · exact ⟨_, List.mem_concat_self, _, rfl, hn⟩
  · refine .of_turn rfl rfl ?_
    cases c <;> first | rfl | exact absurd rfl hc

/-! ### Mutators -/

abbrev Mutators (turns : List (Turn σ)) (cs : List Candidate) : Prop :=
  ∀ c ∈ cs, Asked turns .registryMutator c.name (.ok c.extension)

lemma ends_collectFrom_asked (tier : Option Tier) (phase : Phase) (names : List String)
    (hfound : ∀ n ∈ names, Found o.turns .registryMutator n) :
    Act.Ends (collectFrom S.monitored tier phase names) o
      (fun cs t => Proceeds o t ∧ Mutators t.turns cs) (fun e t => Fault t.turns e) := by
  apply collectFrom_rule (P := fun o names => ∀ n ∈ names, Found o.turns .registryMutator n) hfound
    fun _ _ => ⟨.refl _, fun _ hc => absurd hc List.not_mem_nil⟩
  · exact fun o name rest hfound _ =>
      ⟨(List.forall_mem_cons.1 hfound).2, fun _ _ => id, fun _ _ => id⟩
  intro o name rest hfound _ _
  obtain ⟨hname, hrest⟩ := List.forall_mem_cons.1 hfound
  refine (ends_instantiate_asked phase hname).mono (fun c u ⟨hc, hasked, hu⟩ => ?_) (fun _ _ => id)
  refine (ends_mark_finishes name u).mono (fun _ v ⟨hv, _⟩ => ?_) (fun _ _ => False.elim)
  have huv := (hu.trans hv).proceeds
  refine ⟨fun n hn => (hrest n hn).mono huv.turns, fun cs t ⟨ht, hcs⟩ => ?_, fun _ _ => id⟩
  refine ⟨huv.trans ht, List.forall_mem_cons.2 ⟨?_, hcs⟩⟩
  rw [hc]
  exact hasked.mono (hv.proceeds.trans ht).turns

lemma ends_collect_asked (tier : Option Tier) (phase : Phase)
    (o : Orchestration (σ × List (Turn σ))) :
    Act.Ends (collect S.monitored tier phase) o
      (fun cs t => Proceeds o t ∧ Mutators t.turns cs) (fun e t => Fault t.turns e) := by
  refine (ends_find_found _ o).bind (fun names u ⟨_, hu, _, hfound, _⟩ => ?_) (fun _ _ => False.elim)
  refine (ends_collectFrom_asked tier phase names hfound).bind (fun cs t ⟨ht, hcs⟩ => ?_)
    (fun _ _ => id)
  exact Act.ends_pure ⟨hu.trans ht, fun c hc => hcs c ((sortByPrecedence_perm _ cs).mem_iff.1 hc)⟩

lemma ends_ask_quiet {ε α : Type} (x : StateM σ α) (o : Orchestration (σ × List (Turn σ))) :
    Act.Ends (ask (View.inside x) : Act _ ε α) o
      (fun a t => a = (x o.registry.1).1 ∧ t.registry.1 = (x o.registry.1).2 ∧ Finishes o t)
      (fun _ _ => False) :=
  ⟨rfl, rfl, .of_quiet rfl (fun _ => id) rfl⟩

lemma ends_mutate_fault (phase : Phase) {c : Candidate}
    (hc : c.extension.behaviour.mutator = none →
      Asked o.turns .registryMutator c.name (.ok c.extension)) :
    Act.Ends (mutate S.monitored hooks.monitored phase c) o (fun _ t => Proceeds o t)
      (fun e t => Fault t.turns e) := by
  unfold mutate
  split
  · rename_i hnone
    rw [Option.isNone_iff_eq_none] at hnone
    refine .unfit (hc hnone) fun hmem => ?_
    exact Option.isSome_iff_ne_none.1 (Behaviour.mutator_of_mem_capabilities hmem) hnone
  refine (ends_ask_quiet _ o).bind (fun _ u ⟨_, _, hu⟩ => ?_) (fun _ _ => False.elim)
  split
  · exact hu.proceeds
  refine (ends_attempt_taking (.mutated c.name) _ _ u).bind (fun _ v ⟨hi, x, hx, _⟩ => ?_)
    (fun e t ⟨e', he, x, hturns, hx⟩ => ?_)
  · refine Act.ends_get_bind ((ends_record_finishes _ _ v).bind (fun _ t ht => ?_)
      (fun _ _ => False.elim))
    exact (hu.proceeds.trans (.of_turn hx hi)).trans ht.proceeds
  · rw [he]
    exact .hook (hturns ▸ List.mem_concat_self) (.inl hx)

lemma ends_mutateAll_fault (phase : Phase) {cs : List Candidate} (hcs : Mutators o.turns cs) :
    Act.Ends (mutateAll S.monitored hooks.monitored phase cs) o (fun _ t => Proceeds o t)
      (fun e t => Fault t.turns e) := by
  apply mutateAll_rule (P := fun o cs => Mutators o.turns cs) hcs fun o _ => .refl o
  intro o c rest hcs
  obtain ⟨hc, hrest⟩ := List.forall_mem_cons.1 hcs
  refine (ends_mutate_fault phase fun _ => hc).mono (fun _ u hu => ?_) (fun _ _ => id)
  exact ⟨fun d hd => (hrest d hd).mono hu.turns, fun _ _ => hu.trans, fun _ _ => id⟩

lemma ends_mutateSupplied_fault (supplied : List Supplied)
    (o : Orchestration (σ × List (Turn σ))) :
    Act.Ends (mutateSupplied S.monitored hooks.monitored supplied) o
      (fun _ t => Proceeds o t) (fun e t => Fault t.turns e) := by
  apply mutateSupplied_rule (P := fun _ _ => True) trivial fun o _ => .refl o
  intro o item rest _
  refine (ends_markNew_finishes item.name o).mono (fun isNew u ⟨hu, _⟩ => ?_) (fun _ _ => False.elim)
  cases isNew with
  | false =>
    refine .old fun line => (ends_record_finishes _ _ u).mono (fun _ v hv => ?_)
      (fun _ _ => False.elim)
    exact ⟨trivial, fun _ _ => (hu.proceeds.trans hv.proceeds).trans, fun _ _ => id⟩
  | true =>
    refine .isNew (fun hmutator => ?_) fun _ => ⟨trivial, fun _ _ => hu.proceeds.trans, fun _ _ => id⟩
    refine (ends_mutate_fault _ fun hnone => ?_).mono
      (fun _ v hv => ⟨trivial, fun _ _ => (hu.proceeds.trans hv).trans, fun _ _ => id⟩) (fun _ _ => id)
    rw [show item.extension.behaviour.mutator = none from hnone] at hmutator
    cases hmutator

lemma ends_discover_fault (before budget : Nat) (o : Orchestration (σ × List (Turn σ))) :
    Act.Ends (discover S.monitored hooks.monitored before budget) o
      (fun _ t => Proceeds o t) (fun e t => Fault t.turns e) := by
  apply discover_rule (P := fun _ _ => True) trivial fun o _ => .refl o
  intro o budget _
  refine (ends_collect_asked none _ o).mono
    (fun batch u ⟨hu, hbatch⟩ => ⟨fun _ => hu, fun _ line => ?_⟩) (fun _ _ => id)
  refine (ends_record_finishes _ _ u).mono (fun _ v hv => ?_) (fun _ _ => False.elim)
  refine (ends_mutateAll_fault _ fun c hc => (hbatch c hc).mono hv.proceeds.turns).mono
    (fun _ w hw => ?_) (fun _ _ => id)
  exact ⟨trivial, fun _ _ => ((hu.trans hv.proceeds).trans hw).trans, fun _ _ => id⟩

lemma ends_mutateDeclared_fault (o : Orchestration (σ × List (Turn σ))) :
    Act.Ends (mutateDeclared S.monitored hooks.monitored) o
      (fun _ t => Proceeds o t) (fun e t => Fault t.turns e) := by
  refine (ends_collect_asked _ _ o).bind (fun first u ⟨hu, hfirst⟩ => ?_) (fun _ _ => id)
  refine (ends_mutateAll_fault _ hfirst).bind (fun _ v hv => ?_) (fun _ _ => id)
  refine (ends_collect_asked _ _ v).bind (fun second w ⟨hw, hsecond⟩ => ?_) (fun _ _ => id)
  refine (ends_mutateAll_fault _ hsecond).bind (fun _ x hx => ?_) (fun _ _ => id)
  refine Act.ends_get_bind ((ends_discover_fault _ _ x).bind (fun _ t ht => ?_) (fun _ _ => id))
  exact Act.ends_pure ((((hu.trans hv).trans hw).trans hx).trans ht)

lemma ends_settle_fault (supplied : List Supplied) (o : Orchestration (σ × List (Turn σ))) :
    Act.Ends (settle S.monitored hooks.monitored supplied) o
      (fun _ t => Proceeds o t) (fun e t => Fault t.turns e) := by
  refine (ends_mutateSupplied_fault supplied o).bind (fun _ u hu => ?_) (fun _ _ => id)
  refine (ends_mutateDeclared_fault u).bind (fun _ t ht => ?_) (fun _ _ => id)
  exact Act.ends_pure (hu.trans ht)

/-! ### Finalizers -/

lemma ends_finalize_finishes (name : String) (e : Extension)
    (o : Orchestration (σ × List (Turn σ))) :
    Act.Ends (finalize S.monitored hooks.monitored name e) o (fun _ t => Finishes o t)
      (fun e t => Fault t.turns e) := by
  apply Act.ends_get_bind
  split
  · refine (ends_attempt_taking (.finalized name) _ _ o).bind (fun _ u ⟨hi, x, hturns, hx⟩ => ?_)
      (fun e t ⟨e', he, x, hturns, hx⟩ => ?_)
    · refine (ends_record_finishes _ _ u).bind (fun _ t ht => ?_) (fun _ _ => False.elim)
      exact Act.ends_pure ((Finishes.of_turn hturns hi (by rw [hx]; rfl)).trans ht)
    · rw [he]
      exact .hook (hturns ▸ List.mem_concat_self) (.inr hx)
  · refine (ends_record_finishes _ _ o).bind (fun _ t ht => ?_) (fun _ _ => False.elim)
    exact Act.ends_pure ht

lemma ends_finalizeSettled_finishes (m : Settlement) (o : Orchestration (σ × List (Turn σ))) :
    Act.Ends (finalizeSettled S.monitored hooks.monitored m) o (fun _ t => Finishes o t)
      (fun e t => Fault t.turns e) :=
  ends_finalizeSettled_along (Finishes.preserves_found .finalizer)
    (fun o name e _ => ends_finalize_finishes name e o) m trivial

lemma ends_finalizeDiscovered_finishes (o : Orchestration (σ × List (Turn σ))) :
    Act.Ends (finalizeDiscovered S.monitored hooks.monitored) o
      (fun _ t => Finishes o t ∧
        ∀ n ∈ (S.find .finalizer o.registry.1).1, n ∈ t.invoker.processed)
      (fun e t => Fault t.turns e) := by
  refine (ends_finalizeDiscovered_along (Finishes.preserves_found .finalizer)
    (M := fun n t => n ∈ t.invoker.processed)
    (W := fun names u => names = (S.find .finalizer o.registry.1).1 ∧ Finishes o u)
    (fun o name e _ => ends_finalize_finishes name e o)
    (fun o name _ hfound => (ends_instantiate_asked _ hfound).mono (fun _ _ ht => ht.2.2)
      (fun _ _ => id)) (fun _ _ n ht hn => ht.processed n hn)
    ((ends_find_found .finalizer o).mono (fun names u ⟨hnames, _, _, hfound, hu⟩ =>
      ⟨trivial, hfound, hnames, hu (by simp)⟩) (fun _ _ => id))
    (fun o name => (ends_markNew_finishes name o).mono (fun _ _ ⟨ht, _, hmem⟩ => ⟨ht, hmem⟩)
      (fun _ _ => id))).mono (fun _ t ⟨names, u, ⟨hnames, hu⟩, ht, hmarks⟩ => ?_) (fun _ _ => id)
  exact ⟨hu.trans ht, hnames ▸ hmarks⟩

/-! ### The phase and the build -/

theorem ends_mutationPhase_fault (hS : S.AlwaysEditable) (supplied : List Supplied)
    (o : Orchestration (σ × List (Turn σ))) :
    Act.Ends (mutationPhase S.monitored hooks.monitored supplied) o (fun _ t => Proceeds o t)
      (fun e t => Fault t.turns e) := by
  apply mutationPhase_rule
  intro line
  refine (ends_record_finishes _ _ o).mono (fun _ u hu => ?_) (fun _ _ => False.elim)
  refine (ends_ask_quiet _ u).mono (fun editable v ⟨heditable, _, hv⟩ => ?_) (fun _ _ => False.elim)
  rw [if_pos (heditable.trans (hS _))]
  have hphase : Act.Ends (mutateRegistry S.monitored hooks.monitored supplied) v
      (fun _ t => Proceeds o t) (fun e t => Fault t.turns e) := by
    refine (ends_settle_fault supplied v).bind (fun _ w hw => ?_) (fun _ _ => id)
    refine (ends_finalizeSettled_finishes _ w).bind (fun _ x hx => ?_) (fun _ _ => id)
    refine (ends_finalizeDiscovered_finishes x).bind (fun _ t ⟨ht, _⟩ => ?_) (fun _ _ => id)
    exact Act.ends_get_bind (((hu.trans hv).proceeds.trans hw).trans (hx.trans ht).proceeds)
  refine hphase.mono (fun _ w hw => ?_) (fun e w hw line => ?_)
  · refine (ends_ask_quiet _ w).mono (fun _ x ⟨_, _, hx⟩ line => ?_) (fun _ _ => False.elim)
    exact (ends_record_finishes _ _ x).mono (fun _ _ ht => hw.trans (hx.trans ht).proceeds)
      (fun _ _ => False.elim)
  · exact (ends_record_finishes _ _ w).mono (fun _ _ ht => hw.mono ht.proceeds.turns)
      (fun _ _ => False.elim)

abbrev Hooking (cs : List Candidate) : Prop :=
  ∀ c ∈ cs, Capability.instanceHook ∈ c.extension.behaviour.capabilities

lemma Hooking.sort {cs : List Candidate} (h : Hooking cs) :
    Hooking (sortByPrecedence (·.precedence) cs) :=
  fun c hc => h c ((sortByPrecedence_perm _ cs).mem_iff.1 hc)

lemma ends_attempt_quiet {ε ε' α : Type} {m : Act (σ × List (Turn σ)) ε α} {g : ε → ε'}
    {o : Orchestration (σ × List (Turn σ))}
    (h : Act.Ends m o.registry (fun _ s => s.2 = o.turns) fun _ _ => False) :
    Act.Ends ((attempt m).adapt g) o (fun _ t => Finishes o t) (fun _ _ => False) := by
  have hattempt : Act.Ends (attempt m) o (fun _ t => Finishes o t) (fun _ _ => False) := by
    have hrun : attempt m o =
      ((m o.registry).1, { o with registry := (m o.registry).2 }) := rfl
    unfold Act.Ends at h ⊢
    rw [hrun]
    rcases hm : m o.registry with ⟨e | a, s⟩ <;> rw [hm] at h
    · exact h
    · exact .of_quiet h (fun _ => id) rfl
  exact hattempt.adapt fun _ _ => id

lemma ends_addToPipeline_quiet (hadd : S.TakesHooks) (name : String) {e : Extension}
    (he : Capability.instanceHook ∈ e.behaviour.capabilities) (s : σ × List (Turn σ)) :
    Act.Ends (S.monitored.addToPipeline name e) s (fun _ t => t.2 = s.2) (fun _ _ => False) := by
  have hrun : S.monitored.addToPipeline name e s = ((S.addToPipeline name e s.1).1,
    (S.addToPipeline name e s.1).2, s.2) := rfl
  unfold Act.Ends
  rw [hrun, hadd name e s.1 he]

lemma ends_instantiateHook_finishes (o : Orchestration (σ × List (Turn σ))) (name : String)
    (hfound : Found o.turns .instanceHook name) :
    Act.Ends (instantiateHook S.monitored name) o
      (fun c t => Capability.instanceHook ∈ c.extension.behaviour.capabilities ∧ Finishes o t)
      (fun e t => Fault t.turns e) := by
  refine (ends_instantiate_asked _ hfound).bind (fun c t ⟨hc, hasked, ht⟩ => ?_) (fun _ _ => id)
  split
  · exact Act.ends_pure ⟨‹_›, ht⟩
  · exact .unfit hasked ‹_›

lemma ends_enlist_finishes (hadd : S.TakesHooks) {cs : List Candidate} (hcs : Hooking cs)
    (o : Orchestration (σ × List (Turn σ))) :
    Act.Ends (enlist S.monitored cs) o (fun _ t => Finishes o t) (fun _ _ => False) := by
  apply enlist_rule (P := fun _ cs => Hooking cs) hcs fun o _ => .refl o
  intro o c rest hcs
  obtain ⟨hc, hrest⟩ := List.forall_mem_cons.1 hcs
  refine (ends_attempt_quiet (ends_addToPipeline_quiet hadd c.name hc _)).mono
    (fun _ u hu line => ?_) (fun _ _ => id)
  refine (ends_record_finishes _ _ u).mono (fun _ v hv => ?_) (fun _ _ => id)
  exact ⟨hrest, fun _ _ => (hu.trans hv).trans, fun _ _ => id⟩

lemma ends_arm_quiet (hadd : S.TakesHooks) (target : Nat) (s : σ × List (Turn σ)) :
    Act.Ends (S.monitored.arm target) s (fun _ t => t.2 = s.2) (fun _ _ => False) := by
  refine Act.ends_lift_bind ((ends_addToPipeline_quiet hadd _ ?_ _).bind (fun _ _ ht => ?_)
    (fun _ _ => id))
  · exact CapabilitySet.mem_ofList.2
      ⟨.instanceHook, List.mem_filter.2 ⟨Capability.mem_all _, rfl⟩, .inl rfl⟩
  · exact Act.ends_pure ht

lemma ends_buildWith_fault (hadd : S.TakesHooks) {names : List String}
    {o : Orchestration (σ × List (Turn σ))} (hfound : ∀ n ∈ names, Found o.turns .instanceHook n) :
    Act.Ends (buildWith S.monitored names) o (fun _ _ => True) (fun e t => Fault t.turns e) := by
  have hR := Finishes.preserves_found (σ := σ) .instanceHook
  have hcreate (o : Orchestration (σ × List (Turn σ))) (name : String) (_ : True) :=
    ends_instantiateHook_finishes (S := S) o name
  apply Act.ends_get_bind
  refine (ends_attempt_quiet (ends_arm_quiet hadd _ _)).bind (fun checker u hu => ?_)
    (fun _ _ => False.elim)
  refine (ends_classify_along hR hcreate (M := fun _ _ => True) (fun _ _ _ _ => id)
    (fun o _ => Act.ends_pure ⟨.refl o, trivial⟩) trivial fun n hn => hR.known hu (hfound n hn)).bind
    (fun (first, second, third) v ⟨hv, hfirst, hsecond, hthird, _⟩ => ?_) (fun _ _ => id)
  have hfirst : Hooking (sortByPrecedence (·.precedence) first) := Hooking.sort hfirst
  refine (ends_enlist_finishes hadd hfirst v).bind (fun _ w hw => ?_) (fun _ _ => False.elim)
  have huw := (hu.trans hv).trans hw
  refine (ends_instantiateAll_along hR hcreate trivial fun n hn =>
    hR.known huw (hfound n (hsecond hn))).bind (fun ordered x ⟨hordered, hx⟩ => ?_) (fun _ _ => id)
  have hordered : Hooking (sortByPrecedence (·.precedence) ordered) := Hooking.sort hordered
  refine (ends_enlist_finishes hadd hordered x).bind (fun _ y hy => ?_) (fun _ _ => False.elim)
  have huy := (huw.trans hx).trans hy
  refine (ends_instantiateAll_along hR hcreate trivial fun n hn =>
    hR.known huy (hfound n (hthird hn))).bind (fun untagged z ⟨huntagged, _⟩ => ?_) (fun _ _ => id)
  refine (ends_enlist_finishes hadd huntagged z).bind (fun _ z _ => ?_) (fun _ _ => False.elim)
  refine (ends_enlist_finishes hadd (Hooking.sort fun c hc => ?_) z).bind (fun _ z _ => ?_)
    (fun _ _ => False.elim)
  · rcases List.mem_append.1 (List.mem_filter.1 hc).1 with hc | hc
    · rcases List.mem_append.1 hc with hc | hc
      · exact hfirst c hc
      · exact hordered c hc
    · exact huntagged c hc
  · refine Act.ends_get_bind ((ends_record_finishes _ _ z).bind (fun _ _ _ => ?_)
      (fun _ _ => False.elim))
    exact Act.ends_pure trivial

theorem ends_buildPipeline_fault (hadd : S.TakesHooks) {o : Orchestration (σ × List (Turn σ))}
    (hfirst : o.invoker.pipelineBuilt = false) :
    Act.Ends (buildPipeline S.monitored) o (fun _ _ => True) (fun e t => Fault t.turns e) := by
  apply Act.ends_get_bind
  rw [if_neg (by simp [hfirst])]
  refine Act.ends_modify_bind ?_
  refine (ends_find_found .instanceHook _).bind (fun names u ⟨_, _, _, hfound, _⟩ => ?_)
    (fun _ _ => False.elim)
  exact ends_buildWith_fault hadd fun n hn => hfound n (List.mem_of_mem_filter hn)

end Orchestration

end ComponentContainer
