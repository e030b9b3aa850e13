import ComponentContainer.Proofs.Orchestration.Likeness

/-! Orchestrators on two surfaces. If the surfaces keep step with each other, so does all that
an orchestrator or a scripted hook does on them. -/

namespace ComponentContainer

open Act

variable {σ τ ε α : Type} {S' : Surface τ} {S : Surface σ} {R : τ → σ → Prop} {K : Likeness}
  {P : Extension → Prop}

lemma Surface.Simulates.isTagged (hS : S'.Simulates S R K P) {name : String} (hname : K.name name)
    (tier : Tier) {s' : τ} {s : σ} (hR : R s' s) :
    S'.isTagged name tier s' = S.isTagged name tier s := by
  unfold Surface.isTagged
  rw [hS.precedenceOf name hname s' s hR]

lemma arm_matches (hfresh : Agree R S'.fresh S.fresh)
    (hadd : ∀ name e, Matches R (S'.addToPipeline name e) (S.addToPipeline name e)) (target : Nat) :
    Act.Simulates R (fun e' e => e'.stamp = e.stamp) (S'.arm target) (S.arm target) :=
  hfresh.matches.bind fun _ => (hadd _ _).bind fun _ => simulates_pure rfl

/-! ### Scripts -/

namespace Script

section

variable {note' : Entry → StateM τ Unit} {note : Entry → StateM σ Unit}
  {perform' : Action → Act τ ScriptError Answer} {perform : Action → Act σ ScriptError Answer}
  (hnote : ∀ e, Agree R (note' e) (note e))
  (hacted : ∀ id word a' a, K.answer a' a →
    Agree R (note' (.acted id word a')) (note (.acted id word a)))
  (hperform : ∀ a, K.Allows a → Act.Simulates R K.answer (perform' a) (perform a))

include hnote hacted hperform

lemma runStep_simulates (id : String) {step : Step} (hstep : K.Allows step.action) :
    Matches R (runStep note' perform' id step) (runStep note perform id step) := by
  refine Simulates.tryCatch ?_ fun e => ?_
  · exact (hperform _ hstep).bind fun _ _ ha => (hacted _ _ _ _ ha).matches
  · exact simulates_ite (hnote _).matches (simulates_throw e)

lemma run_simulates (id : String) {steps : List Step}
    (hsteps : ∀ step ∈ steps, K.Allows step.action) :
    Matches R (run note' perform' id steps) (run note perform id steps) := by
  induction steps with
  | nil => exact matches_pure _
  | cons step steps ih =>
    obtain ⟨hstep, hsteps⟩ := List.forall_mem_cons.1 hsteps
    exact (runStep_simulates hnote hacted hperform id hstep).bind fun _ => ih hsteps

end

variable {lib : Catalog} (hS : S'.SimulatesScripts lib S R K P)

include hS

lemma performEdits_simulates {a : Action} (ha : K.Allows a) :
    Act.Simulates R K.answer (performEdits S' a) (performEdits S a) := by
  cases a with
  | note text => exact simulates_pure (K.answer_refl _)
  | fail message => exact simulates_throw _
  | edit e => exact (hS.edit e ha).adapt _
  | query q => exact simulates_pure (K.answer_refl _)
  | inspect i => exact simulates_pure (K.answer_refl _)

lemma perform_query_simulates {q : Query} (hq : ∀ n ∈ q.mentioned, K.name n) :
    Matches R (q.perform lib S') (q.perform lib S) := by
  have hname {name : String} (h : name ∈ q.mentioned) : K.name name := hq name h
  cases q with
  | find c => exact (hS.find c).matches.bind fun _ => matches_pure _
  | precedence name =>
    refine simulates_get_bind fun s' s hR => ?_
    rw [hS.precedenceOf name (hname List.mem_cons_self) s' s hR]
    exact matches_pure _
  | tagged name tier =>
    refine simulates_get_bind fun s' s hR => ?_
    rw [hS.isTagged (hname List.mem_cons_self) tier hR]
    exact matches_pure _
  | infrastructure name =>
    refine simulates_get_bind fun s' s hR => ?_
    rw [hS.isInfrastructure name (hname List.mem_cons_self) s' s hR]
    exact matches_pure _
  | instantiate name =>
    refine (hS.instantiate name (hname List.mem_cons_self)).bind fun e' e he => ?_
    rw [K.behaviour_eq he.1]
    exact matches_pure _
  | invalidate => exact hS.invalidate.matches.bind fun _ => matches_pure _
  | editable => exact hS.editable.matches.bind fun _ => matches_pure _
  | pipeline =>
    refine simulates_get_bind fun s' s hR => ?_
    rw [K.names_eq (hS.pipeline s' s hR)]
    exact matches_pure _
  | addToPipeline name entry =>
    have hsupply := (hS.supply name entry).bind fun _ => matches_pure Answer.done
    simp only [bind_assoc] at hsupply
    exact hsupply

lemma performOn_simulates {a : Action} (ha : K.Allows a) :
    Act.Simulates R K.answer (performOn lib S' a) (performOn lib S a) := by
  cases a with
  | note text => exact simulates_pure (K.answer_refl _)
  | fail message => exact simulates_throw _
  | edit e =>
    exact hS.editable.matches.bind fun _ =>
      simulates_ite ((hS.edit e ha).adapt _) (simulates_pure (K.answer_refl _))
  | query q =>
    exact ((perform_query_simulates hS ha).adapt _).mono fun _ a h => h ▸ K.answer_refl a
  | inspect i => exact simulates_pure (K.answer_refl _)

end Script

lemma Hooks.scripted_simulates {lib : Catalog} (hS : S'.SimulatesScripts lib S R K P)
    (hallows : ∀ e' e, K.extension e' e → ∀ step ∈ e.behaviour.steps, K.Allows step.action) :
    (Hooks.scripted lib S').Simulates (Hooks.scripted lib S) R K := by
  have hrun (id : String) {steps : List Step} (h : ∀ step ∈ steps, K.Allows step.action) :=
    Script.run_simulates hS.note hS.acted (fun _ => Script.performOn_simulates hS) id h
  have hedit (id : String) {steps : List Step} (h : ∀ step ∈ steps, K.Allows step.action) :=
    Script.run_simulates hS.note hS.acted (fun _ => Script.performEdits_simulates hS) id h
  have hsteps {e' e : Extension} (he : K.extension e' e) {steps : List Step}
      (h : steps ⊆ e.behaviour.steps) : ∀ step ∈ steps, K.Allows step.action :=
    fun step hstep => hallows e' e he step (h hstep)
  refine ⟨fun name e' e he => ?_, fun name e' e he => ?_⟩
  · obtain ⟨stamp', behaviour⟩ := e'
    obtain rfl := K.behaviour_eq he
    rcases e with ⟨stamp, _ | ⟨id, ⟨_ | script, finalizer, hook, merge, listener⟩⟩ | _ | _⟩
    case scripted.some =>
      have hmutate : script.mutate ⊆ script.mutate ++ script.finalize ++ finalizer.getD [] :=
        List.Subset.trans (List.subset_append_left _ _) (List.subset_append_left _ _)
      exact (hS.note _).matches.bind fun _ => (hedit _ (hsteps he hmutate)).adapt _
    all_goals exact matches_pure _
  · obtain ⟨stamp', behaviour⟩ := e'
    obtain rfl := K.behaviour_eq he
    rcases e with ⟨stamp, _ | ⟨id, ⟨_ | script, _ | steps, hook, merge, listener⟩⟩ | _ | _⟩
    case scripted.none.some =>
      exact (hS.note _).matches.bind fun _ =>
        (hrun _ (hsteps he (List.subset_append_right [] _))).adapt _
    case scripted.some.none =>
      have hfinalize : script.finalize ⊆ script.mutate ++ script.finalize ++ [] :=
        List.Subset.trans (List.subset_append_right _ _) (List.subset_append_left _ _)
      exact (hS.note _).matches.bind fun _ => (hrun _ (hsteps he hfinalize)).adapt _
    case scripted.some.some =>
      have hfinalize : script.finalize ⊆ script.mutate ++ script.finalize ++ steps :=
        List.Subset.trans (List.subset_append_right _ _) (List.subset_append_left _ _)
      exact (hS.note _).matches.bind fun _ => (hrun _ (hsteps he hfinalize)).adapt _
    all_goals exact matches_pure _

lemma Hooks.scripted_same {lib : Catalog} (hS : S'.SimulatesScripts lib S R .same P) :
    (Hooks.scripted lib S').Simulates (Hooks.scripted lib S) R .same :=
  scripted_simulates hS fun _ _ _ step _ => Likeness.allows_same step.action

/-! ### Orchestrators -/

namespace Orchestration

def Related (R : τ → σ → Prop) (o' : Orchestration τ) (o : Orchestration σ) : Prop :=
  R o'.registry o.registry ∧ o'.invoker = o.invoker

lemma ask_simulates {x' : StateM τ α} {x : StateM σ α} (h : Agree R x' x) :
    Matches (Related R) (ask x' : Act _ ε α) (ask x) :=
  fun _ _ hR => ⟨(h _ _ hR.1).1, (h _ _ hR.1).2, hR.2⟩

lemma attempt_simulates {α' : Type} {V : α' → α → Prop} {m' : Act τ ε α'} {m : Act σ ε α}
    (h : Act.Simulates R V m' m) : Act.Simulates (Related R) V (attempt m') (attempt m) :=
  fun _ _ hR => ⟨(h _ _ hR.1).1, (h _ _ hR.1).2, hR.2⟩

lemma mark_simulates (name : String) :
    Matches (Related R) (mark name : Act _ ε Unit) (mark name) := by
  rintro o' o ⟨hR, hi⟩
  refine ⟨rfl, hR, ?_⟩
  exact congrArg (fun i : Invoker => { i with processed := i.processed.mark name }) hi

lemma markNew_simulates (name : String) :
    Matches (Related R) (markNew name : Act _ ε Bool) (markNew name) := by
  refine simulates_get_bind fun o' o hR => ?_
  rw [hR.2]
  exact simulates_ite (matches_pure _) ((mark_simulates name).bind fun _ => matches_pure _)

lemma instantiateAll_simulates {V : Candidate → Candidate → Prop}
    {create' : String → Act (Orchestration τ) BootstrapError Candidate}
    {create : String → Act (Orchestration σ) BootstrapError Candidate}
    (hc : ∀ name, K.name name → Act.Simulates (Related R) V (create' name) (create name))
    {names : List String} (hnames : ∀ n ∈ names, K.name n) :
    Act.Simulates (Related R) (List.Forall₂ V) (instantiateAll create' names)
      (instantiateAll create names) := by
  induction names with
  | nil => exact simulates_pure .nil
  | cons name rest ih =>
    obtain ⟨hname, hrest⟩ := List.forall_mem_cons.1 hnames
    exact (hc name hname).bind fun _ _ hc => (ih hrest).bind fun _ _ hcs =>
      simulates_pure (.cons hc hcs)

abbrev Admitted (K : Likeness) (P : Extension → Prop) (c' c : Candidate) : Prop :=
  c'.Like K c ∧ P c.extension

lemma likes_of_admitted {cs' cs : List Candidate} (h : List.Forall₂ (Admitted K P) cs' cs) :
    List.Forall₂ (Candidate.Like K) cs' cs := h.imp fun _ _ => And.left

lemma sort_admitted {cs' cs : List Candidate} (h : List.Forall₂ (Admitted K P) cs' cs) :
    List.Forall₂ (Admitted K P) (sortByPrecedence (·.precedence) cs')
      (sortByPrecedence (·.precedence) cs) :=
  forall₂_sortByPrecedence (fun _ _ hc => hc.1.precedence_eq) h

lemma sort_likes {cs' cs : List Candidate} (h : List.Forall₂ (Candidate.Like K) cs' cs) :
    List.Forall₂ (Candidate.Like K) (sortByPrecedence (·.precedence) cs')
      (sortByPrecedence (·.precedence) cs) :=
  forall₂_sortByPrecedence (fun _ _ hc => hc.precedence_eq) h

section

variable {hooks' : Hooks τ} {hooks : Hooks σ} (hS : S'.Simulates S R K P)
  (hh : hooks'.Simulates hooks R K)

include hS

lemma record_simulates (level : Level) (message : String) :
    Matches (Related R) (record S' level message : Act _ ε Unit) (record S level message) :=
  ask_simulates (hS.record level message)

lemma find_simulates (c : Capability) :
    Act.Simulates (Related R) (fun l' l => l' = l ∧ ∀ n ∈ l, K.name n)
      (ask (S'.find c) : Act _ ε _) (ask (S.find c)) :=
  fun _ _ hR => ⟨⟨(hS.find c _ _ hR.1).1, hS.found c _ _ hR.1⟩, (hS.find c _ _ hR.1).2, hR.2⟩

lemma instantiate_simulates (phase : Phase) {name : String} (hname : K.name name) :
    Act.Simulates (Related R) (Admitted K P) (instantiate S' phase name)
      (instantiate S phase name) := by
  refine ((attempt_simulates (hS.instantiate name hname)).adapt _).bind fun e' e he => ?_
  refine simulates_get_bind fun o' o hR => ?_
  rw [hS.precedenceOf name hname _ _ hR.1]
  exact simulates_pure ⟨⟨rfl, rfl, he.1⟩, he.2⟩

lemma collectFrom_simulates (tier : Option Tier) (phase : Phase) {names : List String}
    (hnames : ∀ n ∈ names, K.name n) :
    Act.Simulates (Related R) (List.Forall₂ (Candidate.Like K)) (collectFrom S' tier phase names)
      (collectFrom S tier phase names) := by
  induction names with
  | nil => exact simulates_pure .nil
  | cons name rest ih =>
    obtain ⟨hname, hrest⟩ := List.forall_mem_cons.1 hnames
    refine simulates_get_bind fun o' o hR => ?_
    have htagged : (S'.isTagged name · o'.registry) = (S.isTagged name · o.registry) :=
      funext fun tier => hS.isTagged hname tier hR.1
    rw [hR.2, htagged]
    exact simulates_ite (ih hrest) <| (instantiate_simulates hS phase hname).bind fun _ _ hc =>
      (mark_simulates name).bind fun _ => (ih hrest).bind fun _ _ hcs =>
        simulates_pure (.cons hc.1 hcs)

lemma collect_simulates (tier : Option Tier) (phase : Phase) :
    Act.Simulates (Related R) (List.Forall₂ (Candidate.Like K)) (collect S' tier phase)
      (collect S tier phase) := by
  refine (find_simulates hS _).bind fun names' names ⟨hnames, hfound⟩ => ?_
  subst hnames
  exact (collectFrom_simulates hS tier phase hfound).bind fun _ _ hcs =>
    simulates_pure (sort_likes hcs)

lemma classify_simulates {V : Candidate → Candidate → Prop}
    {letIn' : String → Act (Orchestration τ) BootstrapError Bool}
    {letIn : String → Act (Orchestration σ) BootstrapError Bool}
    {create' : String → Act (Orchestration τ) BootstrapError Candidate}
    {create : String → Act (Orchestration σ) BootstrapError Candidate}
    (hl : ∀ name, Matches (Related R) (letIn' name) (letIn name))
    (hc : ∀ name, K.name name → Act.Simulates (Related R) V (create' name) (create name))
    {names : List String} (hnames : ∀ n ∈ names, K.name n) :
    Act.Simulates (Related R)
      (fun found' found => List.Forall₂ V found'.1 found.1 ∧ found'.2 = found.2 ∧
        (∀ n ∈ found.2.1, K.name n) ∧ ∀ n ∈ found.2.2, K.name n)
      (classify S' letIn' create' names) (classify S letIn create names) := by
  induction names with
  | nil => exact simulates_pure ⟨.nil, rfl, by simp, by simp⟩
  | cons name rest ih =>
    obtain ⟨hname, hrest⟩ := List.forall_mem_cons.1 hnames
    refine (hl name).bind fun isLetIn => ?_
    refine simulates_ite (ih hrest) (simulates_get_bind fun o' o hR => ?_)
    rw [hS.isTagged hname .priority hR.1]
    refine simulates_ite ?_ (simulates_get_bind fun o' o hR => ?_)
    · exact (hc name hname).bind fun _ _ hc => (ih hrest).bind fun _ _ ⟨hcs, hothers⟩ =>
        simulates_pure ⟨.cons hc hcs, hothers⟩
    · rw [hS.isTagged hname .ordered hR.1]
      refine simulates_ite ((ih hrest).bind fun found' found ⟨hcs, hothers, ho, hu⟩ => ?_)
        ((ih hrest).bind fun found' found ⟨hcs, hothers, ho, hu⟩ => ?_)
      · refine simulates_pure ⟨hcs, ?_, List.forall_mem_cons.2 ⟨hname, ho⟩, hu⟩
        exact congrArg (fun others : List String × List String => (name :: others.1, others.2))
          hothers
      · refine simulates_pure ⟨hcs, ?_, ho, List.forall_mem_cons.2 ⟨hname, hu⟩⟩
        exact congrArg (fun others : List String × List String => (others.1, name :: others.2))
          hothers

/-! ### The build -/

lemma instantiateHook_simulates {name : String} (hname : K.name name) :
    Act.Simulates (Related R) (Admitted K P) (instantiateHook S' name)
      (instantiateHook S name) :=
  (instantiate_simulates hS _ hname).bind fun _ _ hc => by
    rw [K.behaviour_eq hc.1.extension]
    exact simulates_ite (simulates_pure hc) (simulates_throw _)

lemma enlist_simulates {cs' cs : List Candidate} (hcs : List.Forall₂ (Admitted K P) cs' cs) :
    Matches (Related R) (enlist S' cs') (enlist S cs) := by
  induction hcs with
  | nil => exact matches_pure _
  | @cons c' c rest' rest hc _ ih =>
    unfold enlist
    rw [hc.1.name_eq, hc.1.precedence_eq]
    have hadd : Matches (Related R) (addToPipeline S' c.name c'.extension)
        (addToPipeline S c.name c.extension) :=
      (attempt_simulates (hS.addToPipeline c.name _ _ hc.1.extension hc.2)).adapt _
    exact hadd.bind fun _ => (record_simulates hS _ _).bind fun _ => ih

lemma buildWith_simulates {names : List String} (hnames : ∀ n ∈ names, K.name n) :
    Act.Simulates (Related R) (BuiltPipeline.Like K) (buildWith S' names) (buildWith S names) := by
  have hlength {s' : τ} {s : σ} (hR : R s' s) : (S'.pipeline s').length = (S.pipeline s).length := by
    have hnames := congrArg List.length (K.names_eq (hS.pipeline s' s hR))
    unfold Pipeline.names at hnames
    rwa [List.length_map, List.length_map] at hnames
  have hcreateAll {names : List String} (hnames : ∀ n ∈ names, K.name n) :=
    instantiateAll_simulates (fun _ => instantiateHook_simulates hS) hnames
  refine simulates_get_bind fun o' o hR => ?_
  rw [hlength hR.1]
  refine ((attempt_simulates (hS.arm _)).adapt _).bind fun checker' checker hchecker => ?_
  refine (classify_simulates hS (fun _ => matches_pure true) (fun _ => instantiateHook_simulates hS)
    hnames).bind fun ⟨found', others'⟩ ⟨found, orderedNames, untaggedNames⟩
      ⟨hfound, hothers, horderedNames, huntaggedNames⟩ => ?_
  obtain rfl : others' = (orderedNames, untaggedNames) := hothers
  have hfirst := sort_admitted hfound
  refine (enlist_simulates hS hfirst).bind fun _ => ?_
  refine (hcreateAll horderedNames).bind fun ordered' ordered hordered => ?_
  have hsecond := sort_admitted hordered
  refine (enlist_simulates hS hsecond).bind fun _ => ?_
  refine (hcreateAll huntaggedNames).bind fun untagged' untagged hthird => ?_
  refine (enlist_simulates hS hthird).bind fun _ => ?_
  have hhooks : List.Forall₂ (Admitted K P) (_ ++ _ ++ _) (_ ++ _ ++ _) :=
    List.rel_append (List.rel_append hfirst hsecond) hthird
  have hmerging := sort_admitted <| forall₂_filter
    (fun (c' c : Candidate) (hc : Admitted K P c' c) =>
      congrArg (·.merge.isSome) (K.behaviour_eq hc.1.extension)) hhooks
  have hall : List.Forall₂ (Admitted K P) (_ ++ _) (_ ++ _) := List.rel_append hhooks hmerging
  refine (enlist_simulates hS hmerging).bind fun _ => ?_
  refine simulates_get_bind fun o' o hR => ?_
  dsimp only at hhooks hmerging ⊢
  rw [hR.2, hlength hR.1, hhooks.length_eq, hmerging.length_eq]
  exact (record_simulates hS _ _).bind fun _ => simulates_pure ⟨hS.pipeline _ _ hR.1, rfl,
    hchecker, candidates_names_eq (likes_of_admitted hall)⟩

theorem buildPipeline_simulates :
    Act.Simulates (Related R) (BuiltPipeline.Like K) (buildPipeline S') (buildPipeline S) := by
  refine simulates_get_bind fun o' o hR => ?_
  rw [hR.2]
  refine simulates_ite ?_ ?_
  · exact (record_simulates hS _ _).bind fun _ => simulates_throw _
  · refine Matches.bind ?_ fun _ => (find_simulates hS _).bind fun names' names ⟨hnames, hfound⟩ => ?_
    · rintro p' p ⟨hp, hi⟩
      exact ⟨rfl, hp, congrArg (fun i : Invoker => { i with pipelineBuilt := true }) hi⟩
    · subst hnames
      exact buildWith_simulates hS fun n hn => hfound n (List.mem_filter.1 hn).1

/-! ### The phase -/

include hh

lemma mutate_simulates (phase : Phase) {c' c : Candidate} (hc : c'.Like K c) :
    Matches (Related R) (mutate S' hooks' phase c') (mutate S hooks phase c) := by
  unfold mutate
  rw [K.behaviour_eq hc.extension, hc.name_eq, hc.precedence_eq]
  split
  · exact simulates_throw _
  refine (ask_simulates hS.editable).bind fun editable => ?_
  split
  · exact matches_pure _
  refine ((attempt_simulates (hh.mutate _ _ _ hc.extension)).adapt _).bind fun _ _ _ => ?_
  refine simulates_get_bind fun o' o hR => ?_
  rw [hR.2]
  exact (record_simulates hS _ _).bind fun _ => matches_pure _

lemma mutateAll_simulates (phase : Phase) {batch' batch : List Candidate}
    (hbatch : List.Forall₂ (Candidate.Like K) batch' batch) :
    Matches (Related R) (mutateAll S' hooks' phase batch') (mutateAll S hooks phase batch) := by
  induction hbatch with
  | nil => exact matches_pure _
  | cons hc _ ih =>
    unfold mutateAll
    rw [hc.name_eq]
    exact (mutate_simulates hS hh phase hc).bind fun _ => ih.bind fun _ => matches_pure _

lemma mutateSupplied_simulates {supplied' supplied : List Supplied}
    (h : List.Forall₂ (Supplied.Like K) supplied' supplied) :
    Act.Simulates (Related R) (SuppliedOutcome.Like K) (mutateSupplied S' hooks' supplied')
      (mutateSupplied S hooks supplied) := by
  induction h with
  | nil => exact simulates_pure ⟨.nil, rfl, .nil⟩
  | @cons item' item _ _ hitem _ ih =>
    unfold mutateSupplied
    rw [hitem.name_eq, K.behaviour_eq hitem.extension]
    refine (markNew_simulates _).bind fun isNew => ?_
    refine simulates_ite (simulates_get_bind fun o' o hR => ?_) (simulates_ite ?_ ?_)
    · rw [hR.2]
      exact (record_simulates hS _ _).bind fun _ => ih
    · have hc : Candidate.Like K ⟨item.name, .untagged, item'.extension⟩
          ⟨item.name, .untagged, item.extension⟩ := ⟨rfl, rfl, hitem.extension⟩
      refine (mutate_simulates hS hh _ hc).bind fun ran => ih.bind fun _ _ hout => ?_
      rw [hout.mutated_eq]
      exact simulates_pure ⟨.cons hc hout.invoked, rfl, hout.others⟩
    · exact ih.bind fun _ _ hout =>
        simulates_pure ⟨hout.invoked, hout.mutated_eq, .cons hitem hout.others⟩

lemma discover_simulates (before budget : Nat) :
    Act.Simulates (Related R) (Discovery.Like K) (discover S' hooks' before budget)
      (discover S hooks before budget) := by
  induction budget generalizing before with
  | zero => exact simulates_pure ⟨rfl, .nil, rfl⟩
  | succ budget ih =>
    refine (collect_simulates hS _ _).bind fun batch' batch hbatch => ?_
    have hempty : batch'.isEmpty = batch.isEmpty := by cases hbatch <;> rfl
    rw [hempty, hbatch.length_eq]
    refine simulates_ite (simulates_pure ⟨rfl, .nil, rfl⟩) ?_
    refine simulates_get_bind fun o' o hR => ?_
    rw [hR.2]
    refine (record_simulates hS _ _).bind fun _ => (mutateAll_simulates hS hh _ hbatch).bind
      fun names => (ih _).bind fun later' later hlater => ?_
    rw [hlater.rounds_eq, hlater.mutated_eq]
    exact simulates_pure ⟨rfl, List.rel_append hbatch hlater.invoked, rfl⟩

lemma finalize_simulates (name : String) {e' e : Extension} (he : K.extension e' e) :
    Matches (Related R) (finalize S' hooks' name e') (finalize S hooks name e) := by
  refine simulates_get_bind fun o' o hR => ?_
  rw [hR.2, K.behaviour_eq he]
  refine simulates_ite ?_ ((record_simulates hS _ _).bind fun _ => matches_pure _)
  exact ((attempt_simulates (hh.finalize _ _ _ he)).adapt _).bind fun _ _ _ =>
    (record_simulates hS _ _).bind fun _ => matches_pure _

lemma finalizeAll_simulates {l' l : List (String × Extension)}
    (h : List.Forall₂ (fun p' p => p'.1 = p.1 ∧ K.extension p'.2 p.2) l' l) :
    Matches (Related R) (finalizeAll S' hooks' l') (finalizeAll S hooks l) := by
  induction h with
  | nil => exact matches_pure _
  | @cons p' p _ _ hp _ ih =>
    obtain ⟨name', e'⟩ := p'
    obtain ⟨rfl, he⟩ := hp
    exact (finalize_simulates hS hh _ he).bind fun _ => ih.bind fun _ => matches_pure _

lemma finalizeEach_simulates {names : List String} (hnames : ∀ n ∈ names, K.name n) :
    Matches (Related R) (finalizeEach S' hooks' names) (finalizeEach S hooks names) := by
  induction names with
  | nil => exact matches_pure _
  | cons name rest ih =>
    obtain ⟨hname, hrest⟩ := List.forall_mem_cons.1 hnames
    refine (instantiate_simulates hS _ hname).bind fun c' c hc => ?_
    rw [hc.1.name_eq]
    exact (finalize_simulates hS hh _ hc.1.extension).bind fun _ =>
      (ih hrest).bind fun _ => matches_pure _

lemma finalizeSettled_simulates {m' m : Settlement} (hm : m'.Like K m) :
    Matches (Related R) (finalizeSettled S' hooks' m') (finalizeSettled S hooks m) :=
  (finalizeAll_simulates hS hh (pairs_of_candidates hm.invoked)).bind fun _ =>
    (finalizeAll_simulates hS hh (pairs_of_supplied hm.others)).bind fun _ => matches_pure _

lemma finalizeDiscovered_simulates :
    Matches (Related R) (finalizeDiscovered S' hooks') (finalizeDiscovered S hooks) := by
  have hcreate {name : String} (h : K.name name) :=
    instantiate_simulates hS Phase.finalization h
  refine (find_simulates hS _).bind fun names' names ⟨hnames, hfound⟩ => ?_
  subst hnames
  refine (classify_simulates hS markNew_simulates (fun _ => hcreate) hfound).bind
    fun ⟨found', others'⟩ ⟨found, orderedNames, untaggedNames⟩
      ⟨hfirst, hothers, horderedNames, huntaggedNames⟩ => ?_
  obtain rfl : others' = (orderedNames, untaggedNames) := hothers
  have hsorted {cs' cs : List Candidate} (h : List.Forall₂ (Admitted K P) cs' cs) :=
    finalizeAll_simulates hS hh (pairs_of_candidates (sort_likes (likes_of_admitted h)))
  exact (hsorted hfirst).bind fun _ =>
    (instantiateAll_simulates (fun _ => hcreate) horderedNames).bind fun _ _ hsecond =>
    (hsorted hsecond).bind fun _ =>
    (finalizeEach_simulates hS hh huntaggedNames).bind fun _ => matches_pure _

lemma finalizeSupplied_simulates {supplied' supplied : List Supplied}
    (h : List.Forall₂ (Supplied.Like K) supplied' supplied) :
    Matches (Related R) (finalizeSupplied S' hooks' supplied')
      (finalizeSupplied S hooks supplied) := by
  induction h with
  | nil => exact matches_pure _
  | cons hitem _ ih =>
    unfold finalizeSupplied
    rw [hitem.name_eq]
    exact (markNew_simulates _).bind fun _ => simulates_ite ih <|
      (finalize_simulates hS hh _ hitem.extension).bind fun _ => ih.bind fun _ => matches_pure _

lemma mutateDegraded_simulates {supplied' supplied : List Supplied}
    (h : List.Forall₂ (Supplied.Like K) supplied' supplied) :
    Matches (Related R) (mutateDegraded S' hooks' supplied') (mutateDegraded S hooks supplied) := by
  refine simulates_get_bind fun o' o hR => ?_
  rw [hR.2]
  exact (record_simulates hS _ _).bind fun _ =>
    (finalizeSupplied_simulates hS hh h).bind fun _ => matches_pure _

end

def SameRounds (S' : Surface τ) (S : Surface σ) (R : τ → σ → Prop) (hooks : Hooks σ) : Prop :=
  ∀ o' o, Related R o' o → discover S hooks 0 ((S'.roster o'.registry).length + 1) o =
    discover S hooks 0 ((S.roster o.registry).length + 1) o

lemma sameRounds_of_roster (hooks : Hooks σ) (h : ∀ s' s, R s' s → S'.roster s' = S.roster s) :
    SameRounds S' S R hooks := fun _ _ hR => by rw [h _ _ hR.1]

section

variable {hooks' : Hooks τ} {hooks : Hooks σ} (hS : S'.Simulates S R K P)
  (hh : hooks'.Simulates hooks R K) (hrounds : SameRounds S' S R hooks)

include hS hh hrounds

lemma mutateDeclared_simulates :
    Act.Simulates (Related R) (Discovery.Like K) (mutateDeclared S' hooks')
      (mutateDeclared S hooks) := by
  refine (collect_simulates hS _ _).bind fun priority' priority hpriority =>
    (mutateAll_simulates hS hh _ hpriority).bind fun priorityNames =>
    (collect_simulates hS _ _).bind fun ordered' ordered hordered =>
    (mutateAll_simulates hS hh _ hordered).bind fun orderedNames => ?_
  refine simulates_get_bind_of fun o' o hR => ⟨do
    let found ← discover S hooks 0 ((S'.roster o'.registry).length + 1)
    return ⟨found.rounds, priority ++ ordered ++ found.invoked,
      priorityNames ++ orderedNames ++ found.mutated⟩, ?_, ?_⟩
  · rw [bind_run, bind_run, hrounds o' o hR]
  · refine (discover_simulates hS hh _ _).bind fun found' found hfound => ?_
    rw [hfound.rounds_eq, hfound.mutated_eq]
    exact simulates_pure ⟨rfl,
      List.rel_append (List.rel_append hpriority hordered) hfound.invoked, rfl⟩

variable {supplied' supplied : List Supplied}
  (hsupplied : List.Forall₂ (Supplied.Like K) supplied' supplied)

include hsupplied

lemma settle_simulates :
    Act.Simulates (Related R) (Settlement.Like K) (settle S' hooks' supplied')
      (settle S hooks supplied) := by
  refine (mutateSupplied_simulates hS hh hsupplied).bind fun _ _ hgiven =>
    (mutateDeclared_simulates hS hh hrounds).bind fun _ _ hfound => simulates_pure ?_
  exact ⟨List.rel_append hgiven.invoked hfound.invoked,
    congrArg₂ _ hgiven.mutated_eq hfound.mutated_eq, hgiven.others, hfound.rounds_eq⟩

lemma mutateRegistry_simulates :
    Matches (Related R) (mutateRegistry S' hooks' supplied')
      (mutateRegistry S hooks supplied) := by
  refine (settle_simulates hS hh hrounds hsupplied).bind fun m' m hm =>
    (finalizeSettled_simulates hS hh hm).bind fun _ =>
    (finalizeDiscovered_simulates hS hh).bind fun _ => simulates_get_bind fun o' o hR => ?_
  rw [hR.2, hm.mutated_eq, hm.rounds_eq]
  exact matches_pure _

theorem mutationPhase_simulates :
    Matches (Related R) (mutationPhase S' hooks' supplied') (mutationPhase S hooks supplied) := by
  refine simulates_get_bind fun o' o hR => ?_
  rw [hR.2, hsupplied.length_eq]
  refine (record_simulates hS _ _).bind fun _ => (ask_simulates hS.editable).bind fun _ => ?_
  refine Matches.bind (Simulates.tryCatch ?_ fun e => ?_) fun summary => ?_
  · exact simulates_ite (mutateRegistry_simulates hS hh hrounds hsupplied)
      (mutateDegraded_simulates hS hh hsupplied)
  · exact (record_simulates hS _ _).bind fun _ => simulates_throw e
  · exact (ask_simulates hS.invalidate).bind fun _ => (record_simulates hS _ _).bind fun _ =>
      matches_pure _

end

/-! Where only what is the same is alike, the answers are the same. -/

lemma settle_matches {hooks' : Hooks τ} {hooks : Hooks σ} (hS : S'.Simulates S R .same P)
    (hh : hooks'.Simulates hooks R .same) (hrounds : SameRounds S' S R hooks)
    (supplied : List Supplied) :
    Matches (Related R) (settle S' hooks' supplied) (settle S hooks supplied) :=
  (settle_simulates hS hh hrounds (supplied_same supplied)).mono fun _ _ => Settlement.Like.eq

lemma buildPipeline_matches (hS : S'.Simulates S R .same P) :
    Matches (Related R) (buildPipeline S') (buildPipeline S) :=
  (buildPipeline_simulates hS).mono fun _ _ => BuiltPipeline.Like.eq

end Orchestration

end ComponentContainer
