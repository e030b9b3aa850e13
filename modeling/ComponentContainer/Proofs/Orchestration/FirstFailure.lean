import ComponentContainer.Proofs.Orchestration.Exchanges
import ComponentContainer.Proofs.Orchestration.FixedPoint
import ComponentContainer.Proofs.Orchestration.Rules
import ComponentContainer.Proofs.Reachable

/-! How a mutation phase fails. The first exchange that fails is the last one, and the error names
it with the stage that the exchanges before have led to; only a phase that fails nowhere invalidates
the snapshots, and that is the last that it does. -/

namespace ComponentContainer

variable {σ : Type}

def Phase.next : Phase → Phase
  | suppliedMutation => priorityMutation
  | priorityMutation => orderedMutation
  | _ => discoveryMutation

def Phase.tier? : Phase → Option Tier
  | priorityMutation => some .priority
  | orderedMutation => some .ordered
  | _ => none

namespace Exchange

def passes (x : Exchange σ) : Bool :=
  match x.dealing with
  | .requested _ (.error _) | .added _ _ (.error _) | .mutated _ _ (.error _)
  | .finalized _ _ (.error _) => false
  | _ => true

def advance (stage : Phase) (x : Exchange σ) : Phase :=
  match x.dealing with
  | .searched .registryMutator _ => stage.next
  | .searched .finalizer _ => .finalization
  | _ => stage

def stage (l : List (Exchange σ)) : Phase := l.foldl advance .suppliedMutation

lemma stage_concat (l : List (Exchange σ)) (x : Exchange σ) :
    stage (l ++ [x]) = advance (stage l) x := List.foldl_concat ..

def Smooth (l : List (Exchange σ)) : Prop := ∀ x ∈ l, x.passes = true ∧ x.dealing ≠ .invalidated

inductive Collected (S : Surface σ) : List (Exchange σ) → Phase → List Candidate → Prop
  | intro {earlier requests : List (Exchange σ)} {search : Exchange σ} {names : List String}
    {found : List Candidate} : search.dealing = .searched .registryMutator names →
    (found.map (·.name)).Sublist names →
    List.Forall₂ (fun x c => x.Gives S c ∧
      (stage (earlier ++ [search])).tier?.all (S.isTagged c.name · x.before)) requests found →
    Collected S (earlier ++ search :: requests) (stage (earlier ++ [search]))
      (sortByPrecedence (·.precedence) found)

def Ran (cs : List Candidate) (l : List (Exchange σ)) : Prop :=
  (l.map (·.dealing)).Sublist (cs.map fun c => .mutated c.name c.extension (.ok ()))

/-- After these exchanges it is the turn of this mutator in this stage. -/
inductive Due (S : Surface σ) (supplied : List Supplied) :
    List (Exchange σ) → Phase → Candidate → Prop
  | supplied {done rest : List Supplied} {item : Supplied} {runs : List (Exchange σ)} :
    supplied = done ++ item :: rest → item.extension.behaviour.mutator.isSome →
    Ran (done.map Supplied.candidate) runs → Due S supplied runs .suppliedMutation item.candidate
  | collected {base runs : List (Exchange σ)} {phase : Phase} {done rest : List Candidate}
    {c : Candidate} : Collected S base phase (done ++ c :: rest) →
    (∀ d ∈ done, d.extension.behaviour.mutator.isSome) → Ran done runs →
    Due S supplied (base ++ runs) phase c

/-- These are all the exchanges of a phase that fails with this error. -/
inductive Stops (S : Surface σ) (supplied : List Supplied) :
    List (Exchange σ) → BootstrapError → Prop
  | refused {l : List (Exchange σ)} {x : Exchange σ} {name : String} {phase : Phase}
    {source : RegistryError} : Smooth l → stage l = phase →
    x.dealing = .requested name (.error source) →
    Stops S supplied (l ++ [x]) (.registry name phase source)
  | unfit {l : List (Exchange σ)} {phase : Phase} {c : Candidate} : Smooth l → stage l = phase →
    Due S supplied l phase c → c.extension.behaviour.mutator = none →
    Stops S supplied l (.registry c.name phase (.capabilityMismatch c.name .registryMutator))
  | mutated {l : List (Exchange σ)} {x : Exchange σ} {phase : Phase} {c : Candidate}
    {source : HookError} : Smooth l → stage l = phase → Due S supplied l phase c →
    x.dealing = .mutated c.name c.extension (.error source) →
    Stops S supplied (l ++ [x]) (.hook c.name phase source)
  | finalized {l : List (Exchange σ)} {x : Exchange σ} {name : String} {e : Extension}
    {source : HookError} : Smooth l → x.dealing = .finalized name e (.error source) →
    Stops S supplied (l ++ [x]) (.hook name .finalization source)

structure Calm (x : Exchange σ) : Prop where
  passes : x.passes = true
  dealing_ne : x.dealing ≠ .invalidated
  advance_eq (stage : Phase) : x.advance stage = stage

lemma Gives.calm {S : Surface σ} {x : Exchange σ} {c : Candidate} (h : x.Gives S c) : x.Calm := by
  obtain ⟨dealing, s, t⟩ := x
  obtain rfl : dealing = _ := h.dealing
  exact ⟨rfl, nofun, fun _ => rfl⟩

lemma calm_of_forall₂_gives {S : Surface σ} {P : Exchange σ → Candidate → Prop}
    {l : List (Exchange σ)} {cs : List Candidate}
    (h : List.Forall₂ (fun x c => x.Gives S c ∧ P x c) l cs) : ∀ x ∈ l, x.Calm := by
  induction h with
  | nil => exact fun _ hx => absurd hx List.not_mem_nil
  | cons hx _ ih => exact List.forall_mem_cons.2 ⟨hx.1.calm, ih⟩

lemma calm_of_mutated {x : Exchange σ} {name : String} {e : Extension}
    (h : x.dealing = .mutated name e (.ok ())) : x.Calm := by
  obtain ⟨dealing, s, t⟩ := x
  obtain rfl : dealing = _ := h
  exact ⟨rfl, nofun, fun _ => rfl⟩

lemma calm_of_finalized {x : Exchange σ} {name : String} {e : Extension}
    (h : x.dealing = .finalized name e (.ok ())) : x.Calm := by
  obtain ⟨dealing, s, t⟩ := x
  obtain rfl : dealing = _ := h
  exact ⟨rfl, nofun, fun _ => rfl⟩

lemma stage_append_of_calm (l : List (Exchange σ)) {l' : List (Exchange σ)} (h : ∀ x ∈ l', x.Calm) :
    stage (l ++ l') = stage l := by
  induction l' generalizing l with
  | nil => rw [List.append_nil]
  | cons x rest ih =>
    obtain ⟨hx, hrest⟩ := List.forall_mem_cons.1 h
    rw [← List.singleton_append, ← List.append_assoc, ih _ hrest, stage_concat, hx.advance_eq]

lemma Smooth.append {l l' : List (Exchange σ)} (hl : Smooth l) (hl' : ∀ x ∈ l', x.Calm) :
    Smooth (l ++ l') :=
  List.forall_mem_append.2 ⟨hl, fun x hx => ⟨(hl' x hx).passes, (hl' x hx).dealing_ne⟩⟩

lemma Ran.calm {cs : List Candidate} {l : List (Exchange σ)} (h : Ran cs l) : ∀ x ∈ l, x.Calm := by
  intro x hx
  obtain ⟨c, -, hc⟩ := List.mem_map.1 (h.subset (List.mem_map_of_mem hx))
  exact calm_of_mutated hc.symm

lemma Stops.not_invalidated {S : Surface σ} {supplied : List Supplied} {l : List (Exchange σ)}
    {e : BootstrapError} (h : Stops S supplied l e) : ∀ x ∈ l, x.dealing ≠ .invalidated := by
  have hconcat {l : List (Exchange σ)} {x : Exchange σ} (hl : Smooth l)
      (hx : x.dealing ≠ .invalidated) : ∀ y ∈ l ++ [x], y.dealing ≠ .invalidated :=
    List.forall_mem_append.2 ⟨fun y hy => (hl y hy).2, List.forall_mem_singleton.2 hx⟩
  cases h with
  | refused hl _ hx => exact hconcat hl (hx ▸ nofun)
  | unfit hl => exact fun y hy => (hl y hy).2
  | mutated hl _ _ hx => exact hconcat hl (hx ▸ nofun)
  | finalized hl hx => exact hconcat hl (hx ▸ nofun)

lemma Ran.smooth {cs : List Candidate} {l : List (Exchange σ)} (h : Ran cs l) : Smooth l :=
  Smooth.append (fun _ hx => absurd hx List.not_mem_nil) h.calm

lemma Ran.stage_eq {cs : List Candidate} {l : List (Exchange σ)} (h : Ran cs l) :
    stage l = .suppliedMutation := stage_append_of_calm [] h.calm

lemma Ran.append {cs cs' : List Candidate} {l l' : List (Exchange σ)} (h : Ran cs l)
    (h' : Ran cs' l') : Ran (cs ++ cs') (l ++ l') := by
  unfold Ran
  rw [List.map_append, List.map_append]
  exact List.Sublist.append h h'

end Exchange

open Exchange

namespace Orchestration

def Calmly (o t : Orchestration (σ × List (Exchange σ))) : Prop :=
  ∃ l, t.exchanges = o.exchanges ++ l ∧ ∀ x ∈ l, x.Calm

variable {S : Surface σ} {hooks : Hooks σ} {supplied : List Supplied}
  {o t u : Orchestration (σ × List (Exchange σ))}

namespace Calmly

lemma of_eq (h : t.exchanges = o.exchanges) : Calmly o t :=
  ⟨[], h.trans (List.append_nil _).symm, fun _ hx => absurd hx List.not_mem_nil⟩

lemma trans (h : Calmly o u) (h' : Calmly u t) : Calmly o t := by
  obtain ⟨l, hl, hcalm⟩ := h
  obtain ⟨l', hl', hcalm'⟩ := h'
  exact ⟨l ++ l', by rw [hl', hl, List.append_assoc], List.forall_mem_append.2 ⟨hcalm, hcalm'⟩⟩

lemma smooth (h : Calmly o t) (ho : Smooth o.exchanges) : Smooth t.exchanges := by
  obtain ⟨l, hl, hcalm⟩ := h
  rw [hl]
  exact ho.append hcalm

lemma stage_eq (h : Calmly o t) : stage t.exchanges = stage o.exchanges := by
  obtain ⟨l, hl, hcalm⟩ := h
  rw [hl, stage_append_of_calm _ hcalm]

lemma preserves_smooth : Preserves Calmly
    (fun o : Orchestration (σ × List (Exchange σ)) => Smooth o.exchanges) fun _ _ => True :=
  ⟨fun _ => .of_eq rfl, trans, smooth, fun _ => id⟩

lemma preserves_stage (phase : Phase) : Preserves Calmly
    (fun o : Orchestration (σ × List (Exchange σ)) =>
      Smooth o.exchanges ∧ stage o.exchanges = phase) fun _ _ => True :=
  ⟨fun _ => .of_eq rfl, trans, fun h ho => ⟨h.smooth ho.1, h.stage_eq.trans ho.2⟩, fun _ => id⟩

end Calmly

lemma ends_instantiate_stops {phase : Phase} (ho : Smooth o.exchanges)
    (hstage : stage o.exchanges = phase) (name : String) :
    Act.Ends (instantiate S.audited phase name) o
      (fun c t => c.name = name ∧ Calmly o t ∧ ∃ x : Exchange σ, x.Gives S c ∧
        x.before = o.registry.1 ∧ t.exchanges = o.exchanges ++ [x])
      (fun e t => Stops S supplied t.exchanges e) := by
  refine (ends_instantiate_exchange o phase name).mono
    (fun c t ⟨hc, _, x, hx, hbefore, _, ht⟩ => ?_) (fun e t ⟨x, source, he, hx, _, _, ht⟩ => ?_)
  · exact ⟨hc, ⟨[x], ht, List.forall_mem_singleton.2 hx.calm⟩, x, hx, hbefore, ht⟩
  · rw [he, ht]
    exact .refused ho hstage hx

/-! ### Mutation -/

lemma ends_collectFrom_stops (tier : Option Tier) {phase : Phase} (names : List String)
    (ho : Smooth o.exchanges) (hstage : stage o.exchanges = phase) :
    Act.Ends (collectFrom S.audited tier phase names) o
      (fun cs t => (cs.map (·.name)).Sublist names ∧ ∃ l, t.exchanges = o.exchanges ++ l ∧
        List.Forall₂ (fun x c => x.Gives S c ∧ tier.all (S.isTagged c.name · x.before)) l cs)
      (fun e t => Stops S supplied t.exchanges e) := by
  apply collectFrom_rule (P := fun o _ => Smooth o.exchanges ∧ stage o.exchanges = phase) ⟨ho, hstage⟩
    fun _ _ => ⟨.refl _, [], (List.append_nil _).symm, .nil⟩
  · exact fun o name rest ho _ => ⟨ho, fun _ _ ⟨hsub, h⟩ => ⟨hsub.cons _, h⟩, fun _ _ => id⟩
  intro o name rest ⟨ho, hstage⟩ _ htagged
  refine (ends_instantiate_stops ho hstage name).mono
    (fun c u ⟨hc, hu, x, hx, hbefore, hxu⟩ => ?_) (fun _ _ => id)
  refine (ends_mark_aside u name).mono (fun _ v hv => ?_) (fun _ _ => False.elim)
  have hvu : v.exchanges = u.exchanges := congrArg Prod.snd hv
  have hov : Calmly o v := hu.trans (.of_eq hvu)
  refine ⟨⟨hov.smooth ho, hov.stage_eq.trans hstage⟩, fun cs t ⟨hsub, l, hl, hgiven⟩ => ?_,
    fun _ _ => id⟩
  subst hc
  refine ⟨hsub.cons_cons _, x :: l, ?_, .cons ⟨hx, hbefore ▸ htagged⟩ hgiven⟩
  rw [hl, hvu, hxu, List.append_assoc, List.singleton_append]

lemma ends_collect_stops {phase : Phase} (ho : Smooth o.exchanges)
    (hnext : (stage o.exchanges).next = phase) :
    Act.Ends (collect S.audited phase.tier? phase) o
      (fun batch t => Smooth t.exchanges ∧ stage t.exchanges = phase ∧
        Collected S t.exchanges phase batch)
      (fun e t => Stops S supplied t.exchanges e) := by
  refine (ends_ask_keeping o (.searched .registryMutator) _).bind (fun names u ⟨_, _, hu⟩ => ?_)
    (fun _ _ => False.elim)
  let search : Exchange σ := ⟨.searched .registryMutator names, o.registry.1, u.registry.1⟩
  have hstage : stage (o.exchanges ++ [search]) = phase := by
    rw [stage_concat]
    exact hnext
  have hsmooth : Smooth (o.exchanges ++ [search]) :=
    List.forall_mem_append.2 ⟨ho, List.forall_mem_singleton.2 ⟨rfl, nofun⟩⟩
  refine (ends_collectFrom_stops phase.tier? names (hu ▸ hsmooth) (hu ▸ hstage)).bind
    (fun cs t ⟨hsub, l, hl, hgiven⟩ => ?_) (fun _ _ => id)
  have hcalm : ∀ x ∈ l, x.Calm := calm_of_forall₂_gives hgiven
  rw [hu] at hl
  refine Act.ends_pure ⟨?_, ?_, ?_⟩
  · rw [hl]
    exact hsmooth.append hcalm
  · rw [hl, stage_append_of_calm _ hcalm, hstage]
  · have hcollected : Collected S (o.exchanges ++ search :: l) (stage (o.exchanges ++ [search]))
        (sortByPrecedence (·.precedence) cs) := .intro rfl hsub (hstage ▸ hgiven)
    rw [hstage] at hcollected
    rwa [hl, List.append_assoc, List.singleton_append]

lemma ends_mutate_stops {phase : Phase} {c : Candidate} (ho : Smooth o.exchanges)
    (hstage : stage o.exchanges = phase) (hdue : Due S supplied o.exchanges phase c) :
    Act.Ends (mutate S.audited hooks.audited phase c) o
      (fun _ t => c.extension.behaviour.mutator.isSome ∧
        ∃ l, t.exchanges = o.exchanges ++ l ∧ Ran [c] l)
      (fun e t => Stops S supplied t.exchanges e) := by
  unfold mutate
  split
  · exact .unfit ho hstage hdue (Option.isNone_iff_eq_none.1 ‹_›)
  rename_i hmutator
  rw [Option.isNone_iff_eq_none, ← ne_eq, ← Option.isSome_iff_ne_none] at hmutator
  refine (ends_ask_aside o _).bind (fun _ u ⟨_, _, hu⟩ => ?_) (fun _ _ => False.elim)
  split
  · exact Act.ends_pure ⟨hmutator, [], hu.trans (List.append_nil _).symm, List.nil_sublist _⟩
  refine (ends_attempt_keeping u (.mutated c.name c.extension) _ _).bind
    (fun _ v ⟨_, _, hv⟩ => ?_) (fun e t ⟨source, he, _, _, ht⟩ => ?_)
  · refine Act.ends_get_bind ((ends_record_aside v _ _).bind (fun _ t ⟨_, ht⟩ => ?_)
      (fun _ _ => False.elim))
    refine Act.ends_pure ⟨hmutator, _, ht.trans (hu ▸ hv), ?_⟩
    exact List.Sublist.refl [Dealing.mutated c.name c.extension (.ok ())]
  · rw [he, ht, hu]
    exact .mutated ho hstage hdue rfl

lemma ends_mutateAll_stops {phase : Phase} {base runs : List (Exchange σ)}
    (done : List Candidate) {cs : List Candidate} (ho : Smooth o.exchanges)
    (hstage : stage o.exchanges = phase)
    (hbase : o.exchanges = base ++ runs) (hcollected : Collected S base phase (done ++ cs))
    (hdone : ∀ d ∈ done, d.extension.behaviour.mutator.isSome) (hran : Ran done runs) :
    Act.Ends (mutateAll S.audited hooks.audited phase cs) o
      (fun _ t => Smooth t.exchanges ∧ stage t.exchanges = phase)
      (fun e t => Stops S supplied t.exchanges e) := by
  apply mutateAll_rule (P := fun o cs => Smooth o.exchanges ∧ stage o.exchanges = phase ∧
    ∃ done runs, o.exchanges = base ++ runs ∧ Collected S base phase (done ++ cs) ∧
      (∀ d ∈ done, d.extension.behaviour.mutator.isSome) ∧ Ran done runs)
    ⟨ho, hstage, done, runs, hbase, hcollected, hdone, hran⟩ fun _ h => ⟨h.1, h.2.1⟩
  intro o c rest ⟨ho, hstage, done, runs, hbase, hcollected, hdone, hran⟩
  refine (ends_mutate_stops ho hstage (hbase ▸ .collected hcollected hdone hran)).mono
    (fun _ u ⟨hmutator, l, hl, hran'⟩ => ?_) (fun _ _ => id)
  have hou : Calmly o u := ⟨l, hl, hran'.calm⟩
  rw [hbase, List.append_assoc] at hl
  rw [← List.singleton_append, ← List.append_assoc] at hcollected
  refine ⟨⟨hou.smooth ho, hou.stage_eq.trans hstage, done ++ [c], runs ++ l, hl, hcollected, ?_,
    hran.append hran'⟩, fun _ _ => id, fun _ _ => id⟩
  exact List.forall_mem_append.2 ⟨hdone, List.forall_mem_singleton.2 hmutator⟩

lemma ends_mutateBatch_stops {phase : Phase} {batch : List Candidate} (ho : Smooth o.exchanges)
    (hstage : stage o.exchanges = phase) (hbatch : Collected S o.exchanges phase batch) :
    Act.Ends (mutateAll S.audited hooks.audited phase batch) o
      (fun _ t => Smooth t.exchanges ∧ stage t.exchanges = phase)
      (fun e t => Stops S supplied t.exchanges e) :=
  ends_mutateAll_stops [] ho hstage (List.append_nil _).symm hbatch
    (fun _ hd => absurd hd List.not_mem_nil) (.refl _)

lemma ends_mutateSupplied_stops (done : List Supplied) {items : List Supplied}
    (hsupplied : supplied = done ++ items) (ho : Ran (done.map Supplied.candidate) o.exchanges) :
    Act.Ends (mutateSupplied S.audited hooks.audited items) o
      (fun _ t => Ran (supplied.map Supplied.candidate) t.exchanges)
      (fun e t => Stops S supplied t.exchanges e) := by
  apply mutateSupplied_rule (P := fun o items => ∃ done, supplied = done ++ items ∧
    Ran (done.map Supplied.candidate) o.exchanges) ⟨done, hsupplied, ho⟩
  · rintro o ⟨done, rfl, ho⟩
    rwa [List.append_nil]
  intro o item rest ⟨done, hsupplied, ho⟩
  refine (ends_markNew_aside o item.name).mono (fun isNew u hu => ?_) (fun _ _ => False.elim)
  have hou : u.exchanges = o.exchanges := congrArg Prod.snd hu
  have hnext {v : Orchestration (σ × List (Exchange σ))} {l : List (Exchange σ)}
      (hl : v.exchanges = o.exchanges ++ l) (hran : Ran [item.candidate] l) :
      ∃ done, supplied = done ++ rest ∧ Ran (done.map Supplied.candidate) v.exchanges := by
    refine ⟨done ++ [item], by rw [hsupplied, List.append_assoc]; rfl, ?_⟩
    rw [hl, List.map_append]
    exact ho.append hran
  have hskip {v : Orchestration (σ × List (Exchange σ))} (hv : v.exchanges = o.exchanges) :=
    hnext (hv.trans (List.append_nil _).symm) (List.nil_sublist _)
  cases isNew with
  | false =>
    refine .old fun line => (ends_record_aside u _ _).mono (fun _ v ⟨_, hv⟩ => ?_)
      (fun _ _ => False.elim)
    exact ⟨hskip (hv.trans hou), fun _ _ => id, fun _ _ => id⟩
  | true =>
    refine .isNew (fun hmutator => ?_) fun _ => ⟨hskip hou, fun _ _ => id, fun _ _ => id⟩
    rw [← hou] at ho
    refine (ends_mutate_stops ho.smooth ho.stage_eq (.supplied hsupplied hmutator ho)).mono
      (fun _ v ⟨_, l, hl, hran⟩ => ?_) (fun _ _ => id)
    exact ⟨hnext (hou ▸ hl) hran, fun _ _ => id, fun _ _ => id⟩

lemma ends_discover_stops (before budget : ℕ) (ho : Smooth o.exchanges)
    (hnext : (stage o.exchanges).next = .discoveryMutation) :
    Act.Ends (discover S.audited hooks.audited before budget) o (fun _ t => Smooth t.exchanges)
      (fun e t => Stops S supplied t.exchanges e) := by
  apply discover_rule (P := fun o _ => Smooth o.exchanges ∧
    (stage o.exchanges).next = .discoveryMutation) ⟨ho, hnext⟩ fun _ h => h.1
  intro o budget ⟨ho, hnext⟩
  refine (ends_collect_stops ho hnext).mono
    (fun batch u ⟨hu, hstage, hbatch⟩ => ⟨fun _ => hu, fun _ line => ?_⟩) (fun _ _ => id)
  refine (ends_record_aside u _ _).mono (fun _ v ⟨_, hv⟩ => ?_) (fun _ _ => False.elim)
  rw [← hv] at hu hstage hbatch
  refine (ends_mutateBatch_stops hu hstage hbatch).mono (fun _ w ⟨hw, hstage⟩ => ?_) (fun _ _ => id)
  exact ⟨⟨hw, by rw [hstage]; rfl⟩, fun _ _ => id, fun _ _ => id⟩

lemma ends_settle_stops (ho : o.exchanges = []) :
    Act.Ends (settle S.audited hooks.audited supplied) o (fun _ t => Smooth t.exchanges)
      (fun e t => Stops S supplied t.exchanges e) := by
  have hsupplied : supplied = [] ++ supplied := rfl
  refine (ends_mutateSupplied_stops [] hsupplied (ho ▸ List.nil_sublist _)).bind
    (fun given u hu => ?_) (fun _ _ => id)
  have hdeclared : Act.Ends (mutateDeclared S.audited hooks.audited) u
      (fun _ t => Smooth t.exchanges) (fun e t => Stops S supplied t.exchanges e) := by
    have hnext : (stage u.exchanges).next = .priorityMutation := by rw [hu.stage_eq]; rfl
    refine (ends_collect_stops hu.smooth hnext).bind (fun first v ⟨hv, hstage, hfirst⟩ => ?_)
      (fun _ _ => id)
    refine (ends_mutateBatch_stops hv hstage hfirst).bind (fun _ w ⟨hw, hstage⟩ => ?_)
      (fun _ _ => id)
    have hnext : (stage w.exchanges).next = .orderedMutation := by rw [hstage]; rfl
    refine (ends_collect_stops hw hnext).bind (fun second x ⟨hx, hstage, hsecond⟩ => ?_)
      (fun _ _ => id)
    refine (ends_mutateBatch_stops hx hstage hsecond).bind (fun _ y ⟨hy, hstage⟩ => ?_)
      (fun _ _ => id)
    have hnext : (stage y.exchanges).next = .discoveryMutation := by rw [hstage]; rfl
    exact Act.ends_get_bind ((ends_discover_stops _ _ hy hnext).bind_pure)
  exact hdeclared.bind_pure

/-! ### Finalization -/

lemma ends_finalize_stops (ho : Smooth o.exchanges) (name : String) (e : Extension) :
    Act.Ends (finalize S.audited hooks.audited name e) o (fun _ t => Calmly o t)
      (fun e t => Stops S supplied t.exchanges e) := by
  apply Act.ends_get_bind
  split
  · refine (ends_attempt_keeping o (.finalized name e) _ _).bind (fun _ u ⟨_, _, hu⟩ => ?_)
      (fun e' t ⟨source, he, _, _, ht⟩ => ?_)
    · refine (ends_record_aside u _ _).bind (fun _ t ⟨_, ht⟩ => ?_) (fun _ _ => False.elim)
      exact Act.ends_pure
        ⟨_, ht.trans hu, List.forall_mem_singleton.2 (calm_of_finalized rfl)⟩
    · rw [he, ht]
      exact .finalized ho rfl
  · refine (ends_record_aside o _ _).bind (fun _ t ⟨_, ht⟩ => ?_) (fun _ _ => False.elim)
    exact Act.ends_pure (.of_eq ht)

lemma ends_finalizeSettled_stops (m : Settlement) (ho : Smooth o.exchanges) :
    Act.Ends (finalizeSettled S.audited hooks.audited m) o (fun _ t => Smooth t.exchanges)
      (fun e t => Stops S supplied t.exchanges e) :=
  (ends_finalizeSettled_along Calmly.preserves_smooth
    (fun _ name e ho => ends_finalize_stops ho name e) m ho).mono
    (fun _ _ ht => ht.smooth ho) (fun _ _ => id)

lemma ends_finalizeSupplied_stops (items : List Supplied) (ho : Smooth o.exchanges) :
    Act.Ends (finalizeSupplied S.audited hooks.audited items) o (fun _ t => Smooth t.exchanges)
      (fun e t => Stops S supplied t.exchanges e) := by
  apply finalizeSupplied_rule (P := fun o _ => Smooth o.exchanges) ho fun _ => id
  intro o item rest ho
  refine (ends_markNew_aside o item.name).mono (fun isNew u hu => ?_) (fun _ _ => False.elim)
  have hsmooth : Smooth u.exchanges := Calmly.smooth (.of_eq (congrArg Prod.snd hu)) ho
  cases isNew with
  | false => exact ⟨hsmooth, fun _ _ => id, fun _ _ => id⟩
  | true =>
    exact (ends_finalize_stops hsmooth _ _).mono
      (fun _ v hv => ⟨hv.smooth hsmooth, fun _ _ => id, fun _ _ => id⟩) (fun _ _ => id)

lemma ends_finalizeDiscovered_stops (ho : Smooth o.exchanges) :
    Act.Ends (finalizeDiscovered S.audited hooks.audited) o (fun _ t => Smooth t.exchanges)
      (fun e t => Stops S supplied t.exchanges e) := by
  have hfind : Act.Ends (ask (S.audited.find .finalizer) : Act _ BootstrapError _) o
      (fun _ u => Smooth u.exchanges ∧ stage u.exchanges = .finalization) (fun _ _ => False) := by
    refine (ends_ask_keeping o (.searched .finalizer) _).mono (fun names u ⟨_, _, hu⟩ => ?_)
      (fun _ _ => id)
    rw [hu, stage_concat]
    exact ⟨List.forall_mem_append.2 ⟨ho, List.forall_mem_singleton.2 ⟨rfl, nofun⟩⟩, rfl⟩
  refine (ends_finalizeDiscovered_along (Calmly.preserves_stage .finalization)
    (M := fun _ _ => True) (W := fun _ u => Smooth u.exchanges)
    (fun _ name e ho => ends_finalize_stops ho.1 name e)
    (fun _ name ho _ => (ends_instantiate_stops ho.1 ho.2 name).mono (fun _ _ ht => ht.2.1)
      (fun _ _ => id)) (fun _ _ _ _ => id)
    (hfind.mono (fun _ _ hu => ⟨hu, fun _ _ => trivial, hu.1⟩) (fun _ _ => id))
    (fun o name => (ends_markNew_aside o name).mono
      (fun _ _ hu => ⟨.of_eq (congrArg Prod.snd hu), trivial⟩) (fun _ _ => id))).mono
    (fun _ t ⟨_, u, hu, ht, _⟩ => ht.smooth hu) (fun _ _ => id)

/-! ### The phase -/

lemma ends_mutationPhase_stops (ho : o.exchanges = []) :
    Act.Ends (mutationPhase S.audited hooks.audited supplied) o
      (fun _ t => ∃ l x, t.exchanges = l ++ [x] ∧ Smooth l ∧ x.dealing = .invalidated)
      (fun e t => Stops S supplied t.exchanges e) := by
  apply mutationPhase_rule
  intro line
  refine (ends_record_aside o _ _).mono (fun _ u ⟨_, hu⟩ => ?_) (fun _ _ => False.elim)
  refine (ends_ask_aside u _).mono (fun editable v ⟨_, _, hv⟩ => ?_) (fun _ _ => False.elim)
  have hnil : v.exchanges = [] := (hv.trans hu).trans ho
  have hsmooth : Smooth v.exchanges := fun _ hx => absurd (hnil ▸ hx) List.not_mem_nil
  have hphase : Act.Ends (if editable then
      mutateRegistry S.audited hooks.audited supplied else
      mutateDegraded S.audited hooks.audited supplied) v
      (fun _ t => Smooth t.exchanges) (fun e t => Stops S supplied t.exchanges e) := by
    split
    · refine (ends_settle_stops hnil).bind (fun m w hw => ?_) (fun _ _ => id)
      refine (ends_finalizeSettled_stops m hw).bind (fun _ x hx => ?_) (fun _ _ => id)
      refine (ends_finalizeDiscovered_stops hx).bind (fun _ t ht => ?_) (fun _ _ => id)
      exact Act.ends_get_bind ht
    · apply Act.ends_get_bind
      refine (ends_record_aside v _ _).bind (fun _ w ⟨_, hw⟩ => ?_) (fun _ _ => False.elim)
      exact (ends_finalizeSupplied_stops supplied (hw ▸ hsmooth)).bind_pure
  refine hphase.mono (fun _ w hw => ?_) (fun e w hw line => ?_)
  · refine (ends_ask_keeping w (fun _ => .invalidated) _).mono (fun _ x ⟨_, _, hx⟩ line => ?_)
      (fun _ _ => False.elim)
    exact (ends_record_aside x _ _).mono
      (fun _ t ⟨_, ht⟩ => ⟨w.exchanges, _, ht.trans hx, hw, rfl⟩) (fun _ _ => False.elim)
  · refine (ends_record_aside w _ _).mono (fun _ t ⟨_, ht⟩ => ?_) (fun _ _ => False.elim)
    exact (congrArg (Stops S supplied · e) ht).mpr hw

end Orchestration

open Orchestration

/-- How a mutation phase ends, whatever the registry and the hooks do. A success invalidates the
snapshots at last, and only then. An error of a hook is that of the last exchange, a mutator whose
turn it was in the stage of the error or a finalizer. An error of the registry is the answer to the
last request of that stage, or it names the candidate whose turn it was and which is no mutator. All
that was done before has succeeded. -/
theorem mutationPhase_first_failure (S : Surface σ) (hooks : Hooks σ) (supplied : List Supplied)
    (o : Orchestration σ) :
    let answer := (mutationPhase S hooks supplied o).1
    let log := phaseExchanges S hooks supplied o
    (∀ summary, answer = .ok summary →
      ∃ l x, log = l ++ [x] ∧ Smooth l ∧ x.dealing = .invalidated) ∧
    (∀ name phase source, answer = .error (.hook name phase source) →
      ∃ l x, log = l ++ [x] ∧ Smooth l ∧
        ((∃ c, c.name = name ∧ Due S supplied l phase c ∧ phase = stage l ∧
            x.dealing = .mutated name c.extension (.error source)) ∨
          ∃ e, phase = .finalization ∧ x.dealing = .finalized name e (.error source))) ∧
    (∀ name phase source, answer = .error (.registry name phase source) →
      ∃ l, Smooth l ∧ phase = stage l ∧
        ((∃ x, log = l ++ [x] ∧ x.dealing = .requested name (.error source)) ∨
          log = l ∧ source = .capabilityMismatch name .registryMutator ∧
            ∃ c, c.name = name ∧ Due S supplied l phase c ∧
              c.extension.behaviour.mutator = none)) ∧
    ∀ e, answer = .error e → (∀ x ∈ log, x.dealing ≠ .invalidated) ∧
      ((∃ name phase source, e = .hook name phase source) ∨
        ∃ name phase source, e = .registry name phase source) := by
  intro answer log
  have hends : Act.Ends (mutationPhase S.audited hooks.audited supplied)
      ⟨(o.registry, []), o.invoker⟩ _ _ := ends_mutationPhase_stops rfl
  have hanswer : (mutationPhase S.audited hooks.audited supplied
      ⟨(o.registry, []), o.invoker⟩).1 = answer :=
    (congrArg Prod.fst
      (mutationPhase_audited S hooks supplied ⟨(o.registry, []), o.invoker⟩)).symm
  have hstops (e : BootstrapError) (he : answer = .error e) : Stops S supplied log e :=
    hends.error (Prod.ext (hanswer.trans he) rfl)
  refine ⟨fun summary hok => hends.ok (Prod.ext (hanswer.trans hok) rfl),
    fun name phase source he => ?_, fun name phase source he => ?_, fun e he => ?_⟩
  · generalize log = l at hstops
    cases hstops _ he with
    | mutated hsmooth hstage hdue hx =>
      exact ⟨_, _, rfl, hsmooth, .inl ⟨_, rfl, hdue, hstage.symm, hx⟩⟩
    | finalized hsmooth hx => exact ⟨_, _, rfl, hsmooth, .inr ⟨_, rfl, hx⟩⟩
  · generalize log = l at hstops
    cases hstops _ he with
    | refused hsmooth hstage hx => exact ⟨_, hsmooth, hstage.symm, .inl ⟨_, rfl, hx⟩⟩
    | unfit hsmooth hstage hdue hnone =>
      exact ⟨_, hsmooth, hstage.symm, .inr ⟨rfl, rfl, _, rfl, hdue, hnone⟩⟩
  · refine ⟨(hstops e he).not_invalidated, ?_⟩
    generalize log = l at hstops
    cases hstops e he with
    | refused => exact .inr ⟨_, _, _, rfl⟩
    | unfit => exact .inr ⟨_, _, _, rfl⟩
    | mutated => exact .inl ⟨_, _, _, rfl⟩
    | finalized => exact .inl ⟨_, _, _, rfl⟩

def Catalog.faltering : Catalog where
  typeNames := ⟨"", "", "", "", "", "", ""⟩
  blueprints := [.mutator "sound" (.priority 0) 0, .mutator "faulty" (.ordered 0) 1,
    .mutator "last" .untagged 0]
  extensions := [.mutator [] [], .mutator [⟨.fail "no", false⟩] []]

def Session.faltering : Session :=
  Session.after .faltering ([0, 1, 2].map fun entry => ⟨.edit (.register entry), false⟩)

theorem faltering_first_failure : ∃ (l : List (Exchange Session)) (x : Exchange Session)
    (c : Candidate), c.name = "faulty" ∧
    phaseExchanges (Session.surface .faltering)
      (.scripted .faltering (Session.surface .faltering)) [] ⟨.faltering, .new ""⟩ = l ++ [x] ∧
    Smooth l ∧ stage l = .orderedMutation ∧
    Due (Session.surface .faltering) [] l .orderedMutation c ∧
    x.dealing = .mutated "faulty" c.extension (.error (.plain "no")) := by
  have hanswer : (mutationPhase (Session.surface .faltering)
      (.scripted .faltering (Session.surface .faltering)) [] ⟨.faltering, .new ""⟩).1 =
      .error (.hook "faulty" .orderedMutation (.plain "no")) := by decide +kernel
  obtain ⟨l, x, hlog, hsmooth, ⟨c, hc, hdue, hstage, hx⟩ | ⟨e, hphase, -⟩⟩ :=
    (mutationPhase_first_failure _ _ _ _).2.1 _ _ _ hanswer
  · exact ⟨l, x, c, hc, hlog, hsmooth, hstage.symm, hdue, hx⟩
  · cases hphase

end ComponentContainer
