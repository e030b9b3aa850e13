import ComponentContainer.Proofs.Orchestration.FixedPoint
import ComponentContainer.Proofs.Reachable
import Mathlib.Data.Finset.Card

/-! The discovery loop without its budget: round after round, until a turn finds nothing new or
fails. Every round takes names out of those that can be found and are not processed, so the rounds
end, whatever the mutators do to the registry meanwhile. -/

namespace ComponentContainer

namespace Orchestration

variable {σ : Type}

/-! ### The loop -/

structure Round where
  batch : List Candidate
  mutated : List String

def Round.names (rounds : List Round) : List String :=
  (rounds.flatMap (·.batch)).map (·.name)

lemma Round.names_cons (r : Round) (rest : List Round) :
    names (r :: rest) = r.batch.map (·.name) ++ names rest := by
  unfold names
  rw [List.flatMap_cons, List.map_append]

def Discovery.ofRounds (rounds : List Round) : Discovery :=
  ⟨rounds.length, rounds.flatMap (·.batch), rounds.flatMap (·.mutated)⟩

section

variable (S : Surface σ) (hooks : Hooks σ)

/-- One turn of the loop, after `before` rounds: none if there is nothing new to be found. -/
def nextRound (before : ℕ) : Act (Orchestration σ) BootstrapError (Option Round) := do
  let batch ← collect S none .discoveryMutation
  if batch.isEmpty then return none
  let run := (← get).invoker.run
  record S .debug <| s!"event=discovery_round module=bootstrap status=ok run_id={run} " ++
    s!"round={before + 1} found={batch.length}"
  let names ← mutateAll S hooks .discoveryMutation batch
  return some ⟨batch, names⟩

lemma discover_succ (before budget : ℕ) :
    discover S hooks before (budget + 1) = nextRound S hooks before >>= fun
      | none => pure ⟨0, [], []⟩
      | some r => discover S hooks (before + 1) budget >>= fun later =>
        pure ⟨later.rounds + 1, r.batch ++ later.invoked, r.mutated ++ later.mutated⟩ := by
  rw [discover, nextRound, bind_assoc]
  refine congrArg _ (funext fun batch => ?_)
  by_cases hempty : batch.isEmpty
  · rw [if_pos hempty, if_pos hempty, pure_bind]
  · rw [if_neg hempty, if_neg hempty]
    simp only [bind_assoc, pure_bind]

inductive Rounds : ℕ → Orchestration σ → List Round → Orchestration σ → Prop
  | refl (before : ℕ) (o : Orchestration σ) : Rounds before o [] o
  | round {before : ℕ} {o u t : Orchestration σ} {r : Round} {rest : List Round} :
      nextRound S hooks before o = (.ok (some r), u) → Rounds (before + 1) u rest t →
      Rounds before o (r :: rest) t

def Over (before : ℕ) (o : Orchestration σ) : Prop :=
  ∀ r t, nextRound S hooks before o ≠ (.ok (some r), t)

/-- Before each turn of the loop, all that a search for mutators would find is in `U`. -/
def Within (U : Finset String) (before : ℕ) (o : Orchestration σ) : Prop :=
  ∀ rounds u, Rounds S hooks before o rounds u →
    ∀ n ∈ (S.find .registryMutator u.registry).1, n ∈ U

end

variable {S : Surface σ} {hooks : Hooks σ} {before : ℕ} {o u v t : Orchestration σ}
  {rounds rounds' : List Round} {U : Finset String}

lemma Round.add_length_cons (before : ℕ) (r : Round) (rest : List Round) :
    before + (r :: rest).length = before + 1 + rest.length := by
  rw [List.length_cons, ← Nat.add_assoc, Nat.add_right_comm]

lemma Rounds.append (h : Rounds S hooks before o rounds u)
    (h' : Rounds S hooks (before + rounds.length) u rounds' t) :
    Rounds S hooks before o (rounds ++ rounds') t := by
  induction h with
  | refl => exact h'
  | @round before o v u r rest hr _ ih =>
    exact .round hr (ih (Round.add_length_cons before r rest ▸ h'))

lemma Rounds.isPrefix (h' : Rounds S hooks before o rounds' v)
    (h : Rounds S hooks before o rounds u)
    (hover : Over S hooks (before + rounds.length) u) : rounds' <+: rounds := by
  induction h' generalizing rounds with
  | refl => exact List.nil_prefix
  | @round before o w v r rest hr _ ih =>
    cases h with
    | refl => exact absurd hr (hover r w)
    | @round _ _ x _ r' rest' hr' hrest' =>
      obtain ⟨hround, rfl⟩ := Prod.mk.inj (hr.symm.trans hr')
      obtain rfl : r = r' := Option.some.inj (Except.ok.inj hround)
      rw [Round.add_length_cons] at hover
      exact List.cons_prefix_cons.2 ⟨rfl, ih hrest' hover⟩

lemma Rounds.discover_eq (h : Rounds S hooks before o rounds u)
    (hover : Over S hooks (before + rounds.length) u) {budget : ℕ}
    (hbudget : rounds.length < budget) :
    discover S hooks before budget o =
      ((nextRound S hooks (before + rounds.length) u).1.map fun _ => .ofRounds rounds,
        (nextRound S hooks (before + rounds.length) u).2) := by
  induction h generalizing budget with
  | refl before o =>
    obtain ⟨budget, rfl⟩ := Nat.exists_eq_add_of_lt hbudget
    rw [discover_succ, Act.bind_run]
    rcases hlast : nextRound S hooks before o with ⟨e | _ | r, t⟩
    · rfl
    · rfl
    · exact absurd hlast (hover r t)
  | @round before o v u r rest hr hrest ih =>
    obtain ⟨budget, rfl⟩ := Nat.exists_eq_add_of_lt (Nat.zero_lt_of_lt hbudget)
    have hbudget : rest.length < 0 + budget := by
      rw [List.length_cons] at hbudget
      omega
    rw [Round.add_length_cons] at hover ⊢
    rw [discover_succ, Act.bind_run_ok hr]
    change (discover S hooks (before + 1) (0 + budget) >>= _) v = _
    rw [Act.bind_run, ih hover hbudget]
    rcases (nextRound S hooks (before + 1 + rest.length) u) with ⟨e | last, t⟩
    · rfl
    · rfl

/-! ### What one round takes -/

lemma nextRound_matches {τ : Type} {S' : Surface τ} {hooks' : Hooks τ} {R : τ → σ → Prop}
    {P : Extension → Prop} (hS : S'.Simulates S R .same P) (hh : hooks'.Simulates hooks R .same)
    (before : ℕ) :
    Act.Matches (Related R) (nextRound S' hooks' before) (nextRound S hooks before) := by
  refine (collect_simulates hS _ _).bind fun batch' batch hbatch => ?_
  obtain rfl : batch' = batch := eq_of_forall₂ (fun _ _ => Candidate.Like.eq) hbatch
  refine Act.simulates_ite (Act.matches_pure _) (Act.simulates_get_bind fun o' o hR => ?_)
  rw [hR.2]
  exact (record_simulates hS _ _).bind fun _ =>
    (mutateAll_simulates hS hh _ (candidates_same batch')).bind fun _ => Act.matches_pure _

lemma ends_of_recorded {ε α : Type} {m' : Act (Orchestration (σ × List Call)) ε α}
    {m : Act (Orchestration σ) ε α} {Q : α → Orchestration σ → Prop}
    {E : ε → Orchestration σ → Prop} (h : Act.Matches (Related fun s' s => s'.1 = s) m' m)
    (hm : Act.Ends m' ⟨(o.registry, []), o.invoker⟩ (fun a t => Q a t.plain)
      fun e t => E e t.plain) :
    Act.Ends m o Q E := by
  have hrun : m o = _ := run_plain h ⟨(o.registry, []), o.invoker⟩
  refine Act.ends_of (fun a t ht => ?_) (fun e t ht => ?_)
  · obtain ⟨ha, rfl⟩ := Prod.mk.inj (hrun.symm.trans ht)
    exact hm.ok (Prod.ext ha rfl)
  · obtain ⟨he, rfl⟩ := Prod.mk.inj (hrun.symm.trans ht)
    exact hm.error (Prod.ext he rfl)

structure Round.Takes (S : Surface σ) (r : Round) (o t : Orchestration σ) : Prop where
  nonempty : r.batch ≠ []
  found : ∀ c ∈ r.batch, c.name ∈ (S.find .registryMutator o.registry).1
  processed : t.invoker.processed.names.Perm (r.batch.map (·.name) ++ o.invoker.processed.names)

lemma ends_nextRound (S : Surface σ) (hooks : Hooks σ) (before : ℕ) (o : Orchestration σ) :
    Act.Yields (nextRound S hooks before) o fun last t => ∀ r, last = some r → r.Takes S o t := by
  refine ends_of_recorded
    (nextRound_matches S.recorded_simulates hooks.recorded_simulates before) ?_
  refine (ends_collect S none _ .mutated _).bind (fun batch u ⟨⟨_, hu⟩, hfound, _⟩ => ?_)
    (fun _ _ _ => trivial)
  by_cases hempty : batch.isEmpty
  · rw [if_pos hempty]
    exact Act.ends_pure nofun
  rw [if_neg hempty]
  refine Act.ends_get_bind ((ends_ask_inside _ _).bind (fun _ v hv => ?_) (fun _ _ => False.elim))
  refine (ends_mutateAll S hooks _ batch v).bind (fun names t ⟨_, _, ht⟩ => ?_)
    (fun _ _ _ => trivial)
  refine Act.ends_pure fun r hr => ?_
  obtain rfl := Option.some.inj hr
  have heffect := (hu.effect.trans hv).trans ht
  rw [List.append_nil, List.append_nil] at heffect
  exact ⟨fun hnil => hempty (List.isEmpty_iff.2 hnil), hfound, heffect.processed⟩

lemma takes_of_nextRound {r : Round} (h : nextRound S hooks before o = (.ok (some r), t)) :
    r.Takes S o t := (ends_nextRound S hooks before o).ok h r rfl

lemma ends_collect_new (S : Surface σ) (phase : Phase) (o : Orchestration σ) :
    Act.Yields (collect S none phase) o fun batch _ => ∀ c ∈ batch,
      c.name ∈ (S.find .registryMutator o.registry).1 ∧ c.name ∉ o.invoker.processed := by
  have hmatches : Act.Matches (Related fun s' s => s'.1 = s) (collect S.recorded none phase)
      (collect S none phase) := (collect_simulates S.recorded_simulates none phase).mono
    fun _ _ => eq_of_forall₂ fun _ _ => Candidate.Like.eq
  refine ends_of_recorded hmatches ?_
  refine (ends_collect S none phase .mutated _).mono
    (fun batch t ⟨⟨_, ht⟩, hfound, _⟩ c hc => ⟨hfound c hc, ?_⟩) (fun _ _ _ => trivial)
  exact ht.effect.not_mem_of_mem_marked (List.mem_map_of_mem hc)

def unprocessed (U : Finset String) (p : ProcessedSet) : Finset String := U.filter (· ∉ p)

namespace Round.Takes

variable {r : Round} (h : r.Takes S o t)

include h

lemma mem_processed {n : String} :
    n ∈ t.invoker.processed ↔ n ∈ r.batch.map (·.name) ∨ n ∈ o.invoker.processed :=
  h.processed.mem_iff.trans List.mem_append

lemma not_mem {c : Candidate} (hc : c ∈ r.batch) : c.name ∉ o.invoker.processed := by
  have hnodup := h.processed.nodup_iff.1 t.invoker.processed.nodup
  intro hmem
  exact (List.nodup_append.1 hnodup).2.2 _ (List.mem_map_of_mem hc) _ hmem rfl

lemma card_unprocessed_lt (hU : ∀ n ∈ (S.find .registryMutator o.registry).1, n ∈ U) :
    (unprocessed U t.invoker.processed).card < (unprocessed U o.invoker.processed).card := by
  obtain ⟨c, hc⟩ := List.exists_mem_of_ne_nil _ h.nonempty
  have hname := List.mem_map_of_mem (f := Candidate.name) hc
  refine Finset.card_lt_card (Finset.ssubset_iff_of_subset ?_ |>.2 ⟨c.name, ?_, ?_⟩)
  · intro n hn
    obtain ⟨hn, hnew⟩ := Finset.mem_filter.1 hn
    exact Finset.mem_filter.2 ⟨hn, fun ho => hnew (h.mem_processed.2 (.inr ho))⟩
  · exact Finset.mem_filter.2 ⟨hU _ (h.found c hc), h.not_mem hc⟩
  · exact fun hn => (Finset.mem_filter.1 hn).2 (h.mem_processed.2 (.inl hname))

end Round.Takes

/-! ### The rounds end -/

lemma Within.find (h : Within S hooks U before o) :
    ∀ n ∈ (S.find .registryMutator o.registry).1, n ∈ U := h [] o (.refl before o)

lemma Within.next (h : Within S hooks U before o) {r : Round}
    (hr : nextRound S hooks before o = (.ok (some r), u)) : Within S hooks U (before + 1) u :=
  fun rounds t ht => h (r :: rounds) t (.round hr ht)

lemma Rounds.within (h : Rounds S hooks before o rounds u) (hU : Within S hooks U before o) :
    Within S hooks U (before + rounds.length) u :=
  fun rounds' t ht => hU (rounds ++ rounds') t (h.append ht)

lemma Rounds.length_add_card_unprocessed (h : Rounds S hooks before o rounds u)
    (hU : Within S hooks U before o) :
    rounds.length + (unprocessed U u.invoker.processed).card ≤
      (unprocessed U o.invoker.processed).card := by
  induction h with
  | refl => rw [List.length_nil, Nat.zero_add]
  | round hr _ ih =>
    have hlt := (takes_of_nextRound hr).card_unprocessed_lt hU.find
    have hrest := ih (hU.next hr)
    rw [List.length_cons]
    omega

lemma Rounds.nonempty (h : Rounds S hooks before o rounds u) : ∀ r ∈ rounds, r.batch ≠ [] := by
  induction h with
  | refl => exact nofun
  | round hr _ ih =>
    exact List.forall_mem_cons.2 ⟨(takes_of_nextRound hr).nonempty, ih⟩

lemma Rounds.processed (h : Rounds S hooks before o rounds u) :
    u.invoker.processed.names.Perm (Round.names rounds ++ o.invoker.processed.names) := by
  induction h with
  | refl => exact .refl _
  | @round before o v u r rest hr _ ih =>
    refine ih.trans (((takes_of_nextRound hr).processed.append_left _).trans ?_)
    rw [Round.names_cons, ← List.append_assoc]
    exact List.perm_append_comm.append_right _

lemma Rounds.names_subset (h : Rounds S hooks before o rounds u) (hU : Within S hooks U before o) :
    ∀ n ∈ Round.names rounds, n ∈ U := by
  induction h with
  | refl => exact nofun
  | round hr _ ih =>
    rw [Round.names_cons]
    refine List.forall_mem_append.2 ⟨fun n hn => ?_, ih (hU.next hr)⟩
    obtain ⟨c, hc, rfl⟩ := List.mem_map.1 hn
    exact hU.find _ ((takes_of_nextRound hr).found c hc)

lemma Within.exists_over (hU : Within S hooks U before o) : ∃ rounds u,
    Rounds S hooks before o rounds u ∧ Over S hooks (before + rounds.length) u := by
  induction hcard : (unprocessed U o.invoker.processed).card using Nat.strong_induction_on
    generalizing before o with
  | _ k ih =>
    by_cases hover : Over S hooks before o
    · exact ⟨[], o, .refl before o, hover⟩
    · obtain ⟨r, u, hr⟩ : ∃ r u, nextRound S hooks before o = (.ok (some r), u) := by
        simpa [Over] using hover
      have hlt := (takes_of_nextRound hr).card_unprocessed_lt hU.find
      obtain ⟨rounds, t, hrounds, hover⟩ := ih _ (hcard ▸ hlt) (hU.next hr) rfl
      rw [← Round.add_length_cons before r] at hover
      exact ⟨r :: rounds, t, .round hr hrounds, hover⟩

/-! ### The loop of a phase -/

structure Opening where
  given : SuppliedOutcome
  invoked : List Candidate
  mutated : List String

section

variable (S : Surface σ) (hooks : Hooks σ) (supplied : List Supplied)

def opening : Act (Orchestration σ) BootstrapError Opening := do
  let given ← mutateSupplied S hooks supplied
  let priority ← collect S (some .priority) .priorityMutation
  let priorityNames ← mutateAll S hooks .priorityMutation priority
  let ordered ← collect S (some .ordered) .orderedMutation
  let orderedNames ← mutateAll S hooks .orderedMutation ordered
  return ⟨given, priority ++ ordered, priorityNames ++ orderedNames⟩

lemma settle_eq : settle S hooks supplied = opening S hooks supplied >>= fun m => get >>= fun o =>
    discover S hooks 0 ((S.roster o.registry).length + 1) >>= fun found =>
    pure ⟨m.given.invoked ++ (m.invoked ++ found.invoked),
      m.given.mutated ++ (m.mutated ++ found.mutated), m.given.others, found.rounds⟩ := by
  simp only [settle, mutateDeclared, opening, bind_assoc, pure_bind]

def toLoop : Act (Orchestration σ) BootstrapError (Option Opening) := do
  let run := (← get).invoker.run
  record S .info <| s!"event=mutation_phase module=bootstrap status=start run_id={run} " ++
    s!"supplied={supplied.length}"
  if ← ask S.editable then
    return some (← opening S hooks supplied)
  return none

variable {S hooks supplied}

lemma exists_discover_of_settle {m : Opening} {settled : Settlement}
    (hopening : opening S hooks supplied o = (.ok m, u))
    (h : settle S hooks supplied o = (.ok settled, t)) :
    ∃ found v, discover S hooks 0 ((S.roster u.registry).length + 1) u = (.ok found, v) ∧
      settled.rounds = found.rounds := by
  rw [settle_eq, Act.bind_run_ok hopening] at h
  obtain ⟨found, v, hfound, hsettled⟩ := Act.exists_of_bind_ok
    (show (discover S hooks 0 ((S.roster u.registry).length + 1) >>= _) u = _ from h)
  obtain ⟨hsettled, -⟩ := Prod.mk.inj hsettled
  exact ⟨found, v, hfound, (Except.ok.inj hsettled) ▸ rfl⟩

lemma exists_discover_of_phase {m : Opening} {summary : MutationSummary}
    (hloop : toLoop S hooks supplied o = (.ok (some m), u))
    (h : mutationPhase S hooks supplied o = (.ok summary, t)) :
    ∃ found v, discover S hooks 0 ((S.roster u.registry).length + 1) u = (.ok found, v) ∧
      summary.rounds = found.rounds := by
  obtain ⟨_, o', hget, hloop⟩ := Act.exists_of_bind_ok hloop
  obtain ⟨_, v, hrecord, hloop⟩ := Act.exists_of_bind_ok hloop
  obtain ⟨editable, w, heditable, hloop⟩ := Act.exists_of_bind_ok hloop
  unfold mutationPhase at h
  rw [Act.bind_run_ok hget, Act.bind_run_ok hrecord, Act.bind_run_ok heditable] at h
  cases editable with
  | false =>
    obtain ⟨hloop, -⟩ := Prod.mk.inj hloop
    exact nomatch Except.ok.inj hloop
  | true =>
    obtain ⟨m', x, hopening, hm⟩ := Act.exists_of_bind_ok
      (show (opening S hooks supplied >>= _) w = _ from hloop)
    obtain ⟨hsome, rfl⟩ := Prod.mk.inj hm
    obtain rfl : m' = m := Option.some.inj (Except.ok.inj hsome)
    obtain ⟨summary', y, hphase, h⟩ := Act.exists_of_bind_ok h
    obtain ⟨hsummary, -⟩ := Prod.mk.inj h
    obtain rfl : summary' = summary := Except.ok.inj hsummary
    -- a phase that fails still fails once its end has been logged
    have hphase : mutateRegistry S hooks supplied w = (.ok summary', y) := by
      rw [Act.tryCatch_run] at hphase
      rcases hrun : mutateRegistry S hooks supplied w with ⟨e | a, z⟩
      · simp only [if_pos, hrun] at hphase
        exact nomatch (Prod.mk.inj hphase).1
      · simpa only [if_pos, hrun] using hphase
    obtain ⟨settled, z, hsettle, h⟩ := Act.exists_of_bind_ok hphase
    obtain ⟨_, _, _, h⟩ := Act.exists_of_bind_ok h
    obtain ⟨_, _, _, h⟩ := Act.exists_of_bind_ok h
    obtain ⟨hsummary, -⟩ := Prod.mk.inj h
    obtain ⟨found, v, hfound, hrounds⟩ := exists_discover_of_settle hopening hsettle
    exact ⟨found, v, hfound, (Except.ok.inj hsummary) ▸ hrounds⟩

end

/-- The discovery loop ends where all that its searches find is in a finite set `U`, whatever is
registered and removed meanwhile. It has at most as many rounds as `U` has names that were not
processed when it started, a last one that fails included; each round processes names of `U` that
were not processed before. No budget above the rounds makes a difference, and a phase with such a
budget reports them. -/
theorem discovery_terminates (S : Surface σ) (hooks : Hooks σ) (supplied : List Supplied)
    (U : Finset String) {start o : Orchestration σ} {m : Opening}
    (hloop : toLoop S hooks supplied start = (.ok (some m), o)) (hU : Within S hooks U 0 o) :
    ∃ rounds u, Rounds S hooks 0 o rounds u ∧ Over S hooks rounds.length u ∧
      rounds.length ≤ (unprocessed U o.invoker.processed).card ∧
      (∀ batch v, collect S none .discoveryMutation u = (.ok batch, v) → batch ≠ [] →
        rounds.length + 1 ≤ (unprocessed U o.invoker.processed).card) ∧
      (∀ rounds' v, Rounds S hooks 0 o rounds' v →
        rounds' <+: rounds ∧ (∀ r ∈ rounds', r.batch ≠ []) ∧
        v.invoker.processed.names.Perm (Round.names rounds' ++ o.invoker.processed.names) ∧
        (Round.names rounds').Nodup ∧
        ∀ n ∈ Round.names rounds', n ∈ U ∧ n ∉ o.invoker.processed) ∧
      (∀ budget, rounds.length < budget → discover S hooks 0 budget o =
        ((nextRound S hooks rounds.length u).1.map fun _ => .ofRounds rounds,
          (nextRound S hooks rounds.length u).2)) ∧
      (rounds.length ≤ (S.roster o.registry).length → ∀ summary t,
        mutationPhase S hooks supplied start = (.ok summary, t) →
          summary.rounds = rounds.length) := by
  obtain ⟨rounds, u, hrounds, hover⟩ := hU.exists_over
  have hwithin := hrounds.within hU
  rw [Nat.zero_add] at hover hwithin
  have hlength := hrounds.length_add_card_unprocessed hU
  have hover' : Over S hooks (0 + rounds.length) u := by rwa [Nat.zero_add]
  have hdiscover {budget : ℕ} (hb : rounds.length < budget) := hrounds.discover_eq hover' hb
  rw [Nat.zero_add] at hdiscover
  refine ⟨rounds, u, hrounds, hover, by omega, fun batch v hbatch hnil => ?_,
    fun rounds' v hv => ?_, fun _ => hdiscover, fun hroster summary t hphase => ?_⟩
  · obtain ⟨c, hc⟩ := List.exists_mem_of_ne_nil _ hnil
    obtain ⟨hfound, hnew⟩ := (ends_collect_new S .discoveryMutation u).ok hbatch c hc
    have hunprocessed : c.name ∈ unprocessed U u.invoker.processed :=
      Finset.mem_filter.2 ⟨hwithin.find _ hfound, hnew⟩
    have hpos := Finset.card_pos.2 ⟨_, hunprocessed⟩
    omega
  · have hnodup := List.nodup_append.1 (hv.processed.nodup_iff.1 v.invoker.processed.nodup)
    exact ⟨hv.isPrefix hrounds hover', hv.nonempty, hv.processed, hnodup.1,
      fun n hn => ⟨hv.names_subset hU n hn, fun ho => hnodup.2.2 n hn n ho rfl⟩⟩
  · obtain ⟨found, w, hfound, hsummary⟩ := exists_discover_of_phase hloop hphase
    rw [hdiscover (Nat.lt_succ_of_le hroster)] at hfound
    obtain ⟨hanswer, -⟩ := Prod.mk.inj hfound
    rw [hsummary]
    rcases hlast : (nextRound S hooks rounds.length u).1 with e | last
    · rw [hlast] at hanswer
      exact nomatch hanswer
    · rw [hlast] at hanswer
      exact (Except.ok.inj hanswer) ▸ rfl

end Orchestration

/-! ### Sessions -/

open Orchestration

lemma within_roster (lib : Catalog) (before : ℕ) (o : Orchestration Session) :
    Within (Session.surface lib) (.scripted lib (Session.surface lib))
      (Creation.roster lib o.registry).toFinset before o := by
  intro rounds u h
  have hleads : o.registry.Leads lib (fun _ => True) u.registry := by
    suffices hgoes : ∀ v : Session, v.Leads lib (fun _ => True) o.registry →
        v.Leads lib (fun _ => True) u.registry from hgoes _ .refl
    intro v hv
    induction h with
    | refl => exact hv
    | @round before o w _ _ _ hr _ ih =>
      have hS := leads_surface lib v
      have hround := nextRound_matches hS.toSimulates (Hooks.scripted_same hS) before o o
        ⟨⟨rfl, hv⟩, rfl⟩
      rw [hr] at hround
      exact ih hround.2.1.2
  exact fun n hn => List.mem_toFinset.2 (find_subset_roster lib _ _ hleads hn)

def Catalog.restless : Catalog where
  typeNames := ⟨"", "", "", "", "", "", ""⟩
  blueprints := [.mutator "self" .untagged 0, .mutator "ping" .untagged 1,
    .mutator "pong" (.ordered 0) 2]
  extensions := [
    .mutator [⟨.edit (.remove "self"), false⟩, ⟨.edit (.register 0), false⟩] [],
    .mutator [⟨.edit (.remove "pong"), true⟩, ⟨.edit (.register 2), false⟩] [],
    .mutator [⟨.edit (.remove "ping"), true⟩, ⟨.edit (.register 1), false⟩] []]

def Orchestration.restless : Orchestration Session :=
  ⟨.after .restless [⟨.edit (.register 0), false⟩, ⟨.edit (.register 1), false⟩], .new ""⟩

theorem restless_terminates :
    let S := Session.surface .restless
    let hooks := Hooks.scripted .restless S
    ∃ (o u : Orchestration Session) (rounds : List Round) (summary : MutationSummary)
      (t : Orchestration Session),
      mutationPhase S hooks [] .restless = (.ok summary, t) ∧
      Rounds S hooks 0 o rounds u ∧ Over S hooks rounds.length u ∧ summary.rounds = 2 ∧
      rounds.length = 2 ∧
      (S.find .registryMutator t.registry).1 = ["self", "pong", "ping"] := by
  intro S hooks
  have hloop : (toLoop S hooks [] .restless).1.map (·.isSome) = .ok true := by decide +kernel
  have hphase : (mutationPhase S hooks [] .restless).1.map (·.rounds) = .ok 2 := by decide +kernel
  have hfound : (S.find .registryMutator (mutationPhase S hooks [] .restless).2.registry).1 =
      ["self", "pong", "ping"] := by decide +kernel
  obtain ⟨m, o, hm, hsome⟩ := Act.exists_of_map_ok hloop
  obtain ⟨m, rfl⟩ := Option.isSome_iff_exists.1 hsome
  obtain ⟨summary, t, hsummary, hrounds⟩ := Act.exists_of_map_ok hphase
  obtain ⟨rounds, u, hcourse, hover, hbound, -, -, -, hreported⟩ := discovery_terminates S hooks []
    (Creation.roster .restless o.registry).toFinset hm (within_roster .restless 0 o)
  have hroster := (hbound.trans (Finset.card_filter_le _ _)).trans (List.toFinset_card_le _)
  have hcount := hreported hroster summary t hsummary
  rw [hsummary] at hfound
  exact ⟨o, u, rounds, summary, t, hsummary, hcourse, hover, hrounds, hcount ▸ hrounds, hfound⟩

end ComponentContainer
