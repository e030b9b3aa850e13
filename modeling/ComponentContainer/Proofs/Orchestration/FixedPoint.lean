import ComponentContainer.Proofs.Monotone
import ComponentContainer.Proofs.Orchestration.Stages
import ComponentContainer.Proofs.Orchestration.Traversal
import Mathlib.Data.List.Count

/-! The rounds of discovery go on until they find nothing new: when they are over, all mutators that
the registry declares are processed, whatever their factories and hooks have registered. -/

namespace ComponentContainer

namespace Orchestration

variable {σ : Type} {S : Surface σ} {hooks : Hooks σ} {I : σ → Prop} {P : Extension → Prop}

lemma stays_recorded {ε α : Type} {V V' : α → α → Prop}
    {m' : Act (Orchestration (σ × List Call)) ε α} {m : Act (Orchestration σ) ε α}
    (hrec : Act.Simulates (Related fun s' s => s'.1 = s) V' m' m)
    (hm : Act.Simulates (Related fun s' s => s' = s ∧ I s) V m m)
    {o : Orchestration (σ × List Call)} (ho : I o.registry.1) :
    Act.Stays m' o fun t => I t.registry.1 := by
  apply Act.stays_of
  have hin : I (m o.plain).2.registry := (hm o.plain o.plain ⟨⟨rfl, ho⟩, rfl⟩).2.1.2
  rwa [state_plain hrec o] at hin

section

variable (hS : S.Simulates S (fun s' s => s' = s ∧ I s) .same P)
  (hh : hooks.Simulates hooks (fun s' s => s' = s ∧ I s) .same) {bound : List String}
  (hfind : ∀ s, I s → (S.find .registryMutator s).1 ⊆ bound)

include hS hh hfind

lemma ends_discover_within (before budget : Nat) {o : Orchestration (σ × List Call)}
    (ho : I o.registry.1) :
    Act.Yields (discover S.recorded hooks.recorded before budget) o
      (fun found _ => ∀ c ∈ found.invoked, c.name ∈ bound) := by
  apply discover_rule (P := fun o _ => I o.registry.1) ho
    fun _ _ c hc => absurd hc List.not_mem_nil
  intro o budget ho
  have hcollect := stays_recorded (collect_simulates S.recorded_simulates none .discoveryMutation)
    (collect_simulates hS none .discoveryMutation) ho
  refine ((ends_collect S none _ .mutated o).and hcollect).mono
    (fun batch u ⟨⟨_, hbatch, _⟩, hu⟩ => ⟨?_, fun _ line => ?_⟩) (fun _ _ _ => trivial)
  · exact fun _ c hc => absurd hc List.not_mem_nil
  have hbatch : ∀ c ∈ batch, c.name ∈ bound := fun c hc => hfind _ ho (hbatch c hc)
  refine (stays_recorded (record_simulates S.recorded_simulates _ _) (record_simulates hS _ _)
    hu).mono (fun _ v hv => ?_) (fun _ _ _ => trivial)
  refine (stays_recorded
    (mutateAll_simulates S.recorded_simulates hooks.recorded_simulates _ (candidates_same batch))
    (mutateAll_simulates hS hh _ (candidates_same batch)) hv).mono (fun _ w hw => ?_)
    (fun _ _ _ => trivial)
  exact ⟨hw, fun later t hlater => List.forall_mem_append.2 ⟨hbatch, hlater⟩, fun _ _ => id⟩

end

lemma discover_of_le {before budget budget' : ℕ} {o : Orchestration σ} (hle : budget ≤ budget')
    (h : ∀ found t, discover S hooks before budget o = (.ok found, t) → found.rounds < budget) :
    discover S hooks before budget' o = discover S hooks before budget o := by
  induction budget generalizing before budget' o with
  | zero => exact absurd (h _ _ rfl) (Nat.not_lt_zero _)
  | succ budget ih =>
    obtain ⟨budget', rfl⟩ := Nat.exists_eq_add_of_lt hle
    unfold discover at h ⊢
    refine Act.bind_run_congr fun batch u hbatch => ?_
    by_cases hempty : batch.isEmpty
    · rw [if_pos hempty, if_pos hempty]
    rw [if_neg hempty, if_neg hempty]
    refine Act.bind_run_congr fun o₁ u₁ hget => Act.bind_run_congr fun _ v hv =>
      Act.bind_run_congr fun names w hw => ?_
    have hrest : ∀ later t, discover S hooks (before + 1) budget w = (.ok later, t) →
        later.rounds < budget := by
      intro later t hlater
      refine Nat.lt_of_succ_lt_succ
        (h ⟨later.rounds + 1, batch ++ later.invoked, names ++ later.mutated⟩ t ?_)
      rw [Act.bind_run_ok hbatch, if_neg hempty, Act.bind_run_ok hget, Act.bind_run_ok hv,
        Act.bind_run_ok hw, Act.bind_run_ok hlater]
      rfl
    rw [Act.bind_run, Act.bind_run, ih (by omega) hrest]

def ReadsMutators (S : Surface σ) : Prop := ∀ s, (S.find .registryMutator s).2 = s

lemma ends_discover_fixed (hooks : Hooks σ) (hread : ReadsMutators S) (before budget : Nat)
    (o : Orchestration (σ × List Call)) :
    Act.Yields (discover S.recorded hooks.recorded before budget) o
      (fun found t => found.rounds ≤ found.invoked.length ∧ (found.rounds < budget →
        ∀ n ∈ (S.find .registryMutator t.registry.1).1, n ∈ t.invoker.processed)) := by
  apply discover_rule (P := fun _ _ => True) trivial
    fun _ _ => ⟨Nat.le_refl 0, fun h => absurd h (Nat.lt_irrefl 0)⟩
  intro o budget _
  refine (ends_collect S none _ .mutated o).mono
    (fun batch u ⟨_, _, hall, hnil⟩ => ⟨fun hempty => ?_, fun hempty line => ?_⟩)
    (fun _ _ _ => trivial)
  · refine ⟨Nat.le_refl 0, fun _ n hn => hall rfl n ?_⟩
    rwa [hnil hempty, hread] at hn
  · have hround : 0 < batch.length := List.length_pos_iff.2 hempty
    refine (ends_ask_inside _ _).mono (fun _ v _ => ?_) (fun _ _ => False.elim)
    refine (ends_mutateAll S hooks _ batch v).mono (fun _ w _ => ?_) (fun _ _ _ => trivial)
    refine ⟨trivial, fun later t ⟨hrounds, hfixed⟩ => ?_, fun _ _ => id⟩
    refine ⟨?_, fun hlt => hfixed (Nat.lt_of_succ_lt_succ hlt)⟩
    change later.rounds + 1 ≤ (batch ++ later.invoked).length
    rw [List.length_append]
    omega

section

variable {le : σ → σ → Prop} (hS : ∀ v, S.Simulates S (fun s' s => s' = s ∧ le v s) .same P)
  (hh : ∀ v, hooks.Simulates hooks (fun s' s => s' = s ∧ le v s) .same) (hrefl : ∀ v, le v v)
  (hfind : ∀ v s, le v s → (S.find .registryMutator s).1 ⊆ S.roster v)

include hS hh hrefl hfind

lemma ends_discover_rounds (hread : ReadsMutators S) (v : Orchestration (σ × List Call)) :
    Act.Yields (discover S.recorded hooks.recorded 0 ((S.roster v.registry.1).length + 1)) v
      (fun found t => found.rounds ≤ (S.roster v.registry.1).length ∧
        ∀ n ∈ (S.find .registryMutator t.registry.1).1, n ∈ t.invoker.processed) := by
  have hmarked := ends_discover S hooks 0 ((S.roster v.registry.1).length + 1) v
  have hwithin := ends_discover_within (hS v.registry.1) (hh v.registry.1) (hfind v.registry.1) 0
    ((S.roster v.registry.1).length + 1) (hrefl v.registry.1)
  have hfixed := ends_discover_fixed hooks hread 0 ((S.roster v.registry.1).length + 1) v
  refine ((hmarked.and hwithin).and hfixed).mono
    (fun found t ⟨⟨⟨_, _, ht⟩, hnames⟩, hrounds, hfixed⟩ => ?_) (fun _ _ _ => trivial)
  have hnodup : (found.invoked.map (·.name)).Nodup := (List.nodup_append.1 ht.effect.nodup).1
  have hsub : found.invoked.map (·.name) ⊆ S.roster v.registry.1 := by
    intro n hn
    obtain ⟨c, hc, rfl⟩ := List.mem_map.1 hn
    exact hnames c hc
  have hlength := (List.subperm_of_subset hnodup hsub).length_le
  rw [List.length_map] at hlength
  exact ⟨by omega, hfixed (by omega)⟩

lemma ends_mutateDeclared_fixed (hread : ReadsMutators S) (o : Orchestration (σ × List Call)) :
    Act.Yields (mutateDeclared S.recorded hooks.recorded) o
      (fun _ t => ∀ n ∈ (S.find .registryMutator t.registry.1).1, n ∈ t.invoker.processed) := by
  refine Act.ends_true.bind (fun _ u _ => ?_)
  refine Act.ends_true.bind (fun _ u _ => ?_)
  refine Act.ends_true.bind (fun _ u _ => ?_)
  refine Act.ends_true.bind (fun _ v _ => ?_)
  apply Act.ends_get_bind
  exact (ends_discover_rounds hS hh hrefl hfind hread v).bind fun _ _ ht => Act.ends_pure ht.2

lemma rounds_le_of_discover (hread : ReadsMutators S) {o t : Orchestration σ} {found : Discovery}
    (h : discover S hooks 0 ((S.roster o.registry).length + 1) o = (.ok found, t)) :
    found.rounds ≤ (S.roster o.registry).length := by
  let o' : Orchestration (σ × List Call) := ⟨(o.registry, []), o.invoker⟩
  have hyields := ends_discover_rounds hS hh hrefl hfind hread o'
  obtain ⟨halike, -⟩ := discover_simulates S.recorded_simulates hooks.recorded_simulates 0
    ((S.roster o.registry).length + 1) o' o ⟨rfl, rfl⟩
  rw [h] at halike
  rcases hrun : discover S.recorded hooks.recorded 0 ((S.roster o.registry).length + 1) o' with
    ⟨e | found', t'⟩
  · rw [hrun] at halike
    exact halike.elim
  · rw [hrun] at halike
    exact halike.rounds_eq ▸ (hyields.ok hrun).1

lemma ends_settle_fixed (hread : ReadsMutators S) (supplied : List Supplied)
    (o : Orchestration (σ × List Call)) :
    Act.Yields (settle S.recorded hooks.recorded supplied) o
      (fun _ t => ∀ n ∈ (S.find .registryMutator t.registry.1).1, n ∈ t.invoker.processed) := by
  refine Act.ends_true.bind (fun _ u _ => ?_)
  exact (ends_mutateDeclared_fixed hS hh hrefl hfind hread u).bind (fun _ _ ht => ht)

end

structure Mutates (supplied : List Supplied) (mutated : List String)
    (s o : Orchestration (σ × List Call)) : Prop where
  hooks : o.calls.filter Call.isHook = mutated.map .mutated
  nodup : mutated.Nodup
  processed : ∀ n, n ∈ o.invoker.processed ↔
    n ∈ s.invoker.processed ∨ (∃ item ∈ supplied, item.name = n) ∨ n ∈ mutated

namespace Mutates

variable {supplied : List Supplied} {mutated : List String} {s o : Orchestration (σ × List Call)}
  {n : String}

lemma mutated_of_processed (h : Mutates supplied mutated s o) (hn : n ∈ o.invoker.processed)
    (hnew : n ∉ s.invoker.processed) (hunsupplied : ∀ item ∈ supplied, item.name ≠ n) :
    n ∈ mutated := by
  rcases (h.processed n).1 hn with hn | ⟨item, hitem, rfl⟩ | hn
  · exact absurd hn hnew
  · exact absurd rfl (hunsupplied item hitem)
  · exact hn

lemma not_finalized (h : Mutates supplied mutated s o) : .finalized n ∉ o.calls := by
  intro hn
  have hn : Call.finalized n ∈ o.calls.filter Call.isHook := List.mem_filter.2 ⟨hn, rfl⟩
  rw [h.hooks] at hn
  simp at hn

lemma count_mutated (h : Mutates supplied mutated s o) (hn : n ∈ mutated) :
    o.calls.count (.mutated n) = 1 := by
  have hinj : Function.Injective Call.mutated := fun _ _ h => Call.mutated.inj h
  rw [← List.count_filter (show Call.isHook (.mutated n) = true from rfl), h.hooks,
    List.count_map_of_injective _ _ hinj, h.nodup.count, if_pos hn]

end Mutates

lemma ends_settle_mutates (S : Surface σ) (hooks : Hooks σ) (supplied : List Supplied)
    (hS : S.AlwaysEditable) {s : Orchestration (σ × List Call)}
    (hs : s.calls.filter Call.isHook = []) :
    Act.Yields (settle S.recorded hooks.recorded supplied) s
      (fun m o => Mutates supplied m.mutated s o) := by
  refine (ends_settle S hooks supplied s).mono (fun m o ⟨hm, hothers, hall, _, _, ho⟩ => ?_)
    (fun _ _ _ => trivial)
  have hm := hm hS
  refine ⟨?_, ?_, fun n => ⟨fun hn => ?_, ?_⟩⟩
  · rw [ho.effect.hooks, hs, List.nil_append]
  · rw [hm]
    exact (List.nodup_append.1 (List.nodup_append.1 ho.effect.nodup).1).1
  · rcases ho.effect.mem_processed.1 hn with hn | hn
    · rcases List.mem_append.1 hn with hn | hn
      · exact .inr (.inr (hm ▸ hn))
      · obtain ⟨item, hitem, rfl⟩ := List.mem_map.1 hn
        exact .inr (.inl ⟨item, hothers.subset hitem, rfl⟩)
    · exact .inl hn
  · rintro (hn | ⟨item, hitem, rfl⟩ | hn)
    · exact ho.effect.mem_processed.2 (.inr hn)
    · exact hall item hitem
    · rw [hm] at hn
      exact ho.effect.mem_processed.2 (.inl (List.mem_append_left _ hn))

end Orchestration

open Orchestration

variable (lib : Catalog)

lemma surface_readsMutators : ReadsMutators (Session.surface lib) := fun _ => rfl

lemma surface_alwaysEditable : (Session.surface lib).AlwaysEditable := fun _ => rfl

lemma leads_surface (v : Session) : (Session.surface lib).SimulatesScripts lib (Session.surface lib)
    (fun s' s => s' = s ∧ v.Leads lib (fun _ => True) s) .same fun _ => True :=
  Session.passage_leads.surface_simulates (fun _ _ _ => trivial) fun _ _ _ _ => trivial

lemma find_subset_roster (v s : Session) (h : v.Leads lib (fun _ => True) s) :
    ((Session.surface lib).find .registryMutator s).1 ⊆ (Session.surface lib).roster v :=
  fun _ hn => Session.mem_roster.2 (h.path.known (Registry.known_of_declaring hn))

lemma ends_settle_session (supplied : List Supplied) (o : Orchestration (Session × List Call)) :
    Act.Yields (settle (Session.surface lib).recorded
        (Hooks.scripted lib (Session.surface lib)).recorded supplied) o
      (fun _ t => ∀ n ∈ t.registry.1.registry.declaring .registryMutator, n ∈ t.invoker.processed) :=
  ends_settle_fixed (fun v => (leads_surface lib v).toSimulates)
    (fun v => Hooks.scripted_same (leads_surface lib v)) (fun _ => .refl) (find_subset_roster lib)
    (surface_readsMutators lib) supplied o

lemma discover_session_of_le {o : Orchestration Session} {budget : ℕ}
    (h : (Creation.roster lib o.registry).length + 1 ≤ budget) :
    discover (Session.surface lib) (.scripted lib (Session.surface lib)) 0 budget o =
      discover (Session.surface lib) (.scripted lib (Session.surface lib)) 0
        ((Creation.roster lib o.registry).length + 1) o :=
  discover_of_le h fun _ _ hfound => Nat.lt_succ_of_le <|
    rounds_le_of_discover (fun v => (leads_surface lib v).toSimulates)
      (fun v => Hooks.scripted_same (leads_surface lib v)) (fun _ => .refl) (find_subset_roster lib)
      (surface_readsMutators lib) hfound

/-- On a session the discovery loop ends in a fixed point. Once it is over, and before any finalize
hook has run, all declared mutators are processed; those that were not processed before nor supplied
have had their mutate hook run, once. -/
theorem settle_reaches_fixed_point (s : Session) (i : Invoker) (supplied : List Supplied)
    {m : Settlement} {t : Orchestration (Session × List Call)}
    (h : settle (Session.surface lib).recorded (Hooks.scripted lib (Session.surface lib)).recorded
      supplied ⟨(s, []), i⟩ = (.ok m, t)) :
    (∀ n, .finalized n ∉ t.calls) ∧
      ∀ n ∈ t.registry.1.registry.declaring .registryMutator, n ∈ t.invoker.processed ∧
        (n ∉ i.processed → (∀ item ∈ supplied, item.name ≠ n) →
          t.calls.count (.mutated n) = 1) := by
  have hm := (ends_settle_mutates _ _ supplied (surface_alwaysEditable lib) rfl).ok h
  refine ⟨fun n => hm.not_finalized, fun n hn => ?_⟩
  have hprocessed := (ends_settle_session lib supplied _).ok h n hn
  exact ⟨hprocessed, fun hnew hunsupplied =>
    hm.count_mutated (hm.mutated_of_processed hprocessed hnew hunsupplied)⟩

def Blueprint.mutator (name : String) (precedence : Precedence) (entry : Nat) : Blueprint :=
  { (default : Blueprint) with
    name
    capabilities := .ofList [.registryMutator]
    precedence
    factory := ⟨[], .fresh (.extension entry)⟩ }

def ExtensionSpec.mutator (mutate finalize : List Step) : ExtensionSpec :=
  .scripted none ⟨some ⟨mutate, finalize⟩, none, none, none, none⟩

def Catalog.chained : Catalog where
  typeNames := ⟨"", "", "", "", "", "", ""⟩
  blueprints := [.mutator "late" (.priority 0) 1]
  extensions := [.mutator [⟨.edit (.register 0), false⟩] [], .mutator [] []]

def Session.chained : Session :=
  let first : Definition := ⟨.mutator "first" .untagged 0, 1⟩
  { Session.empty with
    registry := { Registry.empty with
      definitions := [("first", first)]
      order := ["first"]
      index := CapabilityIndex.enterAll [] first.capabilities "first" } }

theorem chained_reaches_fixed_point :
    ∃ (m : Settlement) (t : Orchestration (Session × List Call)),
      settle (Session.surface .chained).recorded
        (Hooks.scripted .chained (Session.surface .chained)).recorded []
        ⟨(.chained, []), .new ""⟩ = (.ok m, t) ∧ t.calls.count (.mutated "late") = 1 := by
  have hok : (settle (Session.surface .chained).recorded
      (Hooks.scripted .chained (Session.surface .chained)).recorded []
      ⟨(.chained, []), .new ""⟩).1.isOk = true := by decide +kernel
  have hlate : "late" ∈ (settle (Session.surface .chained).recorded
      (Hooks.scripted .chained (Session.surface .chained)).recorded []
      ⟨(.chained, []), .new ""⟩).2.registry.1.registry.declaring .registryMutator := by
    decide +kernel
  rcases hrun : settle (Session.surface .chained).recorded
    (Hooks.scripted .chained (Session.surface .chained)).recorded [] ⟨(.chained, []), .new ""⟩
    with ⟨_ | m, t⟩
  · rw [hrun] at hok
    cases hok
  · rw [hrun] at hlate
    have hnew : "late" ∉ (Invoker.new "").processed := by decide
    exact ⟨m, t, rfl,
      ((settle_reaches_fixed_point _ _ _ _ hrun).2 "late" hlate).2 hnew (by simp)⟩

end ComponentContainer
