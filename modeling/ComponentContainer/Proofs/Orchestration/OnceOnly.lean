import ComponentContainer.Proofs.Orchestration.Stages
import Mathlib.Data.List.Count

/-! An invoker over any number of mutation phases, each on a registry of its own kind: every hook
runs at most once for a name, and a name that is processed stays so. -/

namespace ComponentContainer

structure PhaseCall where
  State : Type
  surface : Surface State
  hooks : Hooks State
  registry : State
  supplied : List Supplied

namespace PhaseCall

open Orchestration

def after (c : PhaseCall) (i : Invoker) : Invoker :=
  (mutationPhase c.surface c.hooks c.supplied ⟨c.registry, i⟩).2.invoker

def calls (c : PhaseCall) (i : Invoker) : List Call :=
  (mutationPhase c.surface.recorded c.hooks.recorded c.supplied ⟨(c.registry, []), i⟩).2.calls

def afterAll (i : Invoker) (cs : List PhaseCall) : Invoker := cs.foldl (fun i c => c.after i) i

def history (i : Invoker) : List PhaseCall → List Call
  | [] => []
  | c :: rest => c.calls i ++ history (c.after i) rest

lemma exists_phaseEffect (c : PhaseCall) (i : Invoker) :
    ∃ t : Orchestration (c.State × List Call), t.invoker = c.after i ∧ t.calls = c.calls i ∧
      ∃ marked requested mutated finalized,
        PhaseEffect c.supplied ⟨(c.registry, []), i⟩ t marked requested mutated finalized := by
  refine ⟨_, ?_, rfl, ?_⟩
  · have hplain := mutationPhase_recorded c.surface c.hooks c.supplied ⟨(c.registry, []), i⟩
    exact congrArg (·.2.invoker) hplain.symm
  · have hends := @ends_mutationPhase _ c.surface c.hooks c.supplied ⟨(c.registry, []), i⟩
    cases hrun : (mutationPhase c.surface.recorded c.hooks.recorded c.supplied
        ⟨(c.registry, []), i⟩).1 with
    | ok m =>
      obtain ⟨_, _, h⟩ := hends.ok (Prod.ext hrun rfl)
      exact ⟨_, _, _, _, h⟩
    | error e => exact hends.error (Prod.ext hrun rfl)

lemma processed_after {c : PhaseCall} {i : Invoker} {n : String} (hn : n ∈ i.processed) :
    n ∈ (c.after i).processed := by
  obtain ⟨t, ht, -, _, _, _, _, h⟩ := c.exists_phaseEffect i
  exact ht ▸ h.effect.mem_processed.2 (.inr hn)

lemma processed_afterAll {i : Invoker} {n : String} (hn : n ∈ i.processed) (cs : List PhaseCall) :
    n ∈ (afterAll i cs).processed := by
  induction cs generalizing i with
  | nil => exact hn
  | cons c rest ih => exact ih (processed_after hn)

lemma afterAll_append (i : Invoker) (cs ds : List PhaseCall) :
    afterAll i (cs ++ ds) = afterAll (afterAll i cs) ds := List.foldl_append

structure OnceInCall (hook : String → Call) : Prop where
  count_le : ∀ (c : PhaseCall) i n, (c.calls i).count (hook n) ≤ 1
  mem_new : ∀ (c : PhaseCall) i n, hook n ∈ c.calls i → n ∉ i.processed
  mem_after : ∀ (c : PhaseCall) i n, hook n ∈ c.calls i → n ∈ (c.after i).processed

namespace OnceInCall

variable {hook : String → Call}

lemma count_history_eq_zero (h : OnceInCall hook) {i : Invoker} {n : String}
    (hn : n ∈ i.processed) (cs : List PhaseCall) : (history i cs).count (hook n) = 0 := by
  induction cs generalizing i with
  | nil => rfl
  | cons c rest ih =>
    rw [history, List.count_append, ih (processed_after hn), Nat.add_zero, List.count_eq_zero]
    exact fun hc => h.mem_new c i n hc hn

lemma count_history_le (h : OnceInCall hook) (i : Invoker) (n : String) (cs : List PhaseCall) :
    (history i cs).count (hook n) ≤ 1 := by
  induction cs generalizing i with
  | nil => exact Nat.zero_le 1
  | cons c rest ih =>
    rw [history, List.count_append]
    by_cases hc : hook n ∈ c.calls i
    · rw [h.count_history_eq_zero (h.mem_after c i n hc)]
      exact h.count_le c i n
    · rw [List.count_eq_zero_of_not_mem hc, Nat.zero_add]
      exact ih _

end OnceInCall

lemma count_calls {c : PhaseCall} {i : Invoker} {t : Orchestration (c.State × List Call)}
    {marked requested mutated finalized : List String} (n : String)
    (h : PhaseEffect c.supplied ⟨(c.registry, []), i⟩ t marked requested mutated finalized) :
    t.calls.count (.mutated n) = mutated.count n ∧
      t.calls.count (.finalized n) = finalized.count n := by
  have hooks : t.calls.filter Call.isHook = mutated.map .mutated ++ finalized.map .finalized :=
    h.effect.hooks
  have hm : Function.Injective Call.mutated := fun _ _ h => Call.mutated.inj h
  have hf : Function.Injective Call.finalized := fun _ _ h => Call.finalized.inj h
  have hother : (finalized.map Call.finalized).count (.mutated n) = 0 :=
    List.count_eq_zero.2 (by simp)
  have hother' : (mutated.map Call.mutated).count (.finalized n) = 0 :=
    List.count_eq_zero.2 (by simp)
  constructor
  · rw [← List.count_filter (show Call.isHook (.mutated n) = true from rfl), hooks,
      List.count_append, List.count_map_of_injective _ _ hm, hother, Nat.add_zero]
  · rw [← List.count_filter (show Call.isHook (.finalized n) = true from rfl), hooks,
      List.count_append, List.count_map_of_injective _ _ hf, hother', Nat.zero_add]

lemma exists_marked (c : PhaseCall) (i : Invoker) : ∃ marked mutated finalized : List String,
    (marked ++ i.processed.names).Nodup ∧ (∀ n ∈ marked, n ∈ (c.after i).processed) ∧
      mutated.Subperm marked ∧ finalized.Subperm marked ∧
      ∀ n, (c.calls i).count (.mutated n) = mutated.count n ∧
        (c.calls i).count (.finalized n) = finalized.count n := by
  obtain ⟨t, ht, hcalls, marked, _, mutated, finalized, h⟩ := c.exists_phaseEffect i
  refine ⟨marked, mutated, finalized, h.effect.nodup, fun n hn => ?_, h.mutated_subperm,
    h.finalized_subperm, fun n => ?_⟩
  · exact ht ▸ h.effect.mem_processed.2 (.inl hn)
  · exact hcalls ▸ count_calls n h

lemma onceInCall_of {hook : String → Call}
    (h : ∀ (c : PhaseCall) (i : Invoker), ∃ marked ran : List String,
      (marked ++ i.processed.names).Nodup ∧ (∀ n ∈ marked, n ∈ (c.after i).processed) ∧
        ran.Subperm marked ∧ ∀ n, (c.calls i).count (hook n) = ran.count n) :
    OnceInCall hook := by
  have hmem (c : PhaseCall) (i : Invoker) (n : String) (hn : hook n ∈ c.calls i) :
      n ∉ i.processed ∧ n ∈ (c.after i).processed := by
    obtain ⟨marked, ran, hnodup, hafter, hsub, hcount⟩ := h c i
    have hran : n ∈ ran := by
      rw [← List.count_pos_iff, ← hcount n]
      exact List.count_pos_iff.2 hn
    have hmarked := hsub.subset hran
    exact ⟨fun hi => (List.nodup_append.1 hnodup).2.2 n hmarked n hi rfl, hafter n hmarked⟩
  refine ⟨fun c i n => ?_, fun c i n hn => (hmem c i n hn).1, fun c i n hn => (hmem c i n hn).2⟩
  obtain ⟨marked, ran, hnodup, -, hsub, hcount⟩ := h c i
  rw [hcount n]
  have hle := hsub.count_le n
  have hone := List.nodup_iff_count.1 (List.nodup_append.1 hnodup).1 n
  omega

lemma onceInCall_mutated : OnceInCall .mutated := by
  refine onceInCall_of fun c i => ?_
  obtain ⟨marked, mutated, _, hnodup, hafter, hsub, _, hcount⟩ := c.exists_marked i
  exact ⟨marked, mutated, hnodup, hafter, hsub, fun n => (hcount n).1⟩

lemma onceInCall_finalized : OnceInCall .finalized := by
  refine onceInCall_of fun c i => ?_
  obtain ⟨marked, _, finalized, hnodup, hafter, _, hsub, hcount⟩ := c.exists_marked i
  exact ⟨marked, finalized, hnodup, hafter, hsub, fun n => (hcount n).2⟩

lemma not_requested {c : PhaseCall} {i : Invoker} {n : String}
    (hn : n ∈ i.processed ∨ ∃ item ∈ c.supplied, item.name = n) :
    .requested n ∉ c.calls i := by
  obtain ⟨t, -, hcalls, _, requested, _, _, h⟩ := c.exists_phaseEffect i
  have hrequests : t.calls.filterMap Call.request? = requested := h.effect.requests
  intro hc
  have hr : n ∈ requested := hrequests ▸ List.mem_filterMap.2 ⟨.requested n, hcalls ▸ hc, rfl⟩
  rcases hn with hi | ⟨item, hitem, rfl⟩
  · exact h.requested_new n hr hi
  · exact h.requested_unsupplied item hitem hr

/-- Over any mutation phases of one invoker: either hook of a name runs once at most; from the call
that runs one onward the name is processed; no name stops being processed; and no call requests a
name that is processed when it starts or that it is supplied with. -/
theorem hooks_once_over_phases (i : Invoker) (before after : List PhaseCall) (c : PhaseCall)
    (n : String) :
    let calls := before ++ c :: after
    let start := afterAll i before
    ((history i calls).count (.mutated n) ≤ 1 ∧ (history i calls).count (.finalized n) ≤ 1) ∧
      (.mutated n ∈ c.calls start ∨ .finalized n ∈ c.calls start →
        n ∈ (afterAll i calls).processed) ∧
      (n ∈ start.processed → n ∈ (afterAll i calls).processed) ∧
      (n ∈ start.processed ∨ (∃ item ∈ c.supplied, item.name = n) →
        .requested n ∉ c.calls start) := by
  intro calls start
  have hend : afterAll i calls = afterAll (c.after start) after := by
    rw [afterAll_append]
    rfl
  refine ⟨⟨?_, ?_⟩, fun hrun => ?_, fun hn => ?_, not_requested⟩
  · exact onceInCall_mutated.count_history_le i n calls
  · exact onceInCall_finalized.count_history_le i n calls
  · rw [hend]
    apply processed_afterAll
    rcases hrun with hrun | hrun
    · exact onceInCall_mutated.mem_after c start n hrun
    · exact onceInCall_finalized.mem_after c start n hrun
  · rw [hend]
    exact processed_afterAll (processed_after hn) after

end PhaseCall

end ComponentContainer
