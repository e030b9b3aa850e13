import ComponentContainer.Proofs.Orchestration.FixedPoint

/-! Mutators that are declared after the discovery loop. A name that is not processed when the loop
ends is never mutated in the phase: it may be finalized, or it is left over. -/

namespace ComponentContainer

namespace Orchestration

variable {σ : Type} {S : Surface σ} {hooks : Hooks σ} {supplied : List Supplied}
  {s o t u : Orchestration (σ × List Call)}

structure LoopEnd (supplied : List Supplied) (s o t : Orchestration (σ × List Call))
    (summary : MutationSummary) : Prop where
  mutates : Mutates supplied summary.mutated s o
  hooks : t.calls.filter Call.isHook =
    o.calls.filter Call.isHook ++ summary.finalized.map .finalized
  finalized_new : ∀ n ∈ summary.finalized, n ∉ s.invoker.processed

lemma sublist_hooks_iff {l : List Call} {n : String} :
    [.mutated n, .finalized n].Sublist (l.filter Call.isHook) ↔
      [.mutated n, .finalized n].Sublist l :=
  ⟨fun h => h.trans List.filter_sublist, fun h => h.filter Call.isHook⟩

lemma mutated_before_finalized_iff {l : List Call} {mutated finalized : List String} {n : String}
    (hl : l.filter Call.isHook = mutated.map .mutated ++ finalized.map .finalized) :
    [.mutated n, .finalized n].Sublist l ↔ n ∈ mutated ∧ n ∈ finalized := by
  rw [← sublist_hooks_iff, hl]
  constructor
  · intro h
    have hm := h.subset (show Call.mutated n ∈ [.mutated n, .finalized n] by simp)
    have hf := h.subset (show Call.finalized n ∈ [.mutated n, .finalized n] by simp)
    constructor
    · simpa using hm
    · simpa using hf
  · rintro ⟨hm, hf⟩
    have hm := List.singleton_sublist.2 (List.mem_map_of_mem (f := Call.mutated) hm)
    have hf := List.singleton_sublist.2 (List.mem_map_of_mem (f := Call.finalized) hf)
    exact hm.append hf

namespace LoopEnd

variable {summary : MutationSummary} {r : Orchestration (σ × List Call)} {n : String}

lemma hooks_eq (h : LoopEnd supplied s o t summary) : t.calls.filter Call.isHook =
    summary.mutated.map .mutated ++ summary.finalized.map .finalized := by
  rw [h.hooks, h.mutates.hooks]

lemma mutated_first (h : LoopEnd supplied s o t summary) (hn : n ∈ summary.finalized)
    (hunsupplied : ∀ item ∈ supplied, item.name ≠ n) :
    [.mutated n, .finalized n].Sublist t.calls ↔ n ∈ o.invoker.processed := by
  rw [mutated_before_finalized_iff h.hooks_eq]
  constructor
  · exact fun hm => (h.mutates.processed n).2 (.inr (.inr hm.1))
  · exact fun ho => ⟨h.mutates.mutated_of_processed ho (h.finalized_new n hn) hunsupplied, hn⟩

lemma count_mutated (h : LoopEnd supplied s o t summary) :
    t.calls.count (.mutated n) = o.calls.count (.mutated n) := by
  have hhook : Call.isHook (.mutated n) = true := rfl
  rw [← List.count_filter hhook, h.hooks, List.count_append, List.count_filter hhook,
    Nat.add_eq_left, List.count_eq_zero]
  simp

lemma after (h : LoopEnd supplied u o r summary) (hu : u.invoker = s.invoker)
    (ht : Effect r t [] [] []) : LoopEnd supplied s o t summary := by
  refine ⟨⟨h.mutates.hooks, h.mutates.nodup, hu ▸ h.mutates.processed⟩, ?_,
    hu ▸ h.finalized_new⟩
  rw [ht.hooks, h.hooks, List.append_nil]

end LoopEnd

lemma ends_mutateRegistry_late (hooks : Hooks σ) (supplied : List Supplied)
    (hS : S.AlwaysEditable) (hs : s.calls.filter Call.isHook = []) :
    Act.Ends (mutateRegistry S.recorded hooks.recorded supplied) s
      (fun summary t => ∃ m o, settle S.recorded hooks.recorded supplied s = (.ok m, o) ∧
        LoopEnd supplied s o t summary)
      (fun _ _ => True) := by
  refine (Act.ends_self.and ((ends_settle S hooks supplied s).and
    (ends_settle_mutates S hooks supplied hS hs))).bind
    (fun m o ⟨hsettle, ⟨_, _, _, _, _, ho⟩, hm⟩ => ?_) (fun _ _ _ => trivial)
  refine (ends_finalizeSettled S hooks m o).bind (fun handled v ⟨hhandled, hv⟩ => ?_)
    (fun _ _ _ => trivial)
  refine (ends_finalizeDiscovered S hooks v).bind (fun found t ⟨marked, _, ht⟩ => ?_)
    (fun _ _ _ => trivial)
  refine Act.ends_get_bind ⟨m, o, hsettle, hm, ?_, fun n hn hs => ?_⟩
  · rw [ht.effect.hooks, hv.hooks, List.append_assoc, ← List.map_append]
  · rcases List.mem_append.1 hn with hn | hn
    · exact ho.effect.not_mem_of_mem_marked (hhandled.subset hn) hs
    · have hnew := ht.effect.not_mem_of_mem_marked (ht.ran_subperm.subset hn)
      exact hnew (hv.mem_processed.2 (.inr (ho.effect.mem_processed.2 (.inr hs))))

end Orchestration

open Orchestration

variable (lib : Catalog)

lemma ends_mutationPhase_late (s : Session) (i : Invoker) (supplied : List Supplied) :
    Act.Ends (mutationPhase (Session.surface lib).recorded
        (Hooks.scripted lib (Session.surface lib)).recorded supplied) ⟨(s, []), i⟩
      (fun summary t => ∃ line m o, settle (Session.surface lib).recorded
          (Hooks.scripted lib (Session.surface lib)).recorded supplied
          ⟨((Session.record .info line s).2, [.checked]), i⟩ = (.ok m, o) ∧
        LoopEnd supplied ⟨(s, []), i⟩ o t summary)
      (fun _ _ => True) := by
  apply mutationPhase_rule
  intro line
  let u : Orchestration (Session × List Call) := ⟨((Session.record .info line s).2, [.checked]), i⟩
  have hu : u.calls.filter Call.isHook = [] := rfl
  change Act.Ends (mutateRegistry _ _ supplied) u _ _
  refine (ends_mutateRegistry_late (Hooks.scripted lib (Session.surface lib)) supplied
    (surface_alwaysEditable lib) hu).mono (fun summary r ⟨m, o, hsettle, hr⟩ => ?_)
    (fun _ _ _ _ => Act.ends_true)
  refine (ends_ask_recording _ _ _).mono (fun _ v ⟨_, hv⟩ line' => ?_) (fun _ _ => False.elim)
  exact (ends_ask_inside _ _).mono
    (fun _ t ht => ⟨line, m, o, hsettle, hr.after rfl (hv.trans ht)⟩) (fun _ _ => False.elim)

/-- The discovery loop of a phase ends in a fixed point. At its end, before any finalize hook, all
declared mutators are processed; the phase mutates those that were neither processed before nor
supplied exactly once, and from there on runs finalize hooks only. -/
theorem mutationPhase_reaches_fixed_point (s : Session) (i : Invoker) (supplied : List Supplied)
    {summary : MutationSummary} {t : Orchestration (Session × List Call)}
    (h : mutationPhase (Session.surface lib).recorded
      (Hooks.scripted lib (Session.surface lib)).recorded supplied ⟨(s, []), i⟩ =
        (.ok summary, t)) :
    ∃ line m o, settle (Session.surface lib).recorded
        (Hooks.scripted lib (Session.surface lib)).recorded supplied
        ⟨((Session.record .info line s).2, [.checked]), i⟩ = (.ok m, o) ∧
      (∀ n, .finalized n ∉ o.calls) ∧
      t.calls.filter Call.isHook =
        o.calls.filter Call.isHook ++ summary.finalized.map .finalized ∧
      ∀ n ∈ o.registry.1.registry.declaring .registryMutator, n ∈ o.invoker.processed ∧
        (n ∉ i.processed → (∀ item ∈ supplied, item.name ≠ n) →
          n ∈ summary.mutated ∧ t.calls.count (.mutated n) = 1) := by
  obtain ⟨line, m, o, hsettle, hend⟩ := (ends_mutationPhase_late lib s i supplied).ok h
  refine ⟨line, m, o, hsettle, fun n => hend.mutates.not_finalized, hend.hooks, fun n hn => ?_⟩
  have hprocessed := (ends_settle_session lib supplied _).ok hsettle n hn
  refine ⟨hprocessed, fun hnew hunsupplied => ?_⟩
  have hmutated := hend.mutates.mutated_of_processed hprocessed hnew hunsupplied
  exact ⟨hmutated, hend.count_mutated.trans (hend.mutates.count_mutated hmutated)⟩

/-- Which mutators a phase mutates. When its discovery loop ends, all declared mutators are
processed; a name that is not processed by then is not mutated in the phase, before it is finalized
or at all, and every other is one that was processed before, supplied or mutated. -/
theorem mutated_first_iff_processed_at_loop_end (s : Session) (i : Invoker)
    (supplied : List Supplied) {summary : MutationSummary} {t : Orchestration (Session × List Call)}
    (h : mutationPhase (Session.surface lib).recorded
      (Hooks.scripted lib (Session.surface lib)).recorded supplied ⟨(s, []), i⟩ =
        (.ok summary, t)) :
    ∃ line m o, settle (Session.surface lib).recorded
        (Hooks.scripted lib (Session.surface lib)).recorded supplied
        ⟨((Session.record .info line s).2, [.checked]), i⟩ = (.ok m, o) ∧
      (∀ n ∈ o.registry.1.registry.declaring .registryMutator, n ∈ o.invoker.processed) ∧
      (∀ n ∈ summary.finalized, (∀ item ∈ supplied, item.name ≠ n) →
        n ∉ i.processed ∧
          ([.mutated n, .finalized n].Sublist t.calls ↔ n ∈ o.invoker.processed)) ∧
      ∀ n, n ∈ i.processed ∨ (∃ item ∈ supplied, item.name = n) ∨ n ∈ summary.mutated ↔
        n ∈ o.invoker.processed := by
  obtain ⟨line, m, o, hsettle, hend⟩ := (ends_mutationPhase_late lib s i supplied).ok h
  refine ⟨line, m, o, hsettle, (ends_settle_session lib supplied _).ok hsettle, ?_, ?_⟩
  · exact fun n hn hunsupplied => ⟨hend.finalized_new n hn, hend.mutated_first hn hunsupplied⟩
  · exact fun n => (hend.mutates.processed n).symm

def Catalog.late : Catalog where
  typeNames := ⟨"", "", "", "", "", "", ""⟩
  blueprints := [.mutator "m" .untagged 0]
  extensions := [.mutator [] []]

def Supplied.registering : Supplied :=
  ⟨"s", 1, .scripted "s" ⟨none, some [⟨.edit (.register 0), false⟩], none, none, none⟩⟩

def lateRun : Except BootstrapError MutationSummary × Orchestration (Session × List Call) :=
  mutationPhase (Session.surface .late).recorded
    (Hooks.scripted .late (Session.surface .late)).recorded [.registering]
    ⟨(Session.empty, []), .new ""⟩

lemma eq_mk_snd {α β : Type} {p : α × β} {a : α} (h : p.1 = a) : p = (a, p.2) := Prod.ext h rfl

lemma lateRun_eq : lateRun = (.ok ⟨"", [], ["s", "m"], 0, false⟩, lateRun.2) :=
  eq_mk_snd (by decide +kernel)

theorem late_mutator_unprocessed_at_loop_end : ∃ line m o,
    settle (Session.surface .late).recorded
      (Hooks.scripted .late (Session.surface .late)).recorded [.registering]
      ⟨((Session.record .info line Session.empty).2, [.checked]), .new ""⟩ = (.ok m, o) ∧
    "m" ∉ o.invoker.processed := by
  obtain ⟨line, m, o, hsettle, -, -, h⟩ :=
    mutated_first_iff_processed_at_loop_end .late .empty (.new "") [.registering] lateRun_eq
  refine ⟨line, m, o, hsettle, fun hm => ?_⟩
  rcases (h "m").2 hm with hm | ⟨item, hitem, hm⟩ | hm
  · exact ProcessedSet.not_mem_empty "m" hm
  · rw [List.mem_singleton.1 hitem] at hm
    exact absurd hm (by decide)
  · exact absurd hm List.not_mem_nil

theorem late_mutator_only_finalized :
    ∃ (summary : MutationSummary) (t : Orchestration (Session × List Call)),
      lateRun = (.ok summary, t) ∧ "m" ∈ summary.finalized ∧
      "m" ∈ t.registry.1.registry.declaring .registryMutator ∧ .mutated "m" ∉ t.calls ∧
      "m" ∉ (Invoker.new "").processed ∧ "m" ≠ Supplied.registering.name ∧
      "m" ∉ summary.mutated := by
  have hdeclared : "m" ∈ lateRun.2.registry.1.registry.declaring .registryMutator := by
    decide +kernel
  have hcalls : .mutated "m" ∉ lateRun.2.calls := by decide +kernel
  exact ⟨_, lateRun.2, lateRun_eq, by simp, hdeclared, hcalls, by decide,
    by decide, by simp⟩

end ComponentContainer
