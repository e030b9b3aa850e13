import ComponentContainer.Proofs.Orchestration.Recording
import ComponentContainer.Proofs.Orchestration.Rules
import Mathlib.Data.List.Perm.Subperm

/-! What an orchestrator marks, requests and runs between two states, and the effects of its single
steps. -/

namespace ComponentContainer

def Call.request? : Call → Option String
  | .requested name => some name
  | _ => none

def Call.isHook : Call → Bool
  | .mutated _ | .finalized _ => true
  | _ => false

def Surface.AlwaysEditable {σ : Type} (S : Surface σ) : Prop := ∀ s, (S.editable s).1 = true

namespace Orchestration

variable {σ : Type} {s t u : Orchestration (σ × List Call)}

structure Effect (s t : Orchestration (σ × List Call)) (marked requested : List String)
    (ran : List Call) : Prop where
  processed : t.invoker.processed.names.Perm (marked ++ s.invoker.processed.names)
  requests : t.calls.filterMap Call.request? = s.calls.filterMap Call.request? ++ requested
  hooks : t.calls.filter Call.isHook = s.calls.filter Call.isHook ++ ran

namespace Effect

variable {marked marked' requested requested' : List String} {ran ran' : List Call}

lemma refl (s : Orchestration (σ × List Call)) : Effect s s [] [] [] :=
  ⟨.refl _, by simp, by simp⟩

lemma trans (h : Effect s u marked requested ran) (h' : Effect u t marked' requested' ran') :
    Effect s t (marked ++ marked') (requested ++ requested') (ran ++ ran') := by
  refine ⟨?_, ?_, ?_⟩
  · refine (h'.processed.trans (h.processed.append_left marked')).trans ?_
    rw [← List.append_assoc]
    exact List.perm_append_comm.append_right _
  · rw [h'.requests, h.requests, List.append_assoc]
  · rw [h'.hooks, h.hooks, List.append_assoc]

lemma perm (h : Effect s t marked requested ran) (hp : marked.Perm marked') :
    Effect s t marked' requested ran :=
  ⟨h.processed.trans (hp.append_right _), h.requests, h.hooks⟩

lemma mem_processed (h : Effect s t marked requested ran) {n : String} :
    n ∈ t.invoker.processed ↔ n ∈ marked ∨ n ∈ s.invoker.processed :=
  h.processed.mem_iff.trans List.mem_append

lemma nodup (h : Effect s t marked requested ran) :
    (marked ++ s.invoker.processed.names).Nodup :=
  h.processed.nodup_iff.1 t.invoker.processed.nodup

lemma not_mem_of_mem_marked (h : Effect s t marked requested ran) {n : String}
    (hn : n ∈ marked) : n ∉ s.invoker.processed :=
  fun hs => (List.nodup_append.1 h.nodup).2.2 n hn n hs rfl

end Effect

lemma effect_of_calls {l : List Call} (hi : t.invoker = s.invoker) (hc : t.calls = s.calls ++ l) :
    Effect s t [] (l.filterMap Call.request?) (l.filter Call.isHook) := by
  refine ⟨?_, ?_, ?_⟩
  · rw [hi]
    exact .refl _
  · rw [hc, List.filterMap_append]
  · rw [hc, List.filter_append]

section

variable {α ε ε' : Type}

lemma ends_ask_inside (x : StateM σ α) (s : Orchestration (σ × List Call)) :
    Act.Ends (ask (View.inside x) : Act _ ε α) s (fun _ t => Effect s t [] [] [])
      (fun _ _ => False) :=
  effect_of_calls (l := []) rfl (List.append_nil _).symm

lemma ends_ask_recording (c : Call) (x : StateM σ α) (s : Orchestration (σ × List Call)) :
    Act.Ends (ask (Call.recording c x) : Act _ ε α) s
      (fun a t => (a, t.registry.1) = x s.registry.1 ∧
        Effect s t [] ([c].filterMap Call.request?) ([c].filter Call.isHook))
      (fun _ _ => False) :=
  ⟨rfl, effect_of_calls rfl rfl⟩

lemma ends_attempt (c : Call) (x : Act σ ε α) (g : ε → ε') (s : Orchestration (σ × List Call)) :
    Act.Ends ((attempt (Call.recordingAct c x)).adapt g) s
      (fun _ t => Effect s t [] ([c].filterMap Call.request?) ([c].filter Call.isHook))
      (fun _ t => Effect s t [] ([c].filterMap Call.request?) ([c].filter Call.isHook)) := by
  refine Act.Ends.adapt (Act.stays_of ?_) fun _ _ => id
  exact effect_of_calls rfl rfl

end

variable (S : Surface σ) (hooks : Hooks σ)

lemma ends_mark {name : String} {s : Orchestration (σ × List Call)}
    (hn : name ∉ s.invoker.processed) :
    Act.Ends (mark name : Act _ BootstrapError Unit) s (fun _ t => Effect s t [name] [] [])
      (fun _ _ => False) := by
  have hp : (s.invoker.processed.mark name).names = name :: s.invoker.processed.names := by
    rw [ProcessedSet.mark, dif_neg (show name ∉ s.invoker.processed.names from hn)]
  exact ⟨.of_eq hp, (List.append_nil _).symm, (List.append_nil _).symm⟩

lemma ends_markNew (name : String) (s : Orchestration (σ × List Call)) :
    Act.Ends (markNew name : Act _ BootstrapError Bool) s
      (fun isNew t => if isNew then Effect s t [name] [] []
        else name ∈ s.invoker.processed ∧ t = s)
      (fun _ _ => False) := by
  apply Act.ends_get_bind
  by_cases hn : name ∈ s.invoker.processed
  · rw [if_pos hn]
    exact ⟨hn, rfl⟩
  · rw [if_neg hn]
    exact (ends_mark hn).bind (fun _ _ h => h) (fun _ _ => id)

lemma ends_instantiate (phase : Phase) (name : String) (s : Orchestration (σ × List Call)) :
    Act.Ends (instantiate S.recorded phase name) s
      (fun c t => c.name = name ∧ Effect s t [] [name] []) (fun _ t => Effect s t [] [name] []) :=
  (ends_attempt _ _ _ _).bind (fun _ _ h => Act.ends_get_bind ⟨rfl, h⟩) (fun _ _ => id)

lemma ends_mutate (phase : Phase) (c : Candidate) (s : Orchestration (σ × List Call)) :
    Act.Ends (mutate S.recorded hooks.recorded phase c) s
      (fun ran t => (S.AlwaysEditable → ran = true) ∧
        Effect s t [] [] (if ran then [.mutated c.name] else []))
      (fun _ t => ∃ names : List String, names.Sublist [c.name] ∧
        Effect s t [] [] (names.map .mutated)) := by
  unfold mutate
  split
  · exact ⟨[], List.nil_sublist _, .refl s⟩
  refine (ends_ask_recording _ _ _).bind (fun editable u ⟨he, hu⟩ => ?_) (fun _ _ => False.elim)
  split
  · rename_i hf
    have hfalse : editable = false := by simpa using hf
    exact ⟨fun hS => hfalse.symm.trans ((congrArg Prod.fst he).trans (hS s.registry.1)), hu⟩
  refine (ends_attempt _ _ _ _).bind (fun _ v hv => ?_)
    (fun _ v hv => ⟨[c.name], .refl _, hu.trans hv⟩)
  refine Act.ends_get_bind ((ends_ask_inside _ _).bind (fun _ w hw => ?_) (fun _ _ => False.elim))
  exact ⟨fun _ => rfl, (hu.trans hv).trans hw⟩

lemma ends_mutateAll (phase : Phase) (batch : List Candidate)
    (s : Orchestration (σ × List Call)) :
    Act.Ends (mutateAll S.recorded hooks.recorded phase batch) s
      (fun names t => names.Sublist (batch.map (·.name)) ∧
        (S.AlwaysEditable → names = batch.map (·.name)) ∧ Effect s t [] [] (names.map .mutated))
      (fun _ t => ∃ names : List String, names.Sublist (batch.map (·.name)) ∧
        Effect s t [] [] (names.map .mutated)) := by
  apply mutateAll_rule (P := fun _ _ => True) trivial fun s _ => ⟨.refl _, fun _ => rfl, .refl s⟩
  intro s c rest _
  refine (ends_mutate S hooks phase c s).mono (fun ran u ⟨hran, hu⟩ => ?_)
    (fun _ u ⟨names, hn, hu⟩ => ⟨names, hn.trans (by simp), hu⟩)
  cases ran with
  | false =>
    refine ⟨trivial, fun names t ⟨hn, ha, ht⟩ => ?_, fun _ t ⟨names, hn, ht⟩ => ?_⟩
    · exact ⟨hn.cons _, fun hS => absurd (hran hS) Bool.false_ne_true, hu.trans ht⟩
    · exact ⟨names, hn.cons _, hu.trans ht⟩
  | true =>
    refine ⟨trivial, fun names t ⟨hn, ha, ht⟩ => ?_, fun _ t ⟨names, hn, ht⟩ => ?_⟩
    · exact ⟨hn.cons_cons _, fun hS => by simp [ha hS], hu.trans ht⟩
    · exact ⟨c.name :: names, hn.cons_cons _, hu.trans ht⟩

end Orchestration

end ComponentContainer
