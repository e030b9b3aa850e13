import ComponentContainer.Proofs.Orchestration.Exchanges
import ComponentContainer.Proofs.Orchestration.PhaseOrder

/-! The mutation phase on a registry that cannot be edited when the phase begins. It finalizes the
supplied extensions that are new, in the order in which they were supplied, up to the first failure,
and has nothing else to do with the registry but for the snapshots that it invalidates at last. -/

namespace ComponentContainer

variable {σ : Type}

def Supplied.finalized (item : Supplied) (answer : Except HookError Unit) : Dealing :=
  .finalized item.name item.extension answer

def Exchange.Finalizes (hooks : Hooks σ) (x : Exchange σ) : Prop :=
  ∀ name e answer, x.dealing = .finalized name e answer →
    hooks.finalize name e x.before = (answer, x.after)

lemma ProcessedSet.mark_of_mem {p : ProcessedSet} {name : String} (h : name ∈ p) :
    p.mark name = p := dif_pos h

namespace Orchestration

section

variable (S : Surface σ) (hooks : Hooks σ) (supplied : List Supplied) (o : Orchestration σ)

def begun : σ :=
  (S.record .info (s!"event=mutation_phase module=bootstrap status=start run_id={o.invoker.run} " ++
    s!"supplied={supplied.length}") o.registry).2

def ReadOnly : Prop := (S.editable (begun S supplied o)).1 = false

def due : List Supplied :=
  (firstNew o.invoker.processed supplied).filter (·.extension.hasFinalize)

def conclude (run : String) (phase : Act (Orchestration σ) BootstrapError MutationSummary) :
    Act (Orchestration σ) BootstrapError MutationSummary := do
  let summary ← tryCatch phase fun e => do
    record S .error <| s!"event=mutation_phase module=bootstrap status=error run_id={run} " ++
      s!"duration_ms=* error={e.message}"
    throw e
  ask S.invalidate
  record S .info <| s!"event=mutation_phase module=bootstrap status=ok run_id={run} " ++
    s!"mutated={summary.mutated.length} finalized={summary.finalized.length} " ++
    s!"rounds={summary.rounds} degraded={summary.degraded} duration_ms=*"
  return summary

variable {S supplied o} in
lemma mutationPhase_of_readOnly (h : ReadOnly S supplied o) : mutationPhase S hooks supplied o =
    conclude S o.invoker.run (mutateDegraded S hooks supplied)
      ⟨(S.editable (begun S supplied o)).2, o.invoker⟩ := by
  change conclude S o.invoker.run (if (S.editable (begun S supplied o)).1 = true then
    mutateRegistry S hooks supplied else mutateDegraded S hooks supplied)
      ⟨(S.editable (begun S supplied o)).2, o.invoker⟩ = _
  rw [if_neg (by rw [h]; exact Bool.false_ne_true)]

end

/-! ### What the phase has the registry and the extensions do -/

def Enters (hooks : Hooks σ) (o t : Orchestration (σ × List (Exchange σ)))
    (dealings : List Dealing) : Prop :=
  ∃ l, t.exchanges = o.exchanges ++ l ∧ l.map (·.dealing) = dealings ∧ ∀ x ∈ l, x.Finalizes hooks

section

variable {S : Surface σ} {hooks : Hooks σ} {o u t : Orchestration (σ × List (Exchange σ))}
  {ds ds' : List Dealing}

lemma Enters.of_eq (h : t.exchanges = o.exchanges) : Enters hooks o t [] :=
  ⟨[], h.trans (List.append_nil _).symm, rfl, fun _ hx => absurd hx List.not_mem_nil⟩

lemma Enters.trans (h : Enters hooks o u ds) (h' : Enters hooks u t ds') :
    Enters hooks o t (ds ++ ds') := by
  obtain ⟨l, hu, rfl, hl⟩ := h
  obtain ⟨l', ht, rfl, hl'⟩ := h'
  exact ⟨l ++ l', by rw [ht, hu, List.append_assoc], List.map_append,
    List.forall_mem_append.2 ⟨hl, hl'⟩⟩

lemma Enters.all (h : Enters hooks o t ds) (ho : o.exchanges = []) :
    (∀ x ∈ t.exchanges, x.Finalizes hooks) ∧ t.exchanges.map (·.dealing) = ds := by
  obtain ⟨l, ht, hl, hall⟩ := h
  rw [ht, ho, List.nil_append]
  exact ⟨hall, hl⟩

lemma Enters.finalized {item : Supplied} {answer : Except HookError Unit} {before after : σ}
    (hrun : hooks.finalize item.name item.extension before = (answer, after))
    (h : t.exchanges = o.exchanges ++ [⟨item.finalized answer, before, after⟩]) :
    Enters hooks o t [item.finalized answer] := by
  refine ⟨_, h, rfl, List.forall_mem_singleton.2 fun name e answer' hx => ?_⟩
  cases hx
  exact hrun

lemma ends_finalize_entered (item : Supplied) :
    Act.Ends (finalize S.audited hooks.audited item.name item.extension) o
      (fun names t => names = ([item].filter (·.extension.hasFinalize)).map (·.name) ∧
        t.invoker = o.invoker ∧
        Enters hooks o t (([item].filter (·.extension.hasFinalize)).map (·.finalized (.ok ()))))
      (fun e t => item.extension.hasFinalize = true ∧ ∃ source,
        e = .hook item.name .finalization source ∧
          Enters hooks o t [item.finalized (.error source)]) := by
  apply Act.ends_get_bind
  by_cases hfinalize : item.extension.hasFinalize = true
  · have hkept : [item].filter (·.extension.hasFinalize) = [item] := by simp [hfinalize]
    have hbehaviour : item.extension.behaviour.hasFinalize = true := hfinalize
    rw [if_pos hbehaviour, hkept]
    refine (ends_attempt_keeping o (.finalized item.name item.extension) _ _).bind
      (fun _ u ⟨hrun, hinvoker, hu⟩ => ?_) (fun e t ⟨source, he, hrun, _, ht⟩ => ?_)
    · refine (ends_record_aside u _ _).bind (fun _ t ⟨hsame, ht⟩ => ?_) (fun _ _ => False.elim)
      exact Act.ends_pure ⟨rfl, hsame.trans hinvoker, .finalized hrun (ht.trans hu)⟩
    · exact ⟨hfinalize, source, he, .finalized hrun ht⟩
  · have hdropped : [item].filter (·.extension.hasFinalize) = [] := by simp [hfinalize]
    have hbehaviour : ¬item.extension.behaviour.hasFinalize = true := hfinalize
    rw [if_neg hbehaviour, hdropped]
    refine (ends_record_aside o _ _).bind (fun _ t ⟨hinvoker, ht⟩ => ?_) (fun _ _ => False.elim)
    exact Act.ends_pure ⟨rfl, hinvoker, .of_eq ht⟩

lemma ends_markNew_marks (name : String) :
    Act.Ends (markNew name : Act _ BootstrapError Bool) o
      (fun isNew t => t.registry = o.registry ∧ isNew = decide (name ∉ o.invoker.processed) ∧
        t.invoker = { o.invoker with processed := o.invoker.processed.mark name })
      (fun _ _ => False) := by
  apply Act.ends_get_bind
  split
  · rename_i hmem
    exact Act.ends_pure ⟨rfl, by simpa using hmem, by rw [ProcessedSet.mark_of_mem hmem]⟩
  · rename_i hnew
    exact ⟨rfl, by simpa using hnew, rfl⟩

lemma ends_finalizeSupplied_entered (supplied : List Supplied) :
    Act.Ends (finalizeSupplied S.audited hooks.audited supplied) o
      (fun names t => names = (due supplied o).map (·.name) ∧
        t.invoker = { o.invoker with
          processed := o.invoker.processed.markAll (supplied.map (·.name)) } ∧
        Enters hooks o t ((due supplied o).map (·.finalized (.ok ()))))
      (fun e t => ∃ done item rest source, due supplied o = done ++ item :: rest ∧
        e = .hook item.name .finalization source ∧
          Enters hooks o t (done.map (·.finalized (.ok ())) ++ [item.finalized (.error source)])) := by
  apply finalizeSupplied_rule (P := fun _ _ => True) trivial fun _ _ => ⟨rfl, rfl, .of_eq rfl⟩
  intro o item rest _
  refine (ends_markNew_marks item.name).mono (fun isNew u ⟨hregistry, hnew, hu⟩ => ?_)
    (fun _ _ => False.elim)
  have hou : Enters hooks o u [] := .of_eq (congrArg Prod.snd hregistry)
  have hmarked : u.invoker.processed = o.invoker.processed.mark item.name :=
    congrArg Invoker.processed hu
  cases isNew with
  | false =>
    have hmem : item.name ∈ o.invoker.processed := by simpa using hnew.symm
    have hdue : due (item :: rest) o = due rest u := by
      rw [due, due, firstNew_cons_of_mem rest hmem, hmarked, ProcessedSet.mark_of_mem hmem]
    refine ⟨trivial, fun names t ⟨hnames, hinvoker, ht⟩ => ?_,
      fun e t ⟨done, last, later, source, hsplit, he, ht⟩ => ?_⟩
    · rw [hdue]
      refine ⟨hnames, ?_, hou.trans ht⟩
      rw [hinvoker, hu]
      rfl
    · exact ⟨done, last, later, source, hdue ▸ hsplit, he, hou.trans ht⟩
  | true =>
    have hmem : item.name ∉ o.invoker.processed := by simpa using hnew.symm
    have hdue : due (item :: rest) o =
        [item].filter (·.extension.hasFinalize) ++ due rest u := by
      rw [due, due, firstNew_cons_of_not_mem rest hmem, ← List.singleton_append,
        List.filter_append, hmarked]
    refine (ends_finalize_entered item).mono (fun ran v ⟨hran, hinvoker, hv⟩ => ?_)
      (fun e t ⟨hfinalize, source, he, ht⟩ => ?_)
    · have hov := hou.trans hv
      have hduev : due rest v = due rest u := by rw [due, due, hinvoker]
      refine ⟨trivial, fun names t ⟨hnames, hlast, ht⟩ => ?_,
        fun e t ⟨done, last, later, source, hsplit, he, ht⟩ => ?_⟩
      · rw [hdue, List.map_append, List.map_append, hran, hnames, hlast, hinvoker, hu, ← hduev]
        exact ⟨rfl, rfl, hov.trans ht⟩
      · refine ⟨[item].filter (·.extension.hasFinalize) ++ done, last, later, source, ?_, he, ?_⟩
        · rw [hdue, ← hduev, hsplit, ← List.append_assoc]
        · rw [List.map_append, List.append_assoc]
          exact hov.trans ht
    · refine ⟨[], item, due rest u, source, ?_, he, hou.trans ht⟩
      simp [hdue, hfinalize]

lemma ends_mutateDegraded_entered (supplied : List Supplied) :
    Act.Ends (mutateDegraded S.audited hooks.audited supplied) o
      (fun summary t =>
        summary = ⟨o.invoker.run, [], (due supplied o).map (·.name), 0, true⟩ ∧
        t.invoker = { o.invoker with
          processed := o.invoker.processed.markAll (supplied.map (·.name)) } ∧
        Enters hooks o t ((due supplied o).map (·.finalized (.ok ()))))
      (fun e t => ∃ done item rest source, due supplied o = done ++ item :: rest ∧
        e = .hook item.name .finalization source ∧
          Enters hooks o t (done.map (·.finalized (.ok ())) ++ [item.finalized (.error source)])) := by
  apply Act.ends_get_bind
  refine (ends_record_aside o _ _).bind (fun _ u ⟨hinvoker, hu⟩ => ?_) (fun _ _ => False.elim)
  have hdue : due supplied u = due supplied o := by
    unfold due
    rw [hinvoker]
  refine (ends_finalizeSupplied_entered supplied).bind (fun names t ⟨hnames, hlast, ht⟩ => ?_)
    (fun e t ⟨done, item, rest, source, hsplit, he, ht⟩ => ?_)
  · rw [hdue] at hnames ht
    rw [hinvoker] at hlast
    refine Act.ends_pure ⟨?_, hlast, (Enters.of_eq hu).trans ht⟩
    rw [hnames]
  · exact ⟨done, item, rest, source, hdue ▸ hsplit, he, (Enters.of_eq hu).trans ht⟩

variable (S hooks) in
lemma ends_conclude_entered (supplied : List Supplied) (run : String) (ho : o.exchanges = []) :
    Act.Ends (conclude S.audited run (mutateDegraded S.audited hooks.audited supplied)) o
      (fun summary t =>
        summary = ⟨o.invoker.run, [], (due supplied o).map (·.name), 0, true⟩ ∧
        t.invoker = { o.invoker with
          processed := o.invoker.processed.markAll (supplied.map (·.name)) } ∧
        (∀ x ∈ t.exchanges, x.Finalizes hooks) ∧
        t.exchanges.map (·.dealing) = (due supplied o).map (·.finalized (.ok ())) ++ [.invalidated])
      (fun e t => (∀ x ∈ t.exchanges, x.Finalizes hooks) ∧
        ∃ done item rest source, due supplied o = done ++ item :: rest ∧
          e = .hook item.name .finalization source ∧ t.exchanges.map (·.dealing) =
            done.map (·.finalized (.ok ())) ++ [item.finalized (.error source)]) := by
  refine Act.Ends.bind ((ends_mutateDegraded_entered supplied).tryCatch
    fun e u ⟨done, item, rest, source, hsplit, he, hu⟩ => ?_)
    (fun summary u ⟨hsummary, hinvoker, hu⟩ => ?_) (fun _ _ => id)
  · refine (ends_record_aside u _ _).bind (fun _ t ⟨_, ht⟩ => ?_) (fun _ _ => False.elim)
    obtain ⟨hall, hdealings⟩ := hu.all ho
    rw [← ht] at hdealings hall
    exact ⟨hall, done, item, rest, source, hsplit, he, hdealings⟩
  · refine (ends_ask_keeping u (fun _ => .invalidated) _).bind (fun _ v ⟨_, hsame, hv⟩ => ?_)
      (fun _ _ => False.elim)
    refine (ends_record_aside v _ _).bind (fun _ t ⟨hlast, ht⟩ => ?_) (fun _ _ => False.elim)
    obtain ⟨hall, hdealings⟩ := hu.all ho
    refine Act.ends_pure ⟨hsummary, (hlast.trans hsame).trans hinvoker, ?_, ?_⟩
    · rw [ht, hv]
      exact List.forall_mem_append.2 ⟨hall, List.forall_mem_singleton.2 nofun⟩
    · rw [ht, hv, List.map_append, hdealings]
      rfl

end

/-! ### What the phase does not depend on -/

section

variable {S S' : Surface σ} {hooks hooks' : Hooks σ} (hrecord : S'.record = S.record)
  (hfinalize : hooks'.finalize = hooks.finalize)

include hrecord

lemma record_congr (level : Level) (message : String) :
    (record S' level message : Act (Orchestration σ) BootstrapError Unit) = record S level message := by
  unfold record
  rw [hrecord]

include hfinalize

lemma finalizeSupplied_congr (supplied : List Supplied) :
    finalizeSupplied S' hooks' supplied = finalizeSupplied S hooks supplied := by
  have hone (name : String) (e : Extension) : finalize S' hooks' name e = finalize S hooks name e := by
    unfold finalize
    simp only [record_congr hrecord, hfinalize]
  induction supplied with
  | nil => rfl
  | cons item rest ih =>
    unfold finalizeSupplied
    rw [ih, hone]

lemma conclude_congr (hinvalidate : S'.invalidate = S.invalidate) (supplied : List Supplied)
    (run : String) : conclude S' run (mutateDegraded S' hooks' supplied) =
      conclude S run (mutateDegraded S hooks supplied) := by
  unfold conclude mutateDegraded
  simp only [record_congr hrecord, finalizeSupplied_congr hrecord hfinalize, hinvalidate]

end

end Orchestration

open Orchestration

/-- The phase where the registry cannot be edited at its start. A success has finalized what was due,
in the order of the supplied list, and then invalidated the snapshots, once; all that was supplied is
processed. An error is that of the first hook that failed; what was due before it was finalized, and
nothing happened after it. The registry was not searched, and it created nothing: the phase is the
same on any other that records, invalidates and answers alike whether it can be edited. What runs for
a mutator is its own script, also where it has a finalizer. -/
theorem mutationPhase_readOnly (S : Surface σ) (hooks : Hooks σ) (supplied : List Supplied)
    (o : Orchestration σ) (h : ReadOnly S supplied o) :
    let log := phaseExchanges S hooks supplied o
    Act.Ends (mutationPhase S hooks supplied) o
      (fun summary t => summary = ⟨o.invoker.run, [], (due supplied o).map (·.name), 0, true⟩ ∧
        (∀ n, n ∈ t.invoker.processed ↔
          n ∈ o.invoker.processed ∨ n ∈ supplied.map (·.name)) ∧
        log.map (·.dealing) = (due supplied o).map (·.finalized (.ok ())) ++ [.invalidated])
      (fun e _ => ∃ done item rest source, due supplied o = done ++ item :: rest ∧
        e = .hook item.name .finalization source ∧
        log.map (·.dealing) =
          done.map (·.finalized (.ok ())) ++ [item.finalized (.error source)]) ∧
    (∀ x ∈ log, x.Finalizes hooks) ∧
    (∀ (S' : Surface σ) (hooks' : Hooks σ), S'.editable = S.editable → S'.record = S.record →
      S'.invalidate = S.invalidate → hooks'.finalize = hooks.finalize →
      mutationPhase S' hooks' supplied o = mutationPhase S hooks supplied o) ∧
    ∀ lib, hooks = .scripted lib S → ∀ x ∈ log, ∀ name e answer id families script,
      x.dealing = .finalized name e answer → e.behaviour = .scripted id families →
      families.mutator = some script →
      (do
        S.note (.finalizeMutator id)
        (Script.run S.note (Script.performOn lib S) id script.finalize).adapt (·.toHookError) :
          Act σ HookError Unit) x.before = (answer, x.after) := by
  intro log
  let start : Orchestration (σ × List (Exchange σ)) := ⟨(o.registry, []), o.invoker⟩
  have hopened : ReadOnly S.audited supplied start := h
  let opened : Orchestration (σ × List (Exchange σ)) :=
    ⟨(S.audited.editable (begun S.audited supplied start)).2, o.invoker⟩
  have hnone : opened.exchanges = [] := rfl
  have hends := ends_conclude_entered S hooks supplied o.invoker.run hnone
  have hplain := mutationPhase_audited S hooks supplied start
  have hlog : (mutationPhase S.audited hooks.audited supplied start).2.exchanges = log := rfl
  rw [mutationPhase_of_readOnly hooks.audited hopened] at hplain hlog
  have hall : ∀ x ∈ log, x.Finalizes hooks := by
    rw [← hlog]
    exact Act.Ends.state (hends.mono (fun _ _ ht => ht.2.2.1) (fun _ _ ht => ht.1))
  refine ⟨?_, hall, fun S' hooks' heditable hrecord hinvalidate hfinalize => ?_, ?_⟩
  · refine Act.ends_of (fun summary t hok => ?_) (fun e t herror => ?_)
    · obtain ⟨hanswer, rfl⟩ := Prod.mk.inj (hplain.symm.trans hok)
      obtain ⟨hsummary, hinvoker, -, hdealings⟩ := hends.ok (Prod.ext hanswer rfl)
      refine ⟨hsummary, fun n => ?_, hlog ▸ hdealings⟩
      have hprocessed := congrArg Invoker.processed hinvoker
      exact (iff_of_eq (congrArg (n ∈ ·) hprocessed)).trans ProcessedSet.mem_markAll
    · obtain ⟨hanswer, -⟩ := Prod.mk.inj (hplain.symm.trans herror)
      obtain ⟨-, done, item, rest, source, hsplit, he, hdealings⟩ :=
        hends.error (Prod.ext hanswer rfl)
      exact ⟨done, item, rest, source, hsplit, he, hlog ▸ hdealings⟩
  · have hopened' : begun S' supplied o = begun S supplied o := by
      unfold begun
      rw [hrecord]
    have h' : ReadOnly S' supplied o := by
      unfold ReadOnly
      rw [heditable, hopened']
      exact h
    rw [mutationPhase_of_readOnly hooks h, mutationPhase_of_readOnly hooks' h',
      conclude_congr hrecord hfinalize hinvalidate, hopened', heditable]
  · rintro lib rfl x hx name ⟨stamp, b⟩ answer id families script hdealing rfl hmutator
    obtain ⟨mutator, finalizer, hook, merge, listener⟩ := families
    obtain rfl : mutator = some script := hmutator
    exact hall x hx name _ answer hdealing

def Surface.frozen : Surface (Session × Option ℕ) :=
  View.surface ⟨some 0, [], [], [], false⟩ (Session.surface ⟨⟨"", "", "", "", "", "", ""⟩, [], []⟩)

def Hooks.frozen : Hooks (Session × Option ℕ) :=
  .scripted ⟨⟨"", "", "", "", "", "", ""⟩, [], []⟩ .frozen

def Orchestration.frozen : Orchestration (Session × Option ℕ) :=
  ⟨(∅, some 0), { Invoker.new "" with processed := (∅ : ProcessedSet).mark "old" }⟩

def Supplied.frozen : List Supplied :=
  let finalizer (steps : List Step) : Extension := ⟨0, .scripted "" ⟨none, some steps, none, none, none⟩⟩
  [⟨"old", finalizer []⟩,
    ⟨"mutator", ⟨1, .scripted "" ⟨some ⟨[], []⟩, some [⟨.fail "never", false⟩], none, none, none⟩⟩⟩,
    ⟨"idle", ⟨2, .inert⟩⟩, ⟨"mutator", finalizer []⟩, ⟨"last", finalizer []⟩,
    ⟨"faulty", finalizer [⟨.fail "no", false⟩]⟩, ⟨"unreached", finalizer []⟩]

theorem frozen_readOnly :
    (∃ e e', (phaseExchanges .frozen .frozen (Supplied.frozen.take 5) .frozen).map (·.dealing) =
      [.finalized "mutator" e (.ok ()), .finalized "last" e' (.ok ()), .invalidated]) ∧
    (∃ e e' e'', (phaseExchanges .frozen .frozen Supplied.frozen .frozen).map (·.dealing) =
      [.finalized "mutator" e (.ok ()), .finalized "last" e' (.ok ()),
        .finalized "faulty" e'' (.error (.plain "no"))]) := by
  have hopen (supplied : List Supplied) : ReadOnly .frozen supplied .frozen := rfl
  constructor
  · have hanswer : (mutationPhase .frozen .frozen (Supplied.frozen.take 5) .frozen).1 =
        .ok ⟨"", [], ["mutator", "last"], 0, true⟩ := by decide +kernel
    obtain ⟨hends, -⟩ := mutationPhase_readOnly _ Hooks.frozen _ _ (hopen (Supplied.frozen.take 5))
    exact ⟨_, _, (hends.ok (Prod.ext hanswer rfl)).2.2⟩
  · have hanswer : (mutationPhase .frozen .frozen Supplied.frozen .frozen).1 =
        .error (.hook "faulty" .finalization (.plain "no")) := by decide +kernel
    obtain ⟨hends, -⟩ := mutationPhase_readOnly _ Hooks.frozen _ _ (hopen Supplied.frozen)
    obtain ⟨done, item, rest, source, hsplit, he, hlog⟩ := hends.error (Prod.ext hanswer rfl)
    injection he with hname _ hsource
    have hnames : (done ++ item :: rest).map (·.name) =
        ["mutator", "last", "faulty", "unreached"] := by
      rw [← hsplit]
      decide
    rw [List.map_append, List.map_cons, ← hname] at hnames
    rcases done with _ | ⟨a, _ | ⟨b, _ | ⟨c, done⟩⟩⟩
    · simp at hnames
    · simp at hnames
    · obtain ⟨ha, hb, -⟩ : a.name = "mutator" ∧ b.name = "last" ∧ _ := by simpa using hnames
      refine ⟨a.extension, b.extension, item.extension, ?_⟩
      rw [hlog, ← hsource, ← ha, ← hb, hname]
      rfl
    · simp only [List.map_cons, List.cons_append, List.cons.injEq] at hnames
      have hmem : "faulty" ∈ ["unreached"] := hnames.2.2.2 ▸ List.mem_append_right _ (.head _)
      exact absurd hmem (by decide)

end ComponentContainer
