import ComponentContainer.Proofs.Origin
import ComponentContainer.Proofs.Reachable
import ComponentContainer.Proofs.Reporting

/-! The calls of hooks that a creation makes once its factory has handed out an instance, as one
fold over all that is due: merge-aware entries see the definition, and then the instance goes
through both stages of the instance hooks. -/

namespace ComponentContainer

namespace Creation

structure Slot where
  stage : InitStage
  entry : PipelineEntry
  deriving DecidableEq

def attends (stage : InitStage) (entry : PipelineEntry) : Bool :=
  match stage with
  | .definition => entry.extension.behaviour.merge.isSome
  | .beforeInit | .afterInit => entry.extension.behaviour.isInstanceHook

def slotsOf (stage : InitStage) (p : Pipeline) : List Slot :=
  (p.filter (attends stage)).map (⟨stage, ·⟩)

def slots (p : Pipeline) : List Slot :=
  slotsOf .definition p ++ slotsOf .beforeInit p ++ slotsOf .afterInit p

lemma slotsOf_cons_of_pos {stage : InitStage} {entry : PipelineEntry}
    (h : attends stage entry = true) (rest : Pipeline) :
    slotsOf stage (entry :: rest) = ⟨stage, entry⟩ :: slotsOf stage rest := by
  rw [slotsOf, List.filter_cons_of_pos h]
  rfl

lemma slotsOf_cons_of_neg {stage : InitStage} {entry : PipelineEntry}
    (h : ¬attends stage entry = true) (rest : Pipeline) :
    slotsOf stage (entry :: rest) = slotsOf stage rest := by
  rw [slotsOf, List.filter_cons_of_neg h]
  rfl

lemma stage_of_mem_slotsOf {stage : InitStage} {p : Pipeline} {x : Slot}
    (h : x ∈ slotsOf stage p) : x.stage = stage := by
  obtain ⟨entry, -, rfl⟩ := List.mem_map.1 h
  rfl

lemma filter_stage_concat (stage : InitStage) (l : List Slot) (x : Slot) :
    (l ++ [x]).filter (·.stage = stage) =
      l.filter (·.stage = stage) ++ if x.stage = stage then [x] else [] := by
  rw [List.filter_append, List.filter_singleton]
  simp

def Slot.call (lib : Catalog) (d : Definition) (ctx : InitContext) (x : Slot) (i : Instance) :
    Act Session HookError (Option Instance) :=
  match x.stage with
  | .definition => do
    x.entry.extension.onDefinition d
    return some i
  | .beforeInit => x.entry.extension.beforeInit lib i ctx
  | .afterInit => x.entry.extension.afterInit lib i ctx

structure HookCall where
  slot : Slot
  given : Instance
  answer : Except HookError (Option Instance)
  before : Session
  after : Session

namespace HookCall

def left (c : HookCall) : Instance :=
  match c.answer with
  | .ok (some i) => i
  | .ok none | .error _ => c.given

def vetoes (c : HookCall) : Bool :=
  match c.answer with
  | .ok none => true
  | .ok (some _) | .error _ => false

def failure? (c : HookCall) (component : String) : Option RegistryError :=
  match c.answer with
  | .error e => some (.hook component c.slot.entry.name c.slot.stage e)
  | .ok _ => none

def Chain : Instance → Session → List HookCall → Instance → Session → Prop
  | i, s, [], j, t => i = j ∧ s = t
  | i, s, c :: rest, j, t => c.given = i ∧ c.before = s ∧ Chain c.left c.after rest j t

lemma Chain.concat {i j : Instance} {s t : Session} {calls : List HookCall} {c : HookCall}
    (h : Chain i s calls j t) (hgiven : c.given = j) (hbefore : c.before = t) :
    Chain i s (calls ++ [c]) c.left c.after := by
  induction calls generalizing i s with
  | nil =>
    obtain ⟨rfl, rfl⟩ := h
    exact ⟨hgiven, hbefore, rfl, rfl⟩
  | cons c' rest ih => exact ⟨h.1, h.2.1, ih h.2.2⟩

end HookCall

/-- How far a creation has come: the instance in hand, the calls that were made, the stages that
were ended by a veto, and the error of the call that failed. -/
structure Fitting where
  current : Instance
  session : Session
  calls : List HookCall
  vetoed : List InitStage
  failure : Option RegistryError

namespace Fitting

def start (made : Instance) (s : Session) : Fitting := ⟨made, s, [], [], none⟩

variable (lib : Catalog) (d : Definition) (ctx : InitContext)

def take (f : Fitting) (x : Slot) : Fitting :=
  if f.failure.isSome ∨ x.stage ∈ f.vetoed then f
  else
    let run := x.call lib d ctx f.current f.session
    let c : HookCall := ⟨x, f.current, run.1, f.session, run.2⟩
    { current := c.left
      session := run.2
      calls := f.calls ++ [c]
      vetoed := if c.vetoes then x.stage :: f.vetoed else f.vetoed
      failure := c.failure? ctx.component }

def nextCall (f : Fitting) (x : Slot) : HookCall :=
  ⟨x, f.current, (x.call lib d ctx f.current f.session).1, f.session,
    (x.call lib d ctx f.current f.session).2⟩

def takeAll (l : List Slot) (f : Fitting) : Fitting := l.foldl (take lib d ctx) f

def result (f : Fitting) : Except RegistryError Instance :=
  match f.failure with
  | some e => .error e
  | none => .ok f.current

variable {lib d ctx} {f : Fitting} {x : Slot}

lemma take_idle (h : f.failure.isSome ∨ x.stage ∈ f.vetoed) : f.take lib d ctx x = f := if_pos h

lemma takeAll_failed (h : f.failure.isSome) (l : List Slot) : f.takeAll lib d ctx l = f := by
  induction l with
  | nil => rfl
  | cons x rest ih =>
    rw [takeAll, List.foldl_cons, take_idle (.inl h)]
    exact ih

lemma takeAll_vetoed {stage : InitStage} (h : stage ∈ f.vetoed) {l : List Slot}
    (hl : ∀ x ∈ l, x.stage = stage) : f.takeAll lib d ctx l = f := by
  induction l with
  | nil => rfl
  | cons x rest ih =>
    obtain ⟨hx, hrest⟩ := List.forall_mem_cons.1 hl
    rw [takeAll, List.foldl_cons, take_idle (.inr (hx ▸ h))]
    exact ih hrest

lemma takeAll_cons (l : List Slot) : f.takeAll lib d ctx (x :: l) =
    (f.take lib d ctx x).takeAll lib d ctx l := rfl

lemma takeAll_append (l l' : List Slot) : f.takeAll lib d ctx (l ++ l') =
    (f.takeAll lib d ctx l).takeAll lib d ctx l' := List.foldl_append

lemma take_call (hf : f.failure = none) (hv : x.stage ∉ f.vetoed) : f.take lib d ctx x =
    ⟨(f.nextCall lib d ctx x).left, (f.nextCall lib d ctx x).after,
      f.calls ++ [f.nextCall lib d ctx x],
      if (f.nextCall lib d ctx x).vetoes then x.stage :: f.vetoed else f.vetoed,
      (f.nextCall lib d ctx x).failure? ctx.component⟩ :=
  if_neg (by simp [hf, hv])

lemma nextCall_eq {answer : Except HookError (Option Instance)} {t : Session}
    (h : x.call lib d ctx f.current f.session = (answer, t)) :
    f.nextCall lib d ctx x = ⟨x, f.current, answer, f.session, t⟩ := by
  rw [nextCall, h]

lemma vetoed_takeAll {stage : InitStage} (hv : stage ∉ f.vetoed) {l : List Slot}
    (hl : ∀ x ∈ l, x.stage ≠ stage) : stage ∉ (f.takeAll lib d ctx l).vetoed := by
  induction l generalizing f with
  | nil => exact hv
  | cons x rest ih =>
    obtain ⟨hx, hrest⟩ := List.forall_mem_cons.1 hl
    rw [takeAll_cons]
    refine ih ?_ hrest
    unfold take
    split
    · exact hv
    · dsimp only
      split
      · exact fun hmem => (List.mem_cons.1 hmem).elim (fun h => hx h.symm) hv
      · exact hv

lemma ends_of_result {m : Act Session RegistryError Instance} {s : Session} {g : Fitting}
    (h : m s = (g.result, g.session)) :
    Act.Ends m s (fun i t => g.failure = none ∧ i = g.current ∧ t = g.session)
      (fun e t => g.failure = some e ∧ t = g.session) := by
  unfold Act.Ends result at *
  rw [h]
  cases g.failure with
  | none => exact ⟨rfl, rfl, rfl⟩
  | some e => exact ⟨rfl, rfl⟩

variable (lib d ctx)

lemma runStage_eq
    (hook : Extension → Instance → InitContext → Act Session HookError (Option Instance))
    (stage : InitStage)
    (hattends : ∀ entry, attends stage entry = entry.extension.behaviour.isInstanceHook)
    (hcall : ∀ entry i, Slot.call lib d ctx ⟨stage, entry⟩ i = hook entry.extension i ctx)
    (p : Pipeline) (hf : f.failure = none) (hv : stage ∉ f.vetoed) :
    runStage hook stage ctx p f.current f.session =
      ((f.takeAll lib d ctx (slotsOf stage p)).result,
        (f.takeAll lib d ctx (slotsOf stage p)).session) := by
  induction p generalizing f with
  | nil =>
    have hresult : f.result = .ok f.current := by rw [result, hf]
    exact Prod.ext hresult.symm rfl
  | cons entry rest ih =>
    by_cases hentry : attends stage entry = true
    · rw [slotsOf_cons_of_pos hentry, takeAll_cons, runStage_call (hattends entry ▸ hentry),
        ← hcall entry, Act.bind_run, Act.adapt_run]
      rcases hanswer : Slot.call lib d ctx ⟨stage, entry⟩ f.current f.session with ⟨e | _ | i, t⟩
      · rw [take_call hf hv, nextCall_eq hanswer, takeAll_failed rfl]
        rfl
      · rw [take_call hf hv, nextCall_eq hanswer,
          takeAll_vetoed List.mem_cons_self fun _ => stage_of_mem_slotsOf]
        rfl
      · rw [take_call hf hv, nextCall_eq hanswer]
        exact ih (f := ⟨_, t, _, f.vetoed, none⟩) rfl hv
    · rw [slotsOf_cons_of_neg hentry, runStage_skip (by simpa [hattends] using hentry)]
      exact ih hf hv

lemma call_definition (entry : PipelineEntry) (i : Instance) (s : Session) :
    Slot.call lib d ctx ⟨.definition, entry⟩ i s =
      ((entry.extension.onDefinition d s).1.map fun _ => some i,
        (entry.extension.onDefinition d s).2) := by
  have hrun : Slot.call lib d ctx ⟨.definition, entry⟩ i s =
      (entry.extension.onDefinition d >>= fun _ => pure (some i) :
        Act Session HookError (Option Instance)) s := rfl
  rw [hrun, Act.bind_run]
  rcases entry.extension.onDefinition d s with ⟨e | _, t⟩
  · rfl
  · rfl

lemma ends_announce_fold (hname : d.name = ctx.component) (p : Pipeline) (hf : f.failure = none)
    (hv : .definition ∉ f.vetoed) :
    Act.Ends (announce d p) f.session
      (fun _ t => (f.takeAll lib d ctx (slotsOf .definition p)).failure = none ∧
        (f.takeAll lib d ctx (slotsOf .definition p)).current = f.current ∧
        t = (f.takeAll lib d ctx (slotsOf .definition p)).session)
      (fun e t => (f.takeAll lib d ctx (slotsOf .definition p)).failure = some e ∧
        t = (f.takeAll lib d ctx (slotsOf .definition p)).session) := by
  induction p generalizing f with
  | nil => exact ⟨hf, rfl, rfl⟩
  | cons entry rest ih =>
    by_cases hentry : attends .definition entry = true
    · have hcall := call_definition lib d ctx entry f.current f.session
      rw [slotsOf_cons_of_pos hentry, takeAll_cons]
      refine (Act.Ends.adapt Act.ends_self fun e t h => ?_).bind (fun _ t h => ?_)
        (fun _ _ h => h)
      · rw [h] at hcall
        rw [take_call hf hv, nextCall_eq hcall, takeAll_failed rfl, ← hname]
        exact ⟨rfl, rfl⟩
      · rw [h] at hcall
        rw [take_call hf hv, nextCall_eq hcall]
        exact ih (f := ⟨_, t, _, f.vetoed, none⟩) rfl hv
    · have hrun : entry.extension.onDefinition d f.session = (.ok (), f.session) := by
        rcases entry with ⟨name, stamp, _ | ⟨id, ⟨m, w, h, _ | rules, l⟩⟩ | _ | _⟩
        case scripted.some => exact absurd rfl hentry
        all_goals rfl
      have hskip : Act.Ends (entry.extension.onDefinition d) f.session
          (fun _ t => t = f.session) (fun _ _ => False) := by
        unfold Act.Ends
        rw [hrun]
      rw [slotsOf_cons_of_neg hentry]
      refine (hskip.adapt fun _ _ => id).bind (fun _ t ht => ?_) (fun _ _ => False.elim)
      exact ht ▸ ih hf hv

/-! ### What was called -/

/-- What has been called of all that was due: the hooks in order, each with what the one before has
left; of each stage those from the first one on, and all of them unless a call has failed or vetoed.
No call follows one that has failed, and none of the same stage follows a veto. -/
structure Traces (made : Instance) (v : Session) (due : List Slot) (f : Fitting) : Prop where
  chain : HookCall.Chain made v f.calls f.current f.session
  ran : ∀ c ∈ f.calls, c.slot.call lib d ctx c.given c.before = (c.answer, c.after)
  order : (f.calls.map (·.slot)).Sublist due
  stage_prefix : ∀ stage, (f.calls.map (·.slot)).filter (·.stage = stage) <+:
    due.filter (·.stage = stage)
  complete : f.failure = none → ∀ stage ∉ f.vetoed,
    (f.calls.map (·.slot)).filter (·.stage = stage) = due.filter (·.stage = stage)
  vetoed : ∀ stage, stage ∈ f.vetoed ↔ ∃ c ∈ f.calls, c.slot.stage = stage ∧ c.vetoes = true
  last : f.calls.Pairwise fun c c' =>
    c.failure? ctx.component = none ∧ (c.vetoes = true → c'.slot.stage ≠ c.slot.stage)
  failure : f.failure = f.calls.getLast?.bind (·.failure? ctx.component)

variable {lib d ctx} {made : Instance} {v : Session} {due : List Slot}

lemma traces_start : (start made v).Traces lib d ctx made v [] where
  chain := ⟨rfl, rfl⟩
  ran _ hc := absurd hc List.not_mem_nil
  order := List.nil_sublist _
  stage_prefix _ := List.prefix_rfl
  complete _ _ _ := rfl
  vetoed _ := ⟨fun h => absurd h List.not_mem_nil, fun ⟨_, h, _⟩ => absurd h List.not_mem_nil⟩
  last := .nil
  failure := rfl

lemma Traces.none_failed (h : f.Traces lib d ctx made v due) (hf : f.failure = none) :
    ∀ c ∈ f.calls, c.failure? ctx.component = none := by
  intro c hc
  obtain hnil | ⟨init, final, hcalls⟩ := List.eq_nil_or_concat f.calls
  · rw [hnil] at hc
    exact absurd hc List.not_mem_nil
  have hlast := h.last
  have hfailure := h.failure
  rw [hcalls, List.concat_eq_append] at hc hlast hfailure
  rcases List.mem_append.1 hc with hc | hc
  · exact ((List.pairwise_append.1 hlast).2.2 c hc final List.mem_cons_self).1
  · rw [List.mem_singleton.1 hc, ← hf, hfailure, List.getLast?_concat]
    rfl

lemma Traces.skip (h : f.Traces lib d ctx made v due)
    (hidle : f.failure.isSome ∨ x.stage ∈ f.vetoed) : f.Traces lib d ctx made v (due ++ [x]) where
  chain := h.chain
  ran := h.ran
  order := h.order.trans (List.sublist_append_left _ _)
  stage_prefix stage := by
    rw [filter_stage_concat]
    exact (h.stage_prefix stage).trans (List.prefix_append _ _)
  complete hf stage hv := by
    have hmem : x.stage ∈ f.vetoed := hidle.resolve_left (by simp [hf])
    have hne : x.stage ≠ stage := fun heq => hv (heq ▸ hmem)
    rw [filter_stage_concat, if_neg hne, List.append_nil, h.complete hf stage hv]
  vetoed := h.vetoed
  last := h.last
  failure := h.failure

lemma Traces.call (h : f.Traces lib d ctx made v due) (hf : f.failure = none)
    (hv : x.stage ∉ f.vetoed) : (f.take lib d ctx x).Traces lib d ctx made v (due ++ [x]) := by
  have hslots : (f.calls ++ [f.nextCall lib d ctx x]).map (·.slot) = f.calls.map (·.slot) ++ [x] :=
    List.map_append
  rw [take_call hf hv]
  refine ⟨h.chain.concat rfl rfl, ?_, ?_, fun stage => ?_, fun _ stage hstage => ?_,
    fun stage => ?_, ?_, ?_⟩
  · exact List.forall_mem_append.2 ⟨h.ran, List.forall_mem_singleton.2 rfl⟩
  · rw [hslots]
    exact h.order.append (.refl _)
  · rw [hslots, filter_stage_concat, filter_stage_concat]
    split
    · rename_i hx
      exact h.complete hf stage (hx ▸ hv) ▸ List.prefix_rfl
    · rw [List.append_nil, List.append_nil]
      exact h.stage_prefix stage
  · have hold : stage ∉ f.vetoed := fun hmem => hstage (by
      dsimp only
      split
      · exact List.mem_cons_of_mem _ hmem
      · exact hmem)
    rw [hslots, filter_stage_concat, filter_stage_concat, h.complete hf stage hold]
  · have hnew : (∃ c ∈ f.calls ++ [f.nextCall lib d ctx x], c.slot.stage = stage ∧
        c.vetoes = true) ↔
        stage ∈ f.vetoed ∨ x.stage = stage ∧ (f.nextCall lib d ctx x).vetoes = true := by
      simp only [List.mem_append, List.mem_singleton, or_and_right, exists_or, exists_eq_left,
        h.vetoed stage]
      exact Iff.rfl
    rw [hnew]
    dsimp only
    split
    · simp [*, or_comm, eq_comm]
    · simp [*]
  · refine List.pairwise_append.2 ⟨h.last, List.pairwise_singleton _ _, fun c hc c' hc' => ?_⟩
    rw [List.mem_singleton.1 hc']
    exact ⟨h.none_failed hf c hc,
      fun hveto heq => hv ((h.vetoed _).2 ⟨c, hc, heq.symm, hveto⟩)⟩
  · rw [List.getLast?_concat]
    rfl

lemma Traces.take (h : f.Traces lib d ctx made v due) (x : Slot) :
    (f.take lib d ctx x).Traces lib d ctx made v (due ++ [x]) := by
  by_cases hidle : f.failure.isSome ∨ x.stage ∈ f.vetoed
  · rw [take_idle hidle]
    exact h.skip hidle
  · obtain ⟨hf, hv⟩ : f.failure = none ∧ x.stage ∉ f.vetoed := by simpa using hidle
    exact h.call hf hv

lemma traces_takeAll (l : List Slot) (h : f.Traces lib d ctx made v due) :
    (f.takeAll lib d ctx l).Traces lib d ctx made v (due ++ l) := by
  induction l generalizing f due with
  | nil =>
    rw [List.append_nil]
    exact h
  | cons x rest ih =>
    rw [takeAll_cons, ← List.singleton_append, ← List.append_assoc]
    exact ih (h.take x)

end Fitting

def fit (lib : Catalog) (name : String) (d : Definition) (made : Instance) (v : Session) :
    Fitting :=
  (Fitting.start made v).takeAll lib d (context name d v) (slots v.registry.pipeline)

lemma ends_equip_fit {lib : Catalog} {name : String} {d : Definition} (hname : d.name = name)
    (made : Instance) (v : Session) :
    Act.Ends (equip lib name d made) v
      (fun i t => (fit lib name d made v).failure = none ∧ i = (fit lib name d made v).current ∧
        ∃ line, t = (Session.record .debug line (fit lib name d made v).session).2)
      (fun e t => (fit lib name d made v).failure = some e ∧
        t = (fit lib name d made v).session) := by
  let ctx := context name d v
  let p := v.registry.pipeline
  let seen := (Fitting.start made v).takeAll lib d ctx (slotsOf .definition p)
  let prepared := seen.takeAll lib d ctx (slotsOf .beforeInit p)
  have hfit : fit lib name d made v = prepared.takeAll lib d ctx (slotsOf .afterInit p) := by
    rw [fit, slots, Fitting.takeAll_append, Fitting.takeAll_append]
  have hother {stage stage' : InitStage} (hne : stage ≠ stage') :
      ∀ x ∈ slotsOf stage p, x.stage ≠ stage' := fun _ hx => stage_of_mem_slotsOf hx ▸ hne
  have hbefore : .beforeInit ∉ seen.vetoed :=
    Fitting.vetoed_takeAll List.not_mem_nil (hother (by decide))
  have hafter : .afterInit ∉ prepared.vetoed :=
    Fitting.vetoed_takeAll (Fitting.vetoed_takeAll List.not_mem_nil (hother (by decide)))
      (hother (by decide))
  rw [hfit]
  apply Act.ends_get_bind
  refine (Fitting.ends_announce_fold lib d ctx (f := .start made v) hname p rfl
    List.not_mem_nil).bind (fun _ t ⟨hseen, hcurrent, ht⟩ => ?_) (fun e t ⟨he, ht⟩ => ?_)
  · have hstage := Fitting.ends_of_result (Fitting.runStage_eq lib d ctx (Extension.beforeInit lib)
      .beforeInit (fun _ => rfl) (fun _ _ => rfl) p hseen hbefore)
    rw [hcurrent, ← ht] at hstage
    refine hstage.bind (fun i u ⟨hprepared, hi, hu⟩ => ?_) (fun e u ⟨he, hu⟩ => ?_)
    · have hstage := Fitting.ends_of_result (Fitting.runStage_eq lib d ctx (Extension.afterInit lib)
        .afterInit (fun _ => rfl) (fun _ _ => rfl) p hprepared hafter)
      rw [← hi, ← hu] at hstage
      refine hstage.bind (fun j w ⟨hfinished, hj, hw⟩ => ?_) (fun _ _ h => h)
      exact ⟨hfinished, hj, _, congrArg (fun s => (Session.record .debug _ s).2) hw⟩
    · have hfailed : prepared.failure.isSome := Option.isSome_iff_exists.2 ⟨e, he⟩
      rw [Fitting.takeAll_failed hfailed]
      exact ⟨he, hu⟩
  · have hfailed : seen.failure.isSome := Option.isSome_iff_exists.2 ⟨e, he⟩
    have hprepared : prepared = seen := Fitting.takeAll_failed hfailed _
    rw [hprepared, Fitting.takeAll_failed hfailed]
    exact ⟨he, ht⟩

lemma traces_fit (lib : Catalog) (name : String) (d : Definition) (made : Instance) (v : Session) :
    (fit lib name d made v).Traces lib d (context name d v) made v (slots v.registry.pipeline) :=
  Fitting.traces_takeAll _ Fitting.traces_start

end Creation

/-! ### What a factory leaves -/

def Registry.SnapshotsNamed (r : Registry) : Prop := ∀ p ∈ r.snapshots, p.2.name = p.1

variable {lib : Catalog} {P : Extension → Prop}

lemma Registry.Step.snapshotsNamed {r t : Registry} (h : r.Step lib P t) (hr : r.WellFormed)
    (hs : r.SnapshotsNamed) : t.SnapshotsNamed := by
  cases h with
  | register entry stamp h =>
    obtain ⟨-, -, rfl⟩ := register_eq_ok h
    exact fun p hp => hs p (List.mem_filter.1 hp).1
  | remove name h =>
    obtain ⟨-, rfl⟩ := remove_eq_ok h
    exact fun p hp => hs p (List.mem_filter.1 hp).1
  | @snapshot d t name h =>
    obtain ⟨-, rfl⟩ | ⟨-, hd, rfl⟩ := snapshot_eq_ok h
    · exact hs
    · refine List.forall_mem_append.2 ⟨hs, List.forall_mem_singleton.2 ?_⟩
      exact hr.name_of_find? hd
  | addToPipeline name e _ h =>
    obtain ⟨-, rfl⟩ := addToPipeline_eq_ok h
    exact hs
  | invalidate => exact fun p hp => absurd hp List.not_mem_nil
  | amend | destroySingletons | beginCreation | endCreation | store => exact hs

namespace Session

lemma Reachable.snapshotsNamed {s : Session} (h : s.Reachable lib) : s.registry.SnapshotsNamed := by
  induction h with
  | refl => exact fun p hp => absurd hp List.not_mem_nil
  | tail hpath h ih =>
    cases h with
    | write hregistry => rwa [hregistry]
    | registry h => exact h.snapshotsNamed (Reachable.wellFormed hpath).registry ih
    | arm name target h =>
      obtain ⟨-, rfl⟩ := Registry.addToPipeline_eq_ok h
      exact ih
    | report => exact ih

def Withholds (name : String) (s t : Session) : Prop :=
  name ∈ s.registry.inCreation → s.registry.singleton? name = none →
    name ∈ t.registry.inCreation ∧ t.registry.singleton? name = none

lemma withholds_of_eq {name : String} {s t : Session}
    (hcreation : t.registry.inCreation = s.registry.inCreation)
    (hsingletons : t.registry.singletons = s.registry.singletons) : Withholds name s t := by
  intro hmem hnone
  refine ⟨hcreation ▸ hmem, ?_⟩
  unfold Registry.singleton? at hnone ⊢
  rwa [hsingletons]

lemma began_withholds {name other : String} {s u : Session} {d : Definition} {r : Registry}
    (hsnapshot : (s.registry.beginCreation other).snapshot other = .ok (d, r))
    (hmem : name ∈ s.registry.inCreation) (hnone : s.registry.singleton? name = none)
    (hu : Withholds name { s with registry := r } u) :
    name ∈ u.registry.inCreation ∧ u.registry.singleton? name = none := by
  obtain ⟨-, rfl⟩ | ⟨-, -, rfl⟩ := Registry.snapshot_eq_ok hsnapshot
  · exact hu (List.mem_cons_of_mem _ hmem) hnone
  · exact hu (List.mem_cons_of_mem _ hmem) hnone

lemma passage_withholds (name : String) :
    Passage lib (fun _ => True) (fun _ s t => t.registry = s.registry) (Withholds name) where
  asides := Creation.asides_registry
  refl _ hmem hnone := ⟨hmem, hnone⟩
  trans h h' hmem hnone := h' (h hmem hnone).1 (h hmem hnone).2
  held _ _ := fun _ _ _ _ => trivial
  write hregistry _ _ _ := withholds_of_eq (by rw [hregistry]) (by rw [hregistry])
  amend _ _ _ _ := withholds_of_eq rfl rfl
  invalidate _ := withholds_of_eq rfl rfl
  destroy _ hmem _ := ⟨hmem, rfl⟩
  register entry h := by
    obtain ⟨-, -, rfl⟩ := Registry.register_eq_ok h
    exact withholds_of_eq rfl rfl
  remove other h hmem hnone := by
    refine ⟨?_, ?_⟩
    · obtain ⟨-, rfl⟩ := Registry.remove_eq_ok h
      exact hmem
    · rw [Registry.singleton?_remove h, hnone, ite_self]
  addToPipeline other e _ h := by
    obtain ⟨-, rfl⟩ := Registry.addToPipeline_eq_ok h
    exact withholds_of_eq rfl rfl
  arm other target h := by
    obtain ⟨-, rfl⟩ := Registry.addToPipeline_eq_ok h
    exact withholds_of_eq rfl rfl
  fail {s u t r d other} hnew _ hsnapshot hu ht hmem hnone := by
    obtain ⟨hcreation, hsingleton⟩ := began_withholds hsnapshot hmem hnone hu
    have hne : name ≠ other := fun h => hnew (h ▸ hmem)
    refine ⟨List.mem_filter.2 ⟨ht ▸ hcreation, by simpa using hne⟩, ?_⟩
    exact (congrArg (·.singleton? name) ht).trans hsingleton
  finish {s u t r d other i depth} hnew _ hsnapshot hu ht _ _ hmem hnone := by
    obtain ⟨hcreation, hsingleton⟩ := began_withholds hsnapshot hmem hnone hu
    have hne : name ≠ other := fun h => hnew (h ▸ hmem)
    refine ⟨List.mem_filter.2 ⟨ht ▸ hcreation, by simpa using hne⟩, ?_⟩
    rw [Registry.singleton?_store, if_neg hne]
    exact (congrArg (·.singleton? name) ht).trans hsingleton

lemma Reachable.name_of_snapshot {s : Session} (hs : s.Reachable lib) {name : String}
    {d : Definition} {r : Registry}
    (h : (s.registry.beginCreation name).snapshot name = .ok (d, r)) : d.name = name := by
  obtain ⟨hd, -⟩ | ⟨-, hd, -⟩ := Registry.snapshot_eq_ok h
  · exact hs.snapshotsNamed _ (mem_of_lookup hd)
  · exact hs.wellFormed.registry.name_of_find? hd

open Creation

lemma singleton?_of_manufacture {s v : Session} {name : String} {d : Definition} {r : Registry}
    {made : Instance} {depth : ℕ} (hnone : s.registry.singleton? name = none)
    (hsnapshot : (s.registry.beginCreation name).snapshot name = .ok (d, r))
    (hmade : manufacture lib (resolveWithin lib depth) d { s with registry := r } = (.ok made, v)) :
    v.registry.singleton? name = none := by
  have hL : Passage lib _ _ _ := passage_withholds name
  have hgoes := manufacture_goes hL (resolveWithin_goes hL (fun _ _ _ => trivial) depth)
    (fun _ _ _ => trivial) d
  have hleaves := hgoes.along_ok (fun _ _ _ _ => trivial) hmade
  obtain ⟨-, rfl⟩ | ⟨-, -, rfl⟩ := Registry.snapshot_eq_ok hsnapshot
  · exact (hleaves List.mem_cons_self hnone).2
  · exact (hleaves List.mem_cons_self hnone).2

/-- What a request for a component does once its factory has returned an instance, in any session
and at any depth of creations. All hooks are called with one context; which are called, and with
what, is the fit of the instance to the pipeline. If a call fails, the request fails with its error
and stores nothing; else the last instance is stored and returned. -/
theorem Reachable.hook_calls {s : Session} (hs : s.Reachable lib) (depth : ℕ) {name : String}
    {d : Definition} {r : Registry} {made : Instance} {v : Session}
    (hnone : s.registry.singleton? name = none) (hnew : name ∉ s.registry.inCreation)
    (hsnapshot : (s.registry.beginCreation name).snapshot name = .ok (d, r))
    (hmade : manufacture lib (resolveWithin lib depth) d { s with registry := r } = (.ok made, v)) :
    let ctx : InitContext := ⟨name, d.role, v.registry.pipeline.length⟩
    let f := (Fitting.start made v).takeAll lib d ctx (slots v.registry.pipeline)
    d.name = name ∧ f.Traces lib d ctx made v (slots v.registry.pipeline) ∧
      (∀ e, f.failure = some e → ∃ t, resolveWithin lib (depth + 1) name s = (.error e, t) ∧
        t.journal = f.session.journal ∧ t.registry.singletons = v.registry.singletons ∧
        t.registry.singleton? name = none) ∧
      (f.failure = none → ∃ t, resolveWithin lib (depth + 1) name s = (.ok f.current, t) ∧
        t.journal = f.session.journal ∧ t.registry.singleton? name = some f.current) := by
  intro ctx f
  have hname := hs.name_of_snapshot hsnapshot
  have hwithheld := singleton?_of_manufacture hnone hsnapshot hmade
  have hcreate : create lib (resolveWithin lib depth) name
      { s with registry := s.registry.beginCreation name } = equip lib name d made v := by
    rw [create_ok hsnapshot, complete_eq]
    exact Act.bind_run_ok hmade
  have hends : Act.Ends (equip lib name d made) v _ _ := ends_equip_fit hname made v
  have hresolve : resolveWithin lib (depth + 1) name s = _ :=
    (resolveWithin_succ hnone hnew).trans (enter_run _ name s)
  rw [hcreate] at hresolve
  refine ⟨hname, traces_fit lib name d made v, fun e he => ?_, fun hnofail => ?_⟩
  · rcases hrun : equip lib name d made v with ⟨e' | i, w⟩
    · obtain ⟨he', rfl⟩ := hends.error hrun
      obtain rfl : e' = e := Option.some.inj (he'.symm.trans he)
      rw [hrun] at hresolve
      refine ⟨_, hresolve, rfl, ?_, ?_⟩
      · exact congrArg (·.singletons) (registry_equip hrun)
      · exact (congrArg (·.singleton? name) (registry_equip hrun)).trans hwithheld
    · exact nomatch he.symm.trans (hends.ok hrun).1
  · rcases hrun : equip lib name d made v with ⟨e | i, w⟩
    · exact nomatch hnofail.symm.trans (hends.error hrun).1
    · obtain ⟨-, rfl, line, hw⟩ := hends.ok hrun
      rw [hrun] at hresolve
      refine ⟨_, hresolve, congrArg (·.journal) hw, ?_⟩
      rw [Registry.singleton?_store, if_pos rfl]
      rfl

end Session

def Catalog.layered : Catalog where
  typeNames := ⟨"", "", "", "", "", "", ""⟩
  blueprints := [{ (default : Blueprint) with
    name := "greeting", factory := ⟨[], .fresh (.value (.text "hello"))⟩ }]
  extensions := [
    .scripted none ⟨none, none, some (.rules [⟨none, none, .append "!"⟩] [⟨none, none, .shout⟩]),
      some [], none⟩,
    .scripted none ⟨none, none, some (.rules [⟨none, none, .veto⟩] [⟨none, none, .append "?"⟩]),
      none, none⟩]

def Session.layered : Session :=
  after .layered [⟨.edit (.register 0), false⟩, ⟨.query (.addToPipeline "first" 0), false⟩,
    ⟨.query (.addToPipeline "guard" 1), false⟩, ⟨.query (.addToPipeline "last" 0), false⟩]

theorem layered_hook_calls : ∃ (d : Definition) (made : Instance) (v t : Session)
    (f : Creation.Fitting),
    f.Traces .layered d ⟨"greeting", d.role, v.registry.pipeline.length⟩ made v
      (Creation.slots v.registry.pipeline) ∧
    Creation.resolveWithin .layered 1 "greeting" .layered = (.ok f.current, t) ∧
    f.current.content = .value (.text "HELLO!?") ∧
    t.registry.singleton? "greeting" = some f.current := by
  have hreachable : Session.layered.Reachable .layered := Session.after_reachable _ _
  have hcreates : (Creation.resolveWithin .layered 1 "greeting" .layered).1.map (·.content) =
      .ok (.value (.text "HELLO!?")) := by decide +kernel
  have hnone : Session.layered.registry.singleton? "greeting" = none := by decide +kernel
  have hnew : "greeting" ∉ Session.layered.registry.inCreation := by decide +kernel
  have hmakes : (((Session.layered.registry.beginCreation "greeting").snapshot "greeting").bind
      fun p => (Creation.manufacture .layered (Creation.resolveWithin .layered 0) p.1
        { Session.layered with registry := p.2 }).1).isOk = true := by decide +kernel
  rcases hsnapshot : (Session.layered.registry.beginCreation "greeting").snapshot "greeting"
    with e | ⟨d, r⟩
  · rw [hsnapshot] at hmakes
    exact Bool.noConfusion hmakes
  rw [hsnapshot, Except.bind] at hmakes
  rcases hmade : Creation.manufacture .layered (Creation.resolveWithin .layered 0) d
    { Session.layered with registry := r } with ⟨e | made, v⟩
  · rw [hmade] at hmakes
    exact Bool.noConfusion hmakes
  obtain ⟨-, htraces, hfails, hstores⟩ :=
    Session.Reachable.hook_calls hreachable 0 hnone hnew hsnapshot hmade
  rcases hfailure : ((Creation.Fitting.start made v).takeAll .layered d
      ⟨"greeting", d.role, v.registry.pipeline.length⟩
      (Creation.slots v.registry.pipeline)).failure with _ | e
  · obtain ⟨t, hrun, -, hstored⟩ := hstores hfailure
    rw [hrun] at hcreates
    exact ⟨d, made, v, t, _, htraces, hrun, Except.ok.inj hcreates, hstored⟩
  · obtain ⟨t, hrun, -⟩ := hfails e hfailure
    rw [hrun] at hcreates
    cases hcreates

end ComponentContainer
