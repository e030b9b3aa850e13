import ComponentContainer.Proofs.Eligibility
import ComponentContainer.Proofs.Traversal

/-! What the hooks of one creation add to the reports of an eligibility checker: one report if they
come to the checker's entry with an instance that has to be reported there, and else nothing. -/

namespace ComponentContainer

open Act

variable {lib : Catalog} {checker target : Nat}

def Extension.Checks (e : Extension) (checker : Nat) : Prop :=
  ∃ target, e = ⟨checker, .eligibilityChecker target⟩

lemma Extension.checks_of {e : Extension} (hb : e.behaviour = .eligibilityChecker target)
    (hstamp : e.stamp = checker) : e.Checks checker := by
  obtain ⟨stamp, behaviour⟩ := e
  obtain rfl : stamp = checker := hstamp
  obtain rfl : behaviour = .eligibilityChecker target := hb
  exact ⟨target, rfl⟩

def PipelineEntry.checking (name : String) (checker target : Nat) : PipelineEntry :=
  ⟨name, ⟨checker, .eligibilityChecker target⟩⟩

namespace Session

variable {s t u : Session}

structure Unreported (checker : Nat) (s t : Session) : Prop where
  registry_eq : t.registry = s.registry
  reportsOf_eq : t.reportsOf checker = s.reportsOf checker

lemma unreported_of_eq (hregistry : t.registry = s.registry) (hreports : t.reports = s.reports) :
    s.Unreported checker t :=
  ⟨hregistry, reportsOf_congr hreports checker⟩

lemma Unreported.trans (h : s.Unreported checker u) (h' : u.Unreported checker t) :
    s.Unreported checker t :=
  ⟨h'.registry_eq.trans h.registry_eq, h'.reportsOf_eq.trans h.reportsOf_eq⟩

lemma writes_unreported (checker : Nat) : Writes (Unreported checker) where
  refl _ := ⟨rfl, rfl⟩
  trans := .trans
  write hregistry hreports _ _ := unreported_of_eq hregistry hreports

def CheckersApart (s : Session) : Prop :=
  s.registry.pipeline.Pairwise fun e e' => ∀ checker,
    e.extension.Checks checker → ¬e'.extension.Checks checker

lemma Step.checkersApart (h : s.Step lib Extension.Unarmed t) (hw : s.WellFormed)
    (hs : s.CheckersApart) : t.CheckersApart := by
  have hadd {name : String} {e : Extension}
      (he : ∀ entry ∈ s.registry.pipeline, ∀ checker, entry.extension.Checks checker →
        ¬e.Checks checker) :
      (s.registry.pipeline.add ⟨name, e⟩).Pairwise fun e e' => ∀ checker,
        e.extension.Checks checker → ¬e'.extension.Checks checker := by
    refine List.pairwise_append.2 ⟨hs.filter _, List.pairwise_singleton _ _, fun a ha b hb => ?_⟩
    rw [List.mem_singleton.1 hb]
    exact he a (List.mem_filter.1 ha).1
  unfold CheckersApart
  cases h with
  | write hregistry =>
    rw [hregistry]
    exact hs
  | registry h =>
    rcases h.pipeline with hp | ⟨name, e, hunarmed, -, hp⟩
    · change List.Pairwise _ (Registry.pipeline _)
      rw [hp]
      exact hs
    · change List.Pairwise _ (Registry.pipeline _)
      rw [hp]
      exact hadd fun _ _ _ _ ⟨other, he⟩ => hunarmed other (congrArg (·.behaviour) he)
  | arm name target h =>
    obtain ⟨-, rfl⟩ := Registry.addToPipeline_eq_ok h
    refine hadd fun entry he checker ⟨other, hentry⟩ ⟨_, hnew⟩ => ?_
    -- the new checker has a stamp that was not given out
    have hlt := hw.stamped entry he other (congrArg (·.behaviour) hentry)
    have hstamp : entry.extension.stamp = s.nextStamp :=
      (congrArg (·.stamp) hentry).trans (congrArg (·.stamp) hnew).symm
    omega
  | report => exact hs

theorem Reachable.checkersApart (h : s.Reachable lib) : s.CheckersApart := by
  induction h with
  | refl => exact .nil
  | tail h h' ih => exact h'.checkersApart (Reachable.wellFormed h) ih

lemma CheckersApart.split (h : s.CheckersApart) {before rest : Pipeline} {name : String}
    (hs : s.registry.pipeline = before ++ .checking name checker target :: rest) :
    (∀ e ∈ before, ¬e.extension.Checks checker) ∧ ∀ e ∈ rest, ¬e.extension.Checks checker := by
  unfold CheckersApart at h
  rw [hs, List.pairwise_append] at h
  obtain ⟨-, hrest, hbefore⟩ := h
  refine ⟨fun e he hchecks => ?_, fun e he => ?_⟩
  · exact hbefore e he _ List.mem_cons_self checker hchecks ⟨target, rfl⟩
  · exact (List.pairwise_cons.1 hrest).1 e he checker ⟨target, rfl⟩

lemma CheckersApart.eq_of_checks (h : s.CheckersApart) {e e' : PipelineEntry}
    (he : e ∈ s.registry.pipeline) (he' : e' ∈ s.registry.pipeline)
    (hc : e.extension.Checks checker) (hc' : e'.extension.Checks checker) : e = e' := by
  obtain ⟨name, x⟩ := e'
  obtain ⟨target, rfl⟩ := hc'
  obtain ⟨before, rest, hsplit⟩ := List.append_of_mem he'
  obtain ⟨hbefore, hrest⟩ := h.split hsplit
  rw [hsplit, List.mem_append, List.mem_cons] at he
  rcases he with he | he | he
  · exact absurd hc (hbefore e he)
  · exact he
  · exact absurd hc (hrest e he)

structure Precedes (checker : Nat) (s t : Session) : Prop where
  length_le : s.registry.pipeline.length ≤ t.registry.pipeline.length
  settled : ∀ name target, .checking name checker target ∈ s.registry.pipeline →
    target ≤ s.registry.pipeline.length → t.reportsOf checker = s.reportsOf checker
  displaced : checker < s.nextStamp → (∀ e ∈ s.registry.pipeline, ¬e.extension.Checks checker) →
    t.reportsOf checker = s.reportsOf checker

lemma Reachable.precedes (hs : s.Reachable lib) (h : s.Path lib Extension.Unarmed t)
    (checker : Nat) : s.Precedes checker t := by
  have hw := hs.wellFormed
  refine ⟨h.pipeline_length_le hw, fun name target hmem hlength => ?_, fun hgiven hnone => ?_⟩
  · have harmed : s.Armed checker target := by
      refine ⟨hw.stamped _ hmem target rfl, fun entry he other hb hstamp => ?_⟩
      have hchecks := Extension.checks_of hb hstamp
      rw [hs.checkersApart.eq_of_checks he hmem hchecks ⟨target, rfl⟩] at hb
      exact (Behaviour.eligibilityChecker.inj hb).symm
    exact h.reportsOf_eq hw harmed hlength
  · have harmed : s.Armed checker 0 := ⟨hgiven, fun entry he other hb hstamp =>
      absurd (Extension.checks_of hb hstamp) (hnone entry he)⟩
    exact h.reportsOf_eq hw harmed (Nat.zero_le _)

end Session

structure Ineligible (target : Nat) (ctx : InitContext) (i : Instance) : Prop where
  no_hook : i.isInstanceHook = false
  role_ne : ctx.role ≠ .infrastructure
  early : ctx.pipelineLength < target

def Report.of (lib : Catalog) (checker target : Nat) (ctx : InitContext) (i : Instance) : Report :=
  ⟨checker, ctx.component, i.typeName lib.typeNames, ctx.role, ctx.pipelineLength, target⟩

namespace Extension

variable {ctx : InitContext} {i : Instance}

lemma checkEligible_of_ineligible (h : Ineligible target ctx i) (s : Session) :
    (checkEligible lib checker target i ctx s).2.reportsOf checker =
      s.reportsOf checker ++ [Report.of lib checker target ctx i] := by
  obtain ⟨hhook, hrole, hearly⟩ := h
  have hsettled : EligibilityState.of target ctx.pipelineLength ≠ .settled :=
    fun h => Nat.not_le_of_lt hearly (EligibilityState.of_eq_settled.1 h)
  unfold checkEligible
  rw [if_neg (by simp [hhook, hrole, hsettled])]
  exact (Session.reportsOf_report s (Report.of lib checker target ctx i) checker).trans (if_pos rfl)

lemma checkEligible_of_not (h : ¬Ineligible target ctx i) (s : Session) :
    (checkEligible lib checker target i ctx s).2 = s := by
  unfold checkEligible
  rw [if_pos ?_]
  · rfl
  by_contra hcond
  simp only [Bool.or_eq_true, decide_eq_true_eq, not_or, Bool.not_eq_true,
    EligibilityState.of_eq_settled, Nat.not_le] at hcond
  exact h ⟨hcond.1.1, hcond.1.2, hcond.2⟩

lemma checkEligible_unreported {other : Nat} (hne : other ≠ checker) (s : Session) :
    s.Unreported checker (checkEligible lib other target i ctx s).2 := by
  unfold checkEligible
  split
  · exact (Session.writes_unreported checker).refl s
  · let report := Report.of lib other target ctx i
    exact ⟨rfl, (Session.reportsOf_report s report checker).trans (if_neg hne)⟩

lemma detectListener_unreported (s : Session) :
    s.Unreported checker (detectListener i ctx s).2 := by
  unfold detectListener
  cases i.extension? with
  | none => exact (Session.writes_unreported checker).refl s
  | some e =>
    change s.Unreported checker ((if (!e.behaviour.isListener ||
      s.listeners.any (·.1 = ctx.component)) = true then _ else _ : StateM Session Unit) s).2
    split
    · exact (Session.writes_unreported checker).refl s
    · exact Session.unreported_of_eq rfl rfl

lemma afterInit_unreported {e : Extension} (he : ¬e.Checks checker) (i : Instance)
    (ctx : InitContext) (s : Session) :
    HandsOn (fun _ => True) (Session.Unreported checker) (e.afterInit lib i ctx) s := by
  have hwrites := Session.writes_unreported checker
  have hall : ∀ j, some i = some j → j.Admits fun _ => True := fun _ _ _ _ => trivial
  rcases e with ⟨stamp, _ | ⟨id, ⟨m, f, _ | _ | ⟨before, after⟩, r, l⟩⟩ | target | _⟩
  case scripted.some.rules =>
    have hnote := hwrites.note (.afterInit id ctx.component ctx.role ctx.pipelineLength) s
    refine ends_lift_bind ((apply_handsOn hwrites (fun _ _ _ => trivial) _ _
      (fun _ _ => trivial) _).mono ?_ ?_)
    · exact fun o t ⟨ho, ht⟩ => ⟨ho, hnote.trans ht⟩
    · exact fun e t ht => hnote.trans ht
  case eligibilityChecker =>
    have hne : stamp ≠ checker := fun h => he ⟨target, h ▸ rfl⟩
    exact ⟨hall, checkEligible_unreported hne s⟩
  case listenerDetector => exact ⟨hall, detectListener_unreported s⟩
  all_goals exact ⟨hall, hwrites.refl s⟩

end Extension

namespace Creation

section

variable {hook : Extension → Instance → InitContext → Act Session HookError (Option Instance)}
  {stage : InitStage} {ctx : InitContext} {entry : PipelineEntry} {before rest : Pipeline}
  {i j : Instance} {s t : Session}

lemma runStage_skip (h : entry.extension.behaviour.isInstanceHook = false) :
    runStage hook stage ctx (entry :: rest) i = runStage hook stage ctx rest i := by
  rw [runStage, h]
  rfl

lemma runStage_call (h : entry.extension.behaviour.isInstanceHook = true) :
    runStage hook stage ctx (entry :: rest) i =
      ((hook entry.extension i ctx).adapt (.hook ctx.component entry.name stage) >>= fun
        | some next => runStage hook stage ctx rest next
        | none => pure i) := by
  rw [runStage, h]
  rfl

inductive Passes
    (hook : Extension → Instance → InitContext → Act Session HookError (Option Instance))
    (ctx : InitContext) : Pipeline → Instance → Session → Instance → Session → Prop
  | nil (i : Instance) (s : Session) : Passes hook ctx [] i s i s
  | skip {entry : PipelineEntry} {rest : Pipeline} {i j : Instance} {s t : Session} :
    entry.extension.behaviour.isInstanceHook = false → Passes hook ctx rest i s j t →
      Passes hook ctx (entry :: rest) i s j t
  | call {entry : PipelineEntry} {rest : Pipeline} {i next j : Instance} {s u t : Session} :
    entry.extension.behaviour.isInstanceHook = true →
      hook entry.extension i ctx s = (.ok (some next), u) → Passes hook ctx rest next u j t →
      Passes hook ctx (entry :: rest) i s j t

lemma Passes.append {k : Instance} {u : Session} (h : Passes hook ctx before i s j t)
    (h' : Passes hook ctx rest j t k u) : Passes hook ctx (before ++ rest) i s k u := by
  induction h with
  | nil => exact h'
  | skip hb _ ih => exact .skip hb (ih h')
  | call hb hrun _ ih => exact .call hb hrun (ih h')

lemma Passes.runStage_append (h : Passes hook ctx before i s j t) (stage : InitStage)
    (rest : Pipeline) :
    runStage hook stage ctx (before ++ rest) i s = runStage hook stage ctx rest j t := by
  induction h with
  | nil => rfl
  | skip hb _ ih => rw [List.cons_append, runStage_skip hb, ih]
  | @call entry _ i next _ s u _ hb hrun _ ih =>
    have hadapt : ((hook entry.extension i ctx).adapt
        (RegistryError.hook ctx.component entry.name stage)) s = (.ok (some next), u) := by
      rw [adapt_run, hrun]
      rfl
    rw [List.cons_append, runStage_call hb, bind_run_ok hadapt]
    exact ih

lemma runStage_append_of_not (h : ∀ j t, ¬Passes hook ctx before i s j t) (rest : Pipeline) :
    runStage hook stage ctx (before ++ rest) i s = runStage hook stage ctx before i s := by
  induction before generalizing i s with
  | nil => exact absurd (.nil i s) (h i s)
  | cons entry before ih =>
    rw [List.cons_append]
    cases hb : entry.extension.behaviour.isInstanceHook with
    | false =>
      rw [runStage_skip hb, runStage_skip hb]
      exact ih fun j t hp => h j t (.skip hb hp)
    | true =>
      rw [runStage_call hb, runStage_call hb]
      refine bind_run_congr fun o u hu => ?_
      cases o with
      | none => rfl
      | some next => exact ih fun j t hp => h j t (.call hb (adapt_eq_ok hu) hp)

lemma runStage_unreported {p : Pipeline}
    (hhook : ∀ entry ∈ p, ∀ j t,
      HandsOn (fun _ => True) (Session.Unreported checker) (hook entry.extension j ctx) t)
    (stage : InitStage) (i : Instance) (s : Session) :
    Stays (runStage hook stage ctx p i) s (s.Unreported checker) :=
  (ends_runStage (Session.writes_unreported checker) hook stage ctx p
    (fun _ _ => trivial : i.Admits fun _ => True) s fun entry he j _ t _ => hhook entry he j t).mono
      (fun _ _ ht => ht.2) (fun _ _ => id)

lemma afterStage_unreported {p : Pipeline} (hp : ∀ e ∈ p, ¬e.extension.Checks checker)
    (i : Instance) (s : Session) :
    Stays (runStage (Extension.afterInit lib) .afterInit ctx p i) s (s.Unreported checker) :=
  runStage_unreported (fun entry he j t => Extension.afterInit_unreported (hp entry he) j ctx t) _ i s

lemma Passes.unreported (h : Passes (Extension.afterInit lib) ctx before i s j t)
    (hbefore : ∀ e ∈ before, ¬e.extension.Checks checker) : s.Unreported checker t := by
  have hrun := h.runStage_append .afterInit []
  rw [List.append_nil] at hrun
  exact (afterStage_unreported hbefore i s).ok hrun

end

def context (name : String) (d : Definition) (v : Session) : InitContext :=
  ⟨name, d.role, v.registry.pipeline.length⟩

def Reaches (lib : Catalog) (name : String) (d : Definition) (before : Pipeline) (made : Instance)
    (v : Session) (i : Instance) (u : Session) : Prop :=
  ∃ t prepared w, announce d v.registry.pipeline v = (.ok (), t) ∧
    runStage (Extension.beforeInit lib) .beforeInit (context name d v) v.registry.pipeline made t =
      (.ok prepared, w) ∧
    Passes (Extension.afterInit lib) (context name d v) before prepared w i u

section

variable {name entryName : String} {d : Definition} {before rest : Pipeline} {made i : Instance}
  {u v : Session}

lemma Reaches.passes {t w : Session} {prepared : Instance}
    (h : Reaches lib name d before made v i u)
    (hannounce : announce d v.registry.pipeline v = (.ok (), t))
    (hstage : runStage (Extension.beforeInit lib) .beforeInit (context name d v)
      v.registry.pipeline made t = (.ok prepared, w)) :
    Passes (Extension.afterInit lib) (context name d v) before prepared w i u := by
  obtain ⟨t', prepared', w', hannounce', hstage', hpass⟩ := h
  obtain rfl : t = t' := congrArg Prod.snd (hannounce.symm.trans hannounce')
  obtain ⟨hprepared, rfl⟩ := Prod.mk.inj (hstage.symm.trans hstage')
  obtain rfl := Except.ok.inj hprepared
  exact hpass

lemma passes_checker (ctx : InitContext) (i : Instance) (u : Session) :
    Passes (Extension.afterInit lib) ctx [.checking entryName checker target] i u i
      (Extension.checkEligible lib checker target i ctx u).2 :=
  .call rfl rfl (.nil _ _)

lemma Reaches.past_checker (h : Reaches lib name d before made v i u) :
    ∃ w, Reaches lib name d (before ++ [.checking entryName checker target]) made v i w := by
  obtain ⟨t, prepared, w, hannounce, hstage, hpass⟩ := h
  exact ⟨_, t, prepared, w, hannounce, hstage, hpass.append (passes_checker _ i u)⟩

lemma beforeStage_unreported (ctx : InitContext) (p : Pipeline) (i : Instance) (s : Session) :
    Stays (runStage (Extension.beforeInit lib) .beforeInit ctx p i) s (s.Unreported checker) :=
  runStage_unreported (fun entry _ _ t => beforeInit_handsOn (Session.writes_unreported checker)
    (fun _ _ _ => trivial) entry.extension (fun _ _ => trivial) ctx t) _ i s

lemma afterStage_past {ctx : InitContext} {prepared : Instance} {w : Session}
    (hpass : Passes (Extension.afterInit lib) ctx before prepared w i u)
    (hrest : ∀ e ∈ rest, ¬e.extension.Checks checker) :
    Stays (runStage (Extension.afterInit lib) .afterInit ctx
      (before ++ .checking entryName checker target :: rest) prepared) w fun x =>
        x.reportsOf checker =
          (Extension.checkEligible lib checker target i ctx u).2.reportsOf checker := by
  unfold Stays Ends
  rw [hpass.runStage_append, ← List.singleton_append,
    (passes_checker ctx i u).runStage_append .afterInit rest]
  exact (afterStage_unreported hrest i _).mono (fun _ _ hx => hx.reportsOf_eq)
    (fun _ _ hx => hx.reportsOf_eq)

lemma afterStage_short {ctx : InitContext} {prepared : Instance} {w : Session}
    (hpass : ∀ i u, ¬Passes (Extension.afterInit lib) ctx before prepared w i u)
    (hbefore : ∀ e ∈ before, ¬e.extension.Checks checker) :
    Stays (runStage (Extension.afterInit lib) .afterInit ctx (before ++ rest) prepared) w
      (w.Unreported checker) := by
  unfold Stays Ends
  rw [runStage_append_of_not hpass]
  exact afterStage_unreported hbefore prepared w

def AtChecker (lib : Catalog) (checker target : Nat) (name : String) (d : Definition)
    (before : Pipeline) (made : Instance) (v w : Session) : Prop :=
  (∃ i u, Reaches lib name d before made v i u ∧ v.Unreported checker u ∧ w.reportsOf checker =
    (Extension.checkEligible lib checker target i (context name d v) u).2.reportsOf checker) ∨
  (∀ i u, ¬Reaches lib name d before made v i u) ∧ w.reportsOf checker = v.reportsOf checker

lemma afterStage_at_checker {t w : Session} {prepared : Instance}
    (hannounce : announce d v.registry.pipeline v = (.ok (), t))
    (hstage : runStage (Extension.beforeInit lib) .beforeInit (context name d v)
      v.registry.pipeline made t = (.ok prepared, w))
    (hvw : v.Unreported checker w)
    (hbefore : ∀ e ∈ before, ¬e.extension.Checks checker)
    (hrest : ∀ e ∈ rest, ¬e.extension.Checks checker) :
    Stays (runStage (Extension.afterInit lib) .afterInit (context name d v)
      (before ++ .checking entryName checker target :: rest) prepared) w
      (AtChecker lib checker target name d before made v) := by
  by_cases hpass : ∃ i u, Passes (Extension.afterInit lib) (context name d v) before prepared w i u
  · obtain ⟨i, u, hpass⟩ := hpass
    have hreach : Reaches lib name d before made v i u := ⟨t, prepared, w, hannounce, hstage, hpass⟩
    have hunreported := hvw.trans (hpass.unreported hbefore)
    exact (afterStage_past hpass hrest).mono (fun _ _ hx => .inl ⟨i, u, hreach, hunreported, hx⟩)
      (fun _ _ hx => .inl ⟨i, u, hreach, hunreported, hx⟩)
  · have hnone : ∀ i u, ¬Reaches lib name d before made v i u :=
      fun i u h => hpass ⟨i, u, h.passes hannounce hstage⟩
    exact (afterStage_short (fun i u h => hpass ⟨i, u, h⟩) hbefore).mono
      (fun _ _ hx => .inr ⟨hnone, (hvw.trans hx).reportsOf_eq⟩)
      (fun _ _ hx => .inr ⟨hnone, (hvw.trans hx).reportsOf_eq⟩)

lemma not_reaches_of_announce {e : RegistryError} {t : Session}
    (h : announce d v.registry.pipeline v = (.error e, t)) (i : Instance) (u : Session) :
    ¬Reaches lib name d before made v i u := by
  rintro ⟨t', -, -, h', -⟩
  cases h.symm.trans h'

lemma not_reaches_of_beforeStage {e : RegistryError} {t w : Session}
    (hannounce : announce d v.registry.pipeline v = (.ok (), t))
    (h : runStage (Extension.beforeInit lib) .beforeInit (context name d v) v.registry.pipeline made
      t = (.error e, w)) (i : Instance) (u : Session) : ¬Reaches lib name d before made v i u := by
  rintro ⟨t', _, _, hannounce', h', -⟩
  obtain rfl : t = t' := congrArg Prod.snd (hannounce.symm.trans hannounce')
  cases h.symm.trans h'

lemma equip_at_checker (hv : v.CheckersApart)
    (hsplit : v.registry.pipeline = before ++ .checking entryName checker target :: rest) :
    Stays (equip lib name d made) v (AtChecker lib checker target name d before made v) := by
  obtain ⟨hbefore, hrest⟩ := hv.split hsplit
  apply ends_get_bind
  refine (ends_self.and (ends_announce (Session.writes_unreported checker) d _ v)).bind
    (fun _ t ⟨hannounce, ht⟩ => ?_)
    (fun _ _ ⟨h, ht⟩ => .inr ⟨not_reaches_of_announce h, ht.reportsOf_eq⟩)
  refine (ends_self.and (beforeStage_unreported (context name d v) _ made t)).bind
    (fun prepared w ⟨hstage, hw⟩ => ?_)
    (fun _ _ ⟨h, hw⟩ => .inr ⟨not_reaches_of_beforeStage hannounce h, (ht.trans hw).reportsOf_eq⟩)
  have hafter : Stays (runStage (Extension.afterInit lib) .afterInit (context name d v)
      v.registry.pipeline prepared) w (AtChecker lib checker target name d before made v) := by
    rw [hsplit]
    exact afterStage_at_checker hannounce hstage (ht.trans hw) hbefore hrest
  exact hafter.bind (fun _ _ hx => hx) (fun _ _ => id)

lemma equip_unreported (hv : ∀ e ∈ v.registry.pipeline, ¬e.extension.Checks checker) :
    Stays (equip lib name d made) v fun w => w.reportsOf checker = v.reportsOf checker := by
  have hwrites := Session.writes_unreported checker
  apply ends_get_bind
  refine (ends_announce hwrites d _ v).bind (fun _ t ht => ?_) (fun _ _ ht => ht.reportsOf_eq)
  refine (beforeStage_unreported (context name d v) _ made t).bind (fun prepared w hw => ?_)
    (fun _ _ hw => (ht.trans hw).reportsOf_eq)
  refine (afterStage_unreported hv prepared w).bind (fun _ x hx => ?_)
    (fun _ _ hx => ((ht.trans hw).trans hx).reportsOf_eq)
  exact ((ht.trans hw).trans hx).reportsOf_eq

end

lemma Passes.unique {hook : Extension → Instance → InitContext → Act Session HookError (Option Instance)}
    {ctx : InitContext} {before : Pipeline} {i j j' : Instance} {s t t' : Session}
    (h : Passes hook ctx before i s j t) (h' : Passes hook ctx before i s j' t') :
    j = j' ∧ t = t' := by
  have hrun := (h.runStage_append .afterInit []).symm.trans (h'.runStage_append .afterInit [])
  obtain ⟨hj, ht⟩ := Prod.mk.inj hrun
  exact ⟨Except.ok.inj hj, ht⟩

lemma Reaches.unique {name : String} {d : Definition} {before : Pipeline} {made i i' : Instance}
    {u u' v : Session} (h : Reaches lib name d before made v i u)
    (h' : Reaches lib name d before made v i' u') : i = i' ∧ u = u' := by
  obtain ⟨t, prepared, w, hannounce, hstage, hpass⟩ := h
  exact hpass.unique (h'.passes hannounce hstage)

/-- Whether the creation comes to the entry of the checker with the instance `i`, once its factory has
ended with `made` and left the session `v`. -/
def Inspects (lib : Catalog) (checker target : Nat) (name : String) (d : Definition)
    (made : Except RegistryError Instance) (v : Session) (i : Instance) : Prop :=
  ∃ entryName before rest first u, made = .ok first ∧
    v.registry.pipeline = before ++ .checking entryName checker target :: rest ∧
    Reaches lib name d before first v i u

structure Verdict (lib : Catalog) (checker : Nat) (name : String) (d : Definition)
    (made : Except RegistryError Instance) (v w : Session) : Prop where
  reported : ∀ target i, Inspects lib checker target name d made v i →
    Ineligible target (context name d v) i →
    w.reportsOf checker =
      v.reportsOf checker ++ [Report.of lib checker target (context name d v) i]
  spared : (∀ target i, Inspects lib checker target name d made v i →
    ¬Ineligible target (context name d v) i) → w.reportsOf checker = v.reportsOf checker
  handed_on : ∀ entryName target before first i u, Reaches lib name d before first v i u →
    ∃ x, Reaches lib name d (before ++ [.checking entryName checker target]) first v i x

theorem furnish_verdict {name : String} {d : Definition} {made a : Except RegistryError Instance}
    {v w : Session} (hv : v.CheckersApart) (h : furnish lib name d made v = (a, w)) :
    Verdict lib checker name d made v w := by
  refine ⟨fun target i hi hineligible => ?_, fun hnone => ?_, fun _ _ _ _ _ _ h => h.past_checker⟩
  · obtain ⟨entryName, before, rest, first, u, rfl, hsplit, hreach⟩ := hi
    have hrun : AtChecker lib checker target name d before first v (equip lib name d first v).2 :=
      (equip_at_checker hv hsplit).state
    rw [show equip lib name d first v = (a, w) from h] at hrun
    rcases hrun with ⟨i', u', hreach', hu, hw⟩ | ⟨hnone, -⟩
    · obtain ⟨rfl, rfl⟩ := hreach.unique hreach'
      rw [hw, Extension.checkEligible_of_ineligible hineligible, hu.reportsOf_eq]
    · exact absurd hreach (hnone i u)
  cases made with
  | error e =>
    obtain ⟨-, rfl⟩ := Prod.mk.inj h
    rfl
  | ok first =>
    have hequip : (equip lib name d first v).2 = w := congrArg Prod.snd h
    by_cases hchecker : ∃ e ∈ v.registry.pipeline, e.extension.Checks checker
    · obtain ⟨⟨entryName, -⟩, he, target, rfl⟩ := hchecker
      obtain ⟨before, rest, hsplit⟩ := List.append_of_mem he
      have hrun : AtChecker lib checker target name d before first v (equip lib name d first v).2 :=
        (equip_at_checker hv hsplit).state
      rw [hequip] at hrun
      rcases hrun with ⟨i, u, hreach, hu, hw⟩ | ⟨-, hw⟩
      · have hspared := hnone target i ⟨entryName, before, rest, first, u, rfl, hsplit, hreach⟩
        rw [hw, Extension.checkEligible_of_not hspared, hu.reportsOf_eq]
      · exact hw
    · have hrun : (equip lib name d first v).2.reportsOf checker = v.reportsOf checker :=
        (equip_unreported fun e he hchecks => hchecker ⟨e, he, hchecks⟩).state
      rwa [hequip] at hrun

end Creation

end ComponentContainer
