import ComponentContainer.Proofs.Container.EagerPass
import ComponentContainer.Proofs.Orchestration.Faults
import ComponentContainer.Proofs.Orchestration.PhaseOrder
import ComponentContainer.Proofs.Orchestration.PipelineOrder
import ComponentContainer.Proofs.Orchestration.Traversal

/-! When a phase, a build and a refresh can fail although no factory, hook or listener fails and all
extensions have the capabilities that their definitions declare: only where a definition has gone
between the search that found it and its turn. -/

namespace ComponentContainer

open Turn

/-! ### What extensions are held to -/

namespace Session

variable (lib : Catalog) (name : String) (s : Session)

def completes : Bool :=
  (s.registry.singleton? name).isSome || decide (name ∈ s.registry.inCreation) ||
    match (s.registry.beginCreation name).snapshot name with
    | .error _ => true
    | .ok (d, r) =>
      (Creation.complete lib (Creation.resolveWithin lib ((Creation.roster lib s).length - 1)) name d
        { s with registry := r }).1.isOk

def fits : Bool :=
  match s.registry.find? name, (resolve lib name s).1 with
  | some d, .ok i => d.capabilities.toList.all fun c =>
    i.extension?.any fun e => decide (c ∈ e.behaviour.capabilities)
  | _, _ => true

end Session

def Turn.isSound (lib : Catalog) (x : Turn Session) : Bool :=
  match x.deed with
  | .created name _ => x.before.completes lib name && x.before.fits lib name
  | .mutated _ answer | .finalized _ answer => answer.isOk
  | .searched .. | .edited _ => true

/-- A search has found the name, and the definition that was there when its turn came, if there was
one, did not declare the capability. -/
def Turn.Withdrawn (turns : List (Turn Session)) (e : BootstrapError) : Prop :=
  ∃ name phase source, e = .registry name phase source ∧ ∃ c before x after answer,
    turns = before ++ x :: after ∧ Found before c name ∧ x.deed = .created name answer ∧
    ∀ d, x.before.registry.find? name = some d → c ∉ d.capabilities

def Session.Refuses (s : Session) (e : BootstrapError) : Prop :=
  ∃ name phase, e = .registry name phase (.currentlyInCreation name) ∧ name ∈ s.registry.inCreation

lemma Session.not_refuses {s : Session} {e : BootstrapError} (hidle : s.registry.inCreation = []) :
    ¬s.Refuses e := by
  rintro ⟨name, phase, -, hmem⟩
  rw [hidle] at hmem
  cases hmem

namespace Session

variable {lib : Catalog} {name : String} {s t : Session}

lemma resolve_error {e : RegistryError} (hcompletes : s.completes lib name = true)
    (h : resolve lib name s = (.error e, t)) :
    e = .currentlyInCreation name ∧ name ∈ s.registry.inCreation ∨
      e = .noSuchDefinition name ∧ s.registry.find? name = none := by
  change Creation.resolveWithin lib (Creation.roster lib s).length name s = _ at h
  cases hstored : s.registry.singleton? name with
  | some i =>
    rw [Creation.resolveWithin_stored hstored] at h
    cases h
  | none =>
    by_cases hmem : name ∈ s.registry.inCreation
    · rw [Creation.resolveWithin_refused hstored hmem] at h
      cases h
      exact .inl ⟨rfl, hmem⟩
    unfold completes at hcompletes
    rw [hstored, Option.isSome_none, decide_eq_false hmem, Bool.false_or, Bool.false_or]
      at hcompletes
    cases hdepth : (Creation.roster lib s).length with
    | zero =>
      rw [hdepth, Creation.resolveWithin_zero hstored hmem] at h
      cases h
      refine .inr ⟨rfl, ?_⟩
      have hroster : Creation.roster lib s = [] := List.length_eq_zero_iff.1 hdepth
      simp only [Creation.roster, List.append_eq_nil_iff, List.map_eq_nil_iff] at hroster
      rw [Registry.find?, hroster.1.1.1, List.lookup_nil]
    | succ depth =>
      rw [hdepth, Creation.resolveWithin_succ hstored hmem, Creation.enter_run] at h
      cases hsnapshot : (s.registry.beginCreation name).snapshot name with
      | error e' =>
        rw [Creation.create_error hsnapshot] at h
        cases h
        obtain ⟨rfl, hnone⟩ := Registry.snapshot_eq_error hsnapshot
        exact .inr ⟨rfl, hnone⟩
      | ok p =>
        obtain ⟨d, r⟩ := p
        rw [hsnapshot, hdepth, Nat.add_sub_cancel] at hcompletes
        dsimp only at hcompletes
        rw [Creation.create_ok hsnapshot] at h
        rcases hcomplete : Creation.complete lib (Creation.resolveWithin lib depth) name d
          { s with registry := r } with ⟨e' | i, u⟩
        · rw [hcomplete] at hcompletes
          cases hcompletes
        · rw [hcomplete] at h
          cases h

lemma not_declares_of_instantiate {answer : Except RegistryError Extension} {c : Capability}
    (hcompletes : s.completes lib name = true) (hfits : s.fits lib name = true)
    (h : (surface lib).instantiate name s = (answer, t))
    (hanswer : ∀ e, answer = .ok e → c ∉ e.behaviour.capabilities) :
    answer = .error (.currentlyInCreation name) ∧ name ∈ s.registry.inCreation ∨
      ∀ d, s.registry.find? name = some d → c ∉ d.capabilities := by
  change (resolve lib name >>= _ : Act Session _ _) s = _ at h
  rw [Act.bind_run] at h
  rcases hresolve : resolve lib name s with ⟨e | i, u⟩ <;> rw [hresolve] at h
  · rcases resolve_error hcompletes hresolve with ⟨rfl, hmem⟩ | ⟨-, hnone⟩
    · exact .inl ⟨(Prod.mk.inj h).1.symm, hmem⟩
    · exact .inr fun d hd => by simp [hnone] at hd
  · refine .inr fun d hd hc => ?_
    unfold fits at hfits
    rw [hd, hresolve] at hfits
    obtain ⟨e, he, hmem⟩ := (Option.any_eq_true _ _).1 (List.all_eq_true.1 hfits c hc)
    simp only [he] at h
    exact hanswer e (Prod.mk.inj h).1.symm (of_decide_eq_true hmem)

lemma addToPipeline_ok {e : Extension} (he : Capability.instanceHook ∈ e.behaviour.capabilities)
    (name : String) (s : Session) : (Session.addToPipeline name e s).1 = .ok () := by
  unfold Session.addToPipeline Registry.addToPipeline PipelineEntry.make
  rw [if_pos he]
  rfl

instance {P : Extension → Prop} : Std.Refl (Leads lib P) := ⟨fun _ => .refl⟩

instance {P : Extension → Prop} : IsTrans Session (Leads lib P) := ⟨fun _ _ _ => .trans⟩

end Session

open Session

section

variable {A : String → Session → Session → Prop} {L : Session → Session → Prop} {lib : Catalog}

lemma Session.Passage.surface_goes (hL : Passage lib (fun _ => True) A L) :
    (surface lib).Goes L where
  find _ := hL.refl
  instantiate name _ := (Creation.instantiate_goes hL
    (resolve_goes hL fun _ _ _ => trivial) name).along fun _ _ _ _ => trivial
  invalidate := hL.invalidates
  editable := hL.refl
  edit e _ := (e.perform_goes hL).along fun _ _ _ _ => trivial
  addToPipeline name e _ := (hL.adds name (e := e) trivial).along fun _ _ _ _ => trivial
  fresh := hL.fresh
  note := hL.note
  record := hL.record

lemma Session.Passage.scripted_goes (hL : Passage lib (fun _ => True) A L) :
    (Hooks.scripted lib (surface lib)).Goes L := by
  have hhooks (s : Session) : (Hooks.scripted lib (surface lib)).Simulates
      (Hooks.scripted lib (surface lib)) (Onward L s) .same :=
    Hooks.scripted_same (hL.surface_simulates (fun _ _ _ => trivial) fun _ _ _ _ => trivial)
  exact ⟨fun name e s => ((hhooks s).mutate name e e rfl s s ⟨rfl, hL.refl s⟩).2.2,
    fun name e s => ((hhooks s).finalize name e e rfl s s ⟨rfl, hL.refl s⟩).2.2⟩

end

lemma surface_leads (lib : Catalog) : (surface lib).Goes (Leads lib fun _ => True) :=
  passage_leads.surface_goes

lemma scripted_leads (lib : Catalog) :
    (Hooks.scripted lib (surface lib)).Goes (Leads lib fun _ => True) :=
  passage_leads.scripted_goes

lemma Turn.Fault.withdrawn {lib : Catalog} {P : Extension → Prop} {turns : List (Turn Session)}
    {s : Session} {e : BootstrapError} (h : Fault turns e)
    (hsound : ∀ x ∈ turns, x.isSound lib = true)
    (hfaithful : ∀ x ∈ turns, x.Faithful (surface lib) ∧ s.Leads lib P x.before) :
    Withdrawn turns e ∨ s.Refuses e := by
  have hasked {c : Capability} {name : String} {answer : Except RegistryError Extension}
      (hasked : Asked turns c name answer)
      (hanswer : ∀ e, answer = .ok e → c ∉ e.behaviour.capabilities) :
      (answer = .error (.currentlyInCreation name) ∧ name ∈ s.registry.inCreation) ∨
      ∃ c before x after answer, turns = before ++ x :: after ∧ Found before c name ∧
        x.deed = .created name answer ∧
        ∀ d, x.before.registry.find? name = some d → c ∉ d.capabilities := by
    obtain ⟨before, x, after, hturns, hfound, hx⟩ := hasked
    have hmem : x ∈ turns := hturns ▸ List.mem_append_right _ List.mem_cons_self
    obtain ⟨hrun, hleads⟩ := hfaithful x hmem
    have hsound := hsound x hmem
    unfold isSound at hsound
    rw [hx, Bool.and_eq_true] at hsound
    refine (not_declares_of_instantiate hsound.1 hsound.2 (hrun name answer hx) hanswer).imp
      (fun h => ⟨h.1, hleads.inCreation_eq ▸ h.2⟩) fun h => ?_
    exact ⟨c, before, x, after, answer, hturns, hfound, hx, h⟩
  cases h with
  | hook hx hanswer =>
    have hsound := hsound _ hx
    unfold isSound at hsound
    rcases hanswer with hanswer | hanswer
    all_goals
      rw [hanswer] at hsound
      cases hsound
  | refused h =>
    refine (hasked h nofun).symm.imp (fun h => ⟨_, _, _, rfl, h⟩) fun ⟨h, hmem⟩ => ?_
    cases h
    exact ⟨_, _, rfl, hmem⟩
  | unfit h hunfit =>
    refine (hasked h fun e he => Except.ok.inj he ▸ hunfit).symm.imp
      (fun h => ⟨_, _, _, rfl, h⟩) fun ⟨h, _⟩ => ?_
    cases h

namespace Orchestration

section

variable {lib : Catalog} {supplied : List Supplied} {o t : Orchestration Session}
  {e : BootstrapError}

lemma surface_takesHooks : (surface lib).TakesHooks :=
  fun name _ s he => addToPipeline_ok he name s

lemma inCreation_of_leads {P : Extension → Prop} {s x : Session} (hidle : s.registry.inCreation = [])
    (h : s.Leads lib P x) : x.registry.inCreation = [] := h.inCreation_eq.trans hidle

lemma mutationPhase_withdrawn
    (hsound : ∀ x ∈ phaseTurns (surface lib) (.scripted lib (surface lib)) supplied o,
      x.isSound lib = true)
    (h : mutationPhase (surface lib) (.scripted lib (surface lib)) supplied o = (.error e, t)) :
    Withdrawn (phaseTurns (surface lib) (.scripted lib (surface lib)) supplied o) e ∨
      o.registry.Refuses e := by
  have hsince := phaseTurns_since supplied (surface_leads lib) (scripted_leads lib) o
  have hmonitored := mutationPhase_monitored (surface lib) (.scripted lib (surface lib)) supplied
    ⟨(o.registry, []), o.invoker⟩
  refine Turn.Fault.withdrawn ?_ hsound hsince
  unfold phaseTurns
  rcases hrun : mutationPhase (surface lib).monitored (Hooks.scripted lib (surface lib)).monitored
    supplied ⟨(o.registry, []), o.invoker⟩ with ⟨answer, u⟩
  rw [hrun] at hmonitored
  obtain ⟨rfl, -⟩ := Prod.mk.inj (hmonitored.symm.trans h)
  exact (ends_mutationPhase_fault (surface_alwaysEditable lib) supplied _).error hrun

lemma mutationPhase_pipelineBuilt {summary : MutationSummary}
    (h : mutationPhase (surface lib) (.scripted lib (surface lib)) supplied o = (.ok summary, t)) :
    t.invoker.pipelineBuilt = o.invoker.pipelineBuilt := by
  have hmonitored := mutationPhase_monitored (surface lib) (.scripted lib (surface lib)) supplied
    ⟨(o.registry, []), o.invoker⟩
  rcases hrun : mutationPhase (surface lib).monitored (Hooks.scripted lib (surface lib)).monitored
    supplied ⟨(o.registry, []), o.invoker⟩ with ⟨answer, u⟩
  rw [hrun] at hmonitored
  obtain ⟨rfl, rfl⟩ := Prod.mk.inj (hmonitored.symm.trans h)
  exact ((ends_mutationPhase_fault (surface_alwaysEditable lib) supplied _).ok hrun).pipelineBuilt_eq

lemma buildPipeline_withdrawn (hfirst : o.invoker.pipelineBuilt = false)
    (hsound : ∀ x ∈ buildTurns (surface lib) o, x.isSound lib = true)
    (h : buildPipeline (surface lib) o = (.error e, t)) :
    Withdrawn (buildTurns (surface lib) o) e ∨ o.registry.Refuses e := by
  have hsince := buildTurns_since (surface_leads lib) o
  have hmonitored := buildPipeline_monitored (surface lib) ⟨(o.registry, []), o.invoker⟩
  refine Turn.Fault.withdrawn ?_ hsound hsince
  unfold buildTurns
  rcases hrun : buildPipeline (surface lib).monitored ⟨(o.registry, []), o.invoker⟩ with ⟨answer, u⟩
  rw [hrun] at hmonitored
  obtain ⟨rfl, -⟩ := Prod.mk.inj (hmonitored.symm.trans h)
  exact (ends_buildPipeline_fault surface_takesHooks hfirst).error hrun

end

end Orchestration

open Orchestration

namespace Container

variable {lib : Catalog} {run : String} {c : Container} {s t : Session}

def eagerTurns (lib : Catalog) : List String → Session → List (String × Session)
  | [], _ => []
  | name :: rest, s =>
    if isLazy s name then eagerTurns lib rest s
    else (name, s) :: match Session.resolve lib name s with
      | (.ok _, t) => eagerTurns lib rest t
      | (.error _, _) => []

lemma ends_createEager_withdrawn {names : List String} (hidle : s.registry.inCreation = [])
    (hcompletes : ∀ p ∈ eagerTurns lib names s, p.2.completes lib p.1 = true) :
    Act.Ends (createEager lib names) s (fun _ _ => True)
      (fun e _ => ∃ p ∈ eagerTurns lib names s, p.2.registry.find? p.1 = none ∧
        e = .registry p.1 .singletonCreation (.noSuchDefinition p.1)) := by
  induction names generalizing s with
  | nil => trivial
  | cons name rest ih =>
    unfold eagerTurns at hcompletes ⊢
    apply Act.ends_get_bind
    by_cases hlazy : isLazy s name = true
    · rw [if_pos hlazy] at hcompletes ⊢
      rw [if_neg (by simpa [isLazy] using hlazy)]
      exact ih hidle hcompletes
    · rw [if_neg hlazy] at hcompletes ⊢
      rw [if_pos (by simpa [isLazy] using hlazy)]
      obtain ⟨hname, hrest⟩ := List.forall_mem_cons.1 hcompletes
      have hleads : s.Leads lib (fun _ => True) (Session.resolve lib name s).2 :=
        (resolve_goes passage_leads (fun _ _ _ => trivial) name).along fun _ _ _ _ => trivial
      have hturn : Act.Ends (discard
          ((Session.resolve lib name).adapt (BootstrapError.registry name .singletonCreation))) s
          (fun _ u => ∃ i, Session.resolve lib name s = (.ok i, u))
          (fun e u => ∃ e', e = .registry name .singletonCreation e' ∧
            Session.resolve lib name s = (.error e', u)) := by
        rw [Act.discard_eq]
        exact (Act.ends_self.adapt fun e u h => ⟨e, rfl, h⟩).bind
          (fun i u h => Act.ends_pure ⟨i, h⟩) (fun _ _ => id)
      refine hturn.bind (fun _ u hu => ?_) (fun e u hu => ?_)
      · obtain ⟨i, hresolve⟩ := hu
        rw [hresolve] at hleads hrest ⊢
        refine (ih (inCreation_of_leads hidle hleads) hrest).mono (fun _ _ => id) fun e _ h => ?_
        obtain ⟨p, hp, hgone⟩ := h
        exact ⟨p, List.mem_cons_of_mem _ hp, hgone⟩
      · obtain ⟨e', he, hresolve⟩ := hu
        obtain ⟨rfl, hnone⟩ := (resolve_error hname hresolve).resolve_left (by simp [hidle])
        exact ⟨(name, s), List.mem_cons_self, hnone, he⟩

lemma onEvent_answer (e : Extension) (event : Event) (s t : Session) :
    (e.onEvent event s).1 = (e.onEvent event t).1 := by
  rcases e with ⟨stamp, _ | ⟨id, ⟨m, f, h, r, _ | rules⟩⟩ | _ | _⟩
  case scripted.some =>
    have hrun (u : Session) : (Extension.onEvent ⟨stamp, .scripted id ⟨m, f, h, r, some rules⟩⟩ event
        u).1 = ((rules.find? (·.on.all (· = event.kind))).bind (·.refusal)).elim (.ok ())
          (.error <| .plain ·) := by
      unfold Extension.onEvent
      simp only
      rw [Act.bind_run]
      cases (rules.find? (·.on.all (· = event.kind))).bind (·.refusal) <;> rfl
    rw [hrun, hrun]
  all_goals rfl

lemma ends_deliver_ok {event : Event} {listeners : List (String × Extension)}
    (h : ∀ l ∈ listeners, (l.2.onEvent event s).1 = .ok ()) (t : Session) :
    Act.Ends (deliver event listeners) t (fun _ _ => True) (fun _ _ => False) := by
  induction listeners generalizing t with
  | nil => trivial
  | cons l rest ih =>
    obtain ⟨hl, hrest⟩ := List.forall_mem_cons.1 h
    have htold : Act.Ends (l.2.onEvent event) t (fun _ _ => True) (fun _ _ => False) := by
      unfold Act.Ends
      rw [← Prod.eta (l.2.onEvent event t), onEvent_answer l.2 event t s, hl]
      trivial
    exact (htold.adapt fun _ _ => id).bind (fun _ u _ => ih hrest u) (fun _ _ => id)

def outset (run : String) (c : Container) : Orchestration Session :=
  ⟨(admitDetector c.config (c.opened run)).2.session, .new run⟩

/-- No factory, hook or listener fails in a refresh, and all extensions have the capabilities that
their definitions declare. -/
structure Untroubled (lib : Catalog) (run : String) (c : Container) : Prop where
  phase : ∀ x ∈ phaseTurns (surface lib) (.scripted lib (surface lib)) c.supplied (c.outset run),
    x.isSound lib = true
  build : ∀ summary o, mutationPhase (surface lib) (.scripted lib (surface lib)) c.supplied
      (c.outset run) = (.ok summary, o) →
    ∀ x ∈ buildTurns (surface lib) o, x.isSound lib = true
  eager : c.config.preInstantiate = true → ∀ built d,
    assemble lib run (c.opened run) = (.ok built, d) →
    ∀ p ∈ eagerTurns lib d.session.registry.names d.session, p.2.completes lib p.1 = true
  listeners : ∀ built d t, assemble lib run (c.opened run) = (.ok built, d) →
    (if c.config.preInstantiate then createEager lib d.session.registry.names d.session
      else (.ok (), d.session)) = (.ok (), t) →
    ∀ l ∈ t.listeners,
      (l.2.onEvent (.refreshed c.config.name t.registry.singletons.length) t).1 = .ok ()

/-- A definition has gone between the search that found it, or the start of the eager pass, and its
turn. -/
def Withdraws (lib : Catalog) (run : String) (c : Container) (e : BootstrapError) : Prop :=
  Withdrawn (phaseTurns (surface lib) (.scripted lib (surface lib)) c.supplied (c.outset run)) e ∨
  (∃ summary o, mutationPhase (surface lib) (.scripted lib (surface lib)) c.supplied
      (c.outset run) = (.ok summary, o) ∧ Withdrawn (buildTurns (surface lib) o) e) ∨
  ∃ built d, assemble lib run (c.opened run) = (.ok built, d) ∧
    ∃ p ∈ eagerTurns lib d.session.registry.names d.session, p.2.registry.find? p.1 = none ∧
      e = .registry p.1 .singletonCreation (.noSuchDefinition p.1)

lemma ends_admitDetector (config : ContainerConfig) (c : Container) :
    Act.Ends (admitDetector config) c (fun _ d => d = (admitDetector config c).2)
      (fun _ _ => False) := by
  unfold admitDetector
  split
  · have hdetector : Capability.instanceHook ∈ listenerDetector.behaviour.capabilities := by decide
    have hadd : Act.Ends registerDetector c.session (fun _ s => s = (registerDetector c.session).2)
        (fun _ _ => False) := by
      unfold Act.Ends registerDetector
      rw [Act.adapt_run, addToPipeline_ok hdetector]
      rfl
    refine (ends_onSession hadd).mono (fun _ d ⟨hd, hc⟩ => ?_) (fun _ _ h => h.1)
    rw [hc, hd]
    rfl
  · exact rfl

lemma ends_orchestrate_run {ε α : Type} (m : Act (Orchestration Session) ε α) (i : Invoker)
    (c : Container) :
    Act.Ends (orchestrate m i) c (fun p d => m ⟨c.session, i⟩ = (.ok p.1, ⟨d.session, p.2⟩))
      (fun e _ => ∃ o, m ⟨c.session, i⟩ = (.error e, o)) := by
  unfold Act.Ends orchestrate
  rcases m ⟨c.session, i⟩ with ⟨e | a, o⟩
  · exact ⟨o, rfl⟩
  · exact rfl

lemma ends_assemble_error (c : Container) :
    Act.Ends (assemble lib run) (c.opened run) (fun _ _ => True) (fun e _ =>
      (∃ o, mutationPhase (surface lib) (.scripted lib (surface lib)) c.supplied (c.outset run) =
        (.error e, o)) ∨
      ∃ summary o o', mutationPhase (surface lib) (.scripted lib (surface lib)) c.supplied
        (c.outset run) = (.ok summary, o) ∧ buildPipeline (surface lib) o = (.error e, o')) := by
  apply Act.ends_get_bind
  refine (ends_admitDetector _ _).bind (fun _ d hd => ?_) (fun _ _ => False.elim)
  subst hd
  refine (ends_orchestrate_run _ _ _).bind (fun p b hphase => ?_) (fun e _ h => .inl h)
  refine (ends_orchestrate_run _ _ b).bind (fun q b' _ => ?_) (fun e _ ⟨o', hbuild⟩ => ?_)
  · refine Act.ends_modify_bind ((ends_admitDetector _ _).bind (fun _ _ _ => ?_)
      (fun _ _ => False.elim))
    trivial
  · exact .inr ⟨p.1, _, o', hphase, hbuild⟩

lemma ends_populate_withdrawn {config : ContainerConfig} (hidle : s.registry.inCreation = [])
    (hcompletes : config.preInstantiate = true →
      ∀ p ∈ eagerTurns lib s.registry.names s, p.2.completes lib p.1 = true)
    (hlisteners : ∀ t, (if config.preInstantiate then createEager lib s.registry.names s
        else (.ok (), s)) = (.ok (), t) → ∀ l ∈ t.listeners,
      (l.2.onEvent (.refreshed config.name t.registry.singletons.length) t).1 = .ok ()) :
    Act.Ends (populate lib config) s (fun _ _ => True)
      (fun e _ => ∃ p ∈ eagerTurns lib s.registry.names s, p.2.registry.find? p.1 = none ∧
        e = .registry p.1 .singletonCreation (.noSuchDefinition p.1)) := by
  unfold populate
  dsimp only
  split
  · rename_i hpre
    refine Act.ends_get_bind (((ends_createEager_withdrawn hidle (hcompletes hpre)).and
      Act.ends_self).bind (fun _ t ⟨_, ht⟩ => ?_) (fun _ _ h => h.1))
    refine Act.ends_get_bind (Act.ends_get_bind ?_)
    exact (ends_deliver_ok (hlisteners t (by rw [if_pos hpre, ht])) t).mono (fun _ _ => id)
      (fun _ _ => False.elim)
  · rename_i hpre
    refine Act.ends_get_bind (Act.ends_get_bind ?_)
    exact (ends_deliver_ok (hlisteners s (by rw [if_neg hpre])) s).mono (fun _ _ => id)
      (fun _ _ => False.elim)

lemma withdraws_of_assemble (hidle : c.session.registry.inCreation = []) (h : c.Untroubled lib run)
    {e : BootstrapError} {d : Container} (herror : assemble lib run (c.opened run) = (.error e, d)) :
    c.Withdraws lib run e := by
  have hadmit : Act.Stays (admitDetector c.config) (c.opened run)
      (Along (Leads lib fun _ => True) (c.opened run)) :=
    stays_admitDetector passage_leads trivial c.config fun _ _ _ _ => trivial
  have hidle : (c.outset run).registry.registry.inCreation = [] :=
    inCreation_of_leads (s := (c.opened run).session) hidle hadmit.state.session
  rcases (ends_assemble_error c).error herror with ⟨o, hphase⟩ | ⟨summary, o, o', hphase, hbuild⟩
  · exact .inl ((mutationPhase_withdrawn h.phase hphase).resolve_right (not_refuses hidle))
  · refine .inr (.inl ⟨summary, o, hphase, ?_⟩)
    have hleads := ((passage_leads (P := fun _ => True)).mutationPhase_goes (fun _ _ _ => trivial)
      (fun _ _ _ _ => trivial) c.supplied (.new run)).ok hphase
    exact (buildPipeline_withdrawn (mutationPhase_pipelineBuilt hphase)
      (h.build summary o hphase) hbuild).resolve_right
        (not_refuses (inCreation_of_leads hidle hleads))

lemma ends_bootstrap_withdrawn (hidle : c.session.registry.inCreation = [])
    (h : c.Untroubled lib run) :
    Act.Ends (bootstrap lib run) (c.opened run) (fun _ _ => True)
      (fun e _ => c.Withdraws lib run e) := by
  unfold Act.Ends
  rw [bootstrap_run]
  have halong : Act.Stays (assemble lib run) (c.opened run)
      (Along (Leads lib fun _ => True) (c.opened run)) :=
    stays_assemble passage_leads (fun _ _ _ => trivial) trivial run fun _ _ _ _ => trivial
  refine (halong.and Act.ends_self).bind (fun built d ⟨hd, hassemble⟩ => ?_)
    (fun e d ⟨_, hassemble⟩ => withdraws_of_assemble hidle h hassemble)
  have hrested : d.session.registry.inCreation = [] :=
    inCreation_of_leads (s := (c.opened run).session) hidle hd.session
  have hpopulate := ends_populate_withdrawn hrested
    (fun hpre => h.eager hpre built d hassemble) fun t => h.listeners built d t hassemble
  refine (ends_onSession hpopulate).bind (fun _ _ _ => ?_) (fun e _ ⟨he, _⟩ => ?_)
  · exact Act.ends_get_bind trivial
  · exact .inr (.inr ⟨built, d, hassemble, he⟩)

end Container

/-- If no factory, hook or listener fails and every extension has the capabilities that its
definition declares, then a phase, the first build of an invoker and a refresh succeed, unless a
definition has gone between the search that found it, or the start of the eager pass, and its turn;
then the failure names that definition. A phase or a build that is called in the middle of a creation
may be refused what is in creation. -/
theorem fails_only_where_withdrawn (lib : Catalog) :
    (∀ (supplied : List Supplied) (o : Orchestration Session),
      (∀ x ∈ phaseTurns (surface lib) (.scripted lib (surface lib)) supplied o,
        x.isSound lib = true) →
      (mutationPhase (surface lib) (.scripted lib (surface lib)) supplied o).1.isOk = true ∨
      ∃ e, (mutationPhase (surface lib) (.scripted lib (surface lib)) supplied o).1 = .error e ∧
        (Withdrawn (phaseTurns (surface lib) (.scripted lib (surface lib)) supplied o) e ∨
          o.registry.Refuses e)) ∧
    (∀ o : Orchestration Session, o.invoker.pipelineBuilt = false →
      (∀ x ∈ buildTurns (surface lib) o, x.isSound lib = true) →
      (buildPipeline (surface lib) o).1.isOk = true ∨
      ∃ e, (buildPipeline (surface lib) o).1 = .error e ∧
        (Withdrawn (buildTurns (surface lib) o) e ∨ o.registry.Refuses e)) ∧
    ∀ (c : Container) (run : String), c.Reachable lib → c.state = .created → c.Untroubled lib run →
      (c.refresh lib run).1.isOk = true ∨
      ∃ e, (c.refresh lib run).1 = .error e ∧ c.Withdraws lib run e := by
  refine ⟨fun supplied o hsound => ?_, fun o hfirst hsound => ?_,
    fun c run hc hstate hsound => ?_⟩
  · rcases hrun : mutationPhase (surface lib) (.scripted lib (surface lib)) supplied o
      with ⟨e | summary, t⟩
    · exact .inr ⟨e, rfl, mutationPhase_withdrawn hsound hrun⟩
    · exact .inl rfl
  · rcases hrun : buildPipeline (surface lib) o with ⟨e | built, t⟩
    · exact .inr ⟨e, rfl, buildPipeline_withdrawn hfirst hsound hrun⟩
    · exact .inl rfl
  · obtain ⟨log, hrun⟩ := Container.refresh_opened lib hstate run
    have hboot := Container.ends_bootstrap_withdrawn hc.inCreation_eq hsound
    rw [hrun]
    rcases hb : Container.bootstrap lib run (c.opened run) with ⟨e | summary, d⟩
    · exact .inr ⟨e, rfl, hboot.error hb⟩
    · exact .inl rfl

def Catalog.orderly : Catalog where
  typeNames := ⟨"", "", "", "", "", "", ""⟩
  blueprints := [.mutator "m" .untagged 0, .finalizer "f" (.ordered 0) 1, .hook "h" (.priority 0) 2,
    { (default : Blueprint) with
      name := "l"
      capabilities := .ofList [.eventListener]
      factory := ⟨[], .fresh (.extension 3)⟩ },
    { (default : Blueprint) with name := "a" }]
  extensions := [.mutator [] [], .scripted none ⟨none, some [], none, none, none⟩,
    .scripted none ⟨none, none, some .silent, none, none⟩,
    .scripted none ⟨none, none, none, none, some []⟩]

namespace Container

def orderly : Container :=
  (⟨.named "c", ∅, [], .created, none⟩ : Container).after .orderly
    ((List.range 5).map fun entry => .perform (.edit (.register entry)))

lemma orderly_untroubled : orderly.Untroubled .orderly "r" where
  phase := by decide +kernel
  build summary o h := by
    have ho : o = (mutationPhase (surface .orderly) (.scripted .orderly (surface .orderly))
      orderly.supplied (orderly.outset "r")).2 := by rw [h]
    rw [ho]
    decide +kernel
  eager _ built d h := by
    have hd : d = (assemble .orderly "r" (orderly.opened "r")).2 := by rw [h]
    rw [hd]
    decide +kernel
  listeners built d t h ht := by
    have hd : d = (assemble .orderly "r" (orderly.opened "r")).2 := by rw [h]
    rw [hd] at ht
    have htold : t = (createEager .orderly
        (assemble .orderly "r" (orderly.opened "r")).2.session.registry.names
        (assemble .orderly "r" (orderly.opened "r")).2.session).2 := by
      rw [if_pos (by decide +kernel)] at ht
      rw [ht]
    rw [htold]
    decide +kernel

theorem orderly_fails_only_where_withdrawn :
    ((mutationPhase (surface .orderly) (.scripted .orderly (surface .orderly)) []
        ⟨orderly.session, .new "r"⟩).1.isOk = true ∨
      ∃ e, (mutationPhase (surface .orderly) (.scripted .orderly (surface .orderly)) []
          ⟨orderly.session, .new "r"⟩).1 = .error e ∧
        Withdrawn (phaseTurns (surface .orderly) (.scripted .orderly (surface .orderly)) []
          ⟨orderly.session, .new "r"⟩) e) ∧
    ((buildPipeline (surface .orderly) ⟨orderly.session, .new "r"⟩).1.isOk = true ∨
      ∃ e, (buildPipeline (surface .orderly) ⟨orderly.session, .new "r"⟩).1 = .error e ∧
        Withdrawn (buildTurns (surface .orderly) ⟨orderly.session, .new "r"⟩) e) ∧
    ((refresh .orderly "r" orderly).1.isOk = true ∨
      ∃ e, (refresh .orderly "r" orderly).1 = .error e ∧ orderly.Withdraws .orderly "r" e) := by
  have hidle : orderly.session.registry.inCreation = [] := by decide +kernel
  obtain ⟨hphase, hbuild, hrefresh⟩ := fails_only_where_withdrawn .orderly
  refine ⟨?_, ?_, hrefresh orderly "r" ((Reachable.new new_named).after _) (by decide +kernel)
    orderly_untroubled⟩
  · refine (hphase [] ⟨orderly.session, .new "r"⟩ (by decide +kernel)).imp id fun ⟨e, he, h⟩ => ?_
    exact ⟨e, he, h.resolve_right (not_refuses hidle)⟩
  · refine (hbuild ⟨orderly.session, .new "r"⟩ rfl (by decide +kernel)).imp id fun ⟨e, he, h⟩ => ?_
    exact ⟨e, he, h.resolve_right (not_refuses hidle)⟩

end Container

def Catalog.removing : Catalog where
  typeNames := ⟨"", "", "", "", "", "", ""⟩
  blueprints := [.finalizer "first" (.priority 0) 0, .finalizer "second" .untagged 1]
  extensions := [.scripted none ⟨none, some [⟨.edit (.remove "second"), false⟩], none, none, none⟩,
    .scripted none ⟨none, some [], none, none, none⟩]

def Session.removing : Session :=
  Session.after .removing [⟨.edit (.register 0), false⟩, ⟨.edit (.register 1), false⟩]

theorem removing_fails : Session.removing.registry.inCreation = [] ∧
    (∀ x ∈ phaseTurns (surface .removing) (.scripted .removing (surface .removing)) []
      ⟨.removing, .new ""⟩, x.isSound .removing = true) ∧
    (mutationPhase (surface .removing) (.scripted .removing (surface .removing)) []
      ⟨.removing, .new ""⟩).1 =
      .error (.registry "second" .finalization (.noSuchDefinition "second")) := by
  refine ⟨by decide +kernel, by decide +kernel, by decide +kernel⟩

end ComponentContainer
