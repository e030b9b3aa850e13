import ComponentContainer.Proofs.Requests

/-! Scripts, factories and creations go along every relation that requests to a registry go
along. -/

namespace ComponentContainer

open Session

variable {lib : Catalog} {P : Extension → Prop} {A : String → Session → Session → Prop}
  {L : Session → Session → Prop}

lemma admits_value (stamp : Nat) (v : Value) : Instance.Admits P ⟨stamp, .value v⟩ :=
  fun _ h => nomatch h

lemma admits_ofExtension {e : Extension} (he : P e) : (Instance.ofExtension e).Admits P :=
  fun _ h => Option.some.inj h ▸ he

lemma Edit.perform_goes (hL : Passage lib P A L) (e : Edit) :
    Goes P L (fun _ => True) (e.perform lib) := by
  cases e with
  | register entry =>
    change Goes P L _ ((do Session.register (← (lib.blueprint entry).build)) >>=
      fun _ => pure Answer.done)
    exact hL.bind (hL.registers entry) fun _ _ => hL.pure trivial
  | remove name => exact hL.bind (hL.removes name) fun _ _ => hL.pure trivial
  | setRole name role =>
    exact hL.bind (hL.amends name fun _ => rfl) fun _ _ => hL.pure trivial
  | setPrecedence name p =>
    exact hL.bind (hL.amends name fun _ => rfl) fun _ _ => hL.pure trivial
  | setLazy name lazy =>
    exact hL.bind (hL.amends name fun _ => rfl) fun _ _ => hL.pure trivial
  | setAttribute name key value =>
    exact hL.bind (hL.amends name fun _ => rfl) fun _ _ => hL.pure trivial
  | contains name => exact goes_get_bind fun _ _ => hL.pure trivial
  | names => exact goes_get_bind fun _ _ => hL.pure trivial

lemma Session.reports_addToPipeline (name : String) (e : Extension) (s : Session) :
    (Session.addToPipeline name e s).2.reports = s.reports := by
  have hstays : Act.Stays (Session.addToPipeline name e) s fun t => t.reports = s.reports := by
    apply Act.ends_get_bind
    cases s.registry.addToPipeline name e with
    | error e => exact rfl
    | ok r => exact rfl
  exact hstays.state

lemma Edit.reports_perform (lib : Catalog) (e : Edit) (s : Session) :
    (e.perform lib s).2.reports = s.reports := by
  have hstays : Act.Stays (e.perform lib) s fun t => t.reports = s.reports := by
    cases e with
    | register entry =>
      refine Act.ends_lift_bind (Act.Ends.bind (Act.ends_get_bind ?_) (fun _ _ => id) fun _ _ => id)
      change Act.Ends (ofExcept (s.registry.register ⟨lib.blueprint entry, s.nextStamp⟩) >>= _) _ _ _
      cases s.registry.register ⟨lib.blueprint entry, s.nextStamp⟩ with
      | error e => exact rfl
      | ok r => exact rfl
    | remove name =>
      refine Act.Ends.bind (Act.ends_get_bind ?_) (fun _ _ => id) fun _ _ => id
      cases s.registry.remove name with
      | error e => exact rfl
      | ok p => exact rfl
    | setRole | setPrecedence | setLazy | setAttribute | contains | names => exact rfl
  exact hstays.state

section

variable (hL : Passage lib P A L) {perform : Action → Act Session ScriptError Answer}
  (hperform : ∀ a, Goes P L (fun _ => True) (perform a)) (id : String)

include hL hperform

lemma Script.runStep_goes (step : Step) :
    Goes P L (fun _ => True) (Script.runStep note perform id step) := by
  refine hL.tryCatch ?_ fun e => ?_
  · exact hL.bind (hperform step.action) fun _ _ => goes_of_along (hL.note _)
  · exact goes_ite (goes_of_along (hL.note _)) (hL.throw e)

lemma Script.run_goes (steps : List Step) :
    Goes P L (fun _ => True) (Script.run note perform id steps) := by
  induction steps with
  | nil => exact hL.pure trivial
  | cons step steps ih => exact hL.bind (runStep_goes hL hperform id step) fun _ _ => ih

end

lemma build_goes (hL : Passage lib P A L)
    (hP : ∀ stamp entry name, P ⟨stamp, (lib.extension entry).behaviour name⟩)
    (spec : InstanceSpec) (id : String) :
    Goes P L (·.Admits P) (liftM (spec.build lib id) : Act Session RegistryError Instance) := by
  cases spec with
  | extension entry =>
    exact goes_lift fun s => ⟨admits_ofExtension (hP _ _ _), hL.fresh s⟩
  | value v => exact goes_lift fun s => ⟨admits_value _ _, hL.fresh s⟩

abbrev HandsOn (P : Extension → Prop) (A : Session → Session → Prop)
    (m : Act Session HookError (Option Instance)) (s : Session) : Prop :=
  Act.Ends m s (fun o t => (∀ i, o = some i → i.Admits P) ∧ A s t) (fun _ t => A s t)

section

variable {A : Session → Session → Prop} (hA : Writes A)
  (hP : ∀ stamp entry name, P ⟨stamp, (lib.extension entry).behaviour name⟩)

include hA

include hP in
lemma apply_handsOn (r : Response) (component : String) {i : Instance} (hi : i.Admits P)
    (s : Session) : HandsOn P A (r.apply lib component i) s := by
  have hsome : ∀ j, some i = some j → j.Admits P := fun j hj => Option.some.inj hj ▸ hi
  have hvalue (stamp : Nat) (v : Value) :
      ∀ j, some (Instance.mk stamp (.value v)) = some j → j.Admits P :=
    fun j hj => Option.some.inj hj ▸ admits_value stamp v
  cases r with
  | pass => exact ⟨hsome, hA.refl s⟩
  | veto => exact ⟨fun j hj => (nomatch hj), hA.refl s⟩
  | fail message => exact hA.refl s
  | replace spec =>
    cases spec with
    | extension entry =>
      exact ⟨fun j hj => Option.some.inj hj ▸ admits_ofExtension (hP _ _ _), hA.fresh s⟩
    | value v => exact ⟨hvalue _ v, hA.fresh s⟩
  | append text =>
    rcases i with ⟨stamp, (_ | _ | _ | _ | _) | b⟩
    case value.text => exact ⟨hvalue _ _, hA.fresh s⟩
    all_goals exact ⟨hsome, hA.refl s⟩
  | shout =>
    rcases i with ⟨stamp, (_ | _ | _ | _ | _) | b⟩
    case value.text => exact ⟨hvalue _ _, hA.fresh s⟩
    all_goals exact ⟨hsome, hA.refl s⟩

lemma ends_onDefinition (e : Extension) (d : Definition) (s : Session) :
    Act.Ends (e.onDefinition d) s (fun _ t => A s t) (fun _ t => A s t) := by
  rcases e with ⟨stamp, _ | ⟨id, ⟨m, f, h, _ | rules, l⟩⟩ | _ | _⟩
  case scripted.some =>
    apply Act.ends_lift_bind
    split
    · exact hA.note _ s
    · exact hA.note _ s
  all_goals exact hA.refl s

include hP in
lemma beforeInit_handsOn (e : Extension) {i : Instance} (hi : i.Admits P) (ctx : InitContext)
    (s : Session) : HandsOn P A (e.beforeInit lib i ctx) s := by
  have hsome : ∀ j, some i = some j → j.Admits P := fun j hj => Option.some.inj hj ▸ hi
  rcases e with ⟨stamp, _ | ⟨id, ⟨m, f, _ | _ | ⟨before, after⟩, r, l⟩⟩ | _ | _⟩
  case scripted.some.rules =>
    refine Act.ends_lift_bind ((apply_handsOn hA hP _ _ hi _).mono ?_ ?_)
    · exact fun o t ⟨ho, ht⟩ => ⟨ho, hA.trans (hA.note _ s) ht⟩
    · exact fun e t ht => hA.trans (hA.note _ s) ht
  all_goals exact ⟨hsome, hA.refl s⟩

end

section

variable {name : String} {A : Session → Session → Prop} (hA : Asides name A)
  (hP : ∀ stamp entry name, P ⟨stamp, (lib.extension entry).behaviour name⟩)

include hA

lemma checkEligible_along {entry : PipelineEntry} {target : Nat} {s : Session}
    (he : entry ∈ s.registry.pipeline)
    (hb : entry.extension.behaviour = .eligibilityChecker target) (i : Instance) {ctx : InitContext}
    (hl : ctx.pipelineLength = s.registry.pipeline.length) :
    A s (Extension.checkEligible lib entry.extension.stamp target i ctx s).2 := by
  unfold Extension.checkEligible
  split
  · exact hA.refl s
  · rename_i hcond
    have hbelow : s.registry.pipeline.length < target := by
      simp only [Bool.or_eq_true, decide_eq_true_eq, not_or, EligibilityState.of_eq_settled]
        at hcond
      omega
    let entered : Report :=
      ⟨entry.extension.stamp, ctx.component, i.typeName lib.typeNames, ctx.role,
        ctx.pipelineLength, target⟩
    exact hA.trans (hA.record .info _ s) (hA.report entered he hb rfl hbelow)

lemma detectListener_along (i : Instance) {ctx : InitContext} (hname : ctx.component = name)
    (s : Session) : A s (Extension.detectListener i ctx s).2 := by
  subst hname
  unfold Extension.detectListener
  cases i.extension? with
  | none => exact hA.refl s
  | some e =>
    change A s ((if (!e.behaviour.isListener ||
      s.listeners.any (·.1 = ctx.component)) = true then _ else _ : StateM Session Unit) s).2
    split
    · exact hA.refl s
    · rename_i hcond
      simp only [Bool.or_eq_true, Bool.not_eq_true', List.any_eq_true, decide_eq_true_eq, not_or,
        Bool.not_eq_false, not_exists, not_and] at hcond
      exact hA.trans (hA.record .debug _ s) (hA.detect hcond.1 hcond.2)

include hP in
lemma afterInit_handsOn {entry : PipelineEntry} {i : Instance} (hi : i.Admits P) {ctx : InitContext}
    {s : Session} (hname : ctx.component = name) (he : entry ∈ s.registry.pipeline)
    (hl : ctx.pipelineLength = s.registry.pipeline.length) :
    HandsOn P A (entry.extension.afterInit lib i ctx) s := by
  have hsome : ∀ j, some i = some j → j.Admits P := fun j hj => Option.some.inj hj ▸ hi
  rcases entry with ⟨name, stamp, _ | ⟨id, ⟨m, f, _ | _ | ⟨before, after⟩, r, l⟩⟩ | target | _⟩
  case scripted.some.rules =>
    refine Act.ends_lift_bind ((apply_handsOn hA.toWrites hP _ _ hi _).mono ?_ ?_)
    · exact fun o t ⟨ho, ht⟩ => ⟨ho, hA.trans (hA.note _ s) ht⟩
    · exact fun e t ht => hA.trans (hA.note _ s) ht
  case eligibilityChecker => exact ⟨hsome, checkEligible_along hA he rfl i hl⟩
  case listenerDetector => exact ⟨hsome, detectListener_along hA i hname s⟩
  all_goals exact ⟨hsome, hA.refl s⟩

end

namespace Creation

def equip (lib : Catalog) (name : String) (d : Definition) (made : Instance) :
    Act Session RegistryError Instance := do
  let pipeline := (← get).registry.pipeline
  announce d pipeline
  let ctx : InitContext := ⟨name, d.role, pipeline.length⟩
  let prepared ← runStage (Extension.beforeInit lib) .beforeInit ctx pipeline made
  let finished ← runStage (Extension.afterInit lib) .afterInit ctx pipeline prepared
  Session.record .debug <| s!"event=component_create module=registry status=ok name={name} " ++
    s!"type={finished.typeName lib.typeNames} role={d.role.text} pipeline_len={ctx.pipelineLength}"
  return finished

def furnish (lib : Catalog) (name : String) (d : Definition) :
    Except RegistryError Instance → Act Session RegistryError Instance
  | .ok made => equip lib name d made
  | .error e => throw e

lemma complete_eq (lib : Catalog) (resolve : Resolver) (name : String) (d : Definition) :
    complete lib resolve name d = manufacture lib resolve d >>= equip lib name d := rfl

lemma complete_run (lib : Catalog) (resolve : Resolver) (name : String) (d : Definition)
    (s : Session) : complete lib resolve name d s =
      furnish lib name d (manufacture lib resolve d s).1 (manufacture lib resolve d s).2 := by
  rw [complete_eq, Act.bind_run]
  rcases manufacture lib resolve d s with ⟨e | made, u⟩
  · rfl
  · rfl

section

variable {A : Session → Session → Prop} (hA : Writes A)

include hA

lemma ends_announce (d : Definition) (p : Pipeline) (s : Session) :
    Act.Ends (announce d p) s (fun _ t => A s t) (fun _ t => A s t) := by
  induction p generalizing s with
  | nil => exact hA.refl s
  | cons entry rest ih =>
    refine (ends_onDefinition hA _ d s).adapt_const.bind (fun _ u hu => ?_) (fun _ _ => id)
    exact (ih u).mono (fun _ _ ht => hA.trans hu ht) (fun _ _ ht => hA.trans hu ht)

lemma ends_runStage
    (hook : Extension → Instance → InitContext → Act Session HookError (Option Instance))
    (stage : InitStage) (ctx : InitContext) (p : Pipeline) {i : Instance} (hi : i.Admits P)
    (s : Session)
    (hook_ok : ∀ entry ∈ p, ∀ j : Instance, j.Admits P → ∀ t, A s t →
      HandsOn P A (hook entry.extension j ctx) t) :
    Act.Ends (runStage hook stage ctx p i) s (fun j t => j.Admits P ∧ A s t)
      (fun _ t => A s t) := by
  induction p generalizing i s with
  | nil => exact ⟨hi, hA.refl s⟩
  | cons entry rest ih =>
    have hrest (u : Session) (hu : A s u) {j : Instance} (hj : j.Admits P) :
        Act.Ends (runStage hook stage ctx rest j) u (fun j t => j.Admits P ∧ A s t)
          (fun _ t => A s t) := by
      refine (ih hj u fun entry he j hj t ht => ?_).mono
        (fun _ _ ⟨hj, ht⟩ => ⟨hj, hA.trans hu ht⟩) (fun _ _ ht => hA.trans hu ht)
      exact hook_ok entry (List.mem_cons_of_mem _ he) j hj t (hA.trans hu ht)
    unfold runStage
    split
    · exact hrest s (hA.refl s) hi
    refine (hook_ok entry List.mem_cons_self i hi s (hA.refl s)).adapt_const.bind
      (fun o u ⟨ho, hu⟩ => ?_) (fun _ _ => id)
    cases o with
    | none => exact ⟨hi, hu⟩
    | some j => exact hrest u hu (ho j rfl)

end

section

variable {name : String} {A : Session → Session → Prop} (hA : Asides name A)

include hA

lemma ends_equip (hP : ∀ stamp entry name, P ⟨stamp, (lib.extension entry).behaviour name⟩)
    (d : Definition) {made : Instance} (hmade : made.Admits P) (s : Session) :
    Act.Ends (equip lib name d made) s (fun i t => i.Admits P ∧ A s t) (fun _ t => A s t) := by
  apply Act.ends_get_bind
  let ctx : InitContext := ⟨name, d.role, s.registry.pipeline.length⟩
  refine (ends_announce hA.toWrites d _ s).bind (fun _ t ht => ?_) (fun _ _ => id)
  refine (ends_runStage hA.toWrites (Extension.beforeInit lib) .beforeInit ctx s.registry.pipeline hmade t
    fun entry _ j hj u _ => beforeInit_handsOn hA.toWrites hP entry.extension hj ctx u).bind
      (fun prepared u ⟨hprepared, hu⟩ => ?_) (fun _ _ hu => hA.trans ht hu)
  have hafter (entry : PipelineEntry) (he : entry ∈ s.registry.pipeline) (j : Instance)
      (hj : j.Admits P) (v : Session) (hv : A u v) :
      HandsOn P A (entry.extension.afterInit lib j ctx) v := by
    have hregistry : v.registry = s.registry := hA.registry_eq (hA.trans (hA.trans ht hu) hv)
    exact afterInit_handsOn hA hP hj rfl (hregistry ▸ he)
      (congrArg (·.pipeline.length) hregistry.symm)
  refine (ends_runStage hA.toWrites (Extension.afterInit lib) .afterInit ctx s.registry.pipeline hprepared u
    hafter).bind (fun finished v ⟨hfinished, hv⟩ => ?_)
      (fun _ _ hv => hA.trans (hA.trans ht hu) hv)
  exact ⟨hfinished, hA.trans (hA.trans (hA.trans ht hu) hv) (hA.record _ _ _)⟩

lemma ends_furnish (hP : ∀ stamp entry name, P ⟨stamp, (lib.extension entry).behaviour name⟩)
    (d : Definition) {made : Except RegistryError Instance}
    (hmade : ∀ i, made = .ok i → i.Admits P) (s : Session) :
    Act.Ends (furnish lib name d made) s (fun i t => i.Admits P ∧ A s t) (fun _ t => A s t) := by
  cases made with
  | ok made => exact ends_equip hA hP d (hmade made rfl) s
  | error e => exact hA.refl s

end

lemma asides_registry (name : String) : Asides name fun s t => t.registry = s.registry where
  registry_eq := id
  refl _ := rfl
  trans h h' := h'.trans h
  write h _ _ _ := h
  report _ _ _ _ _ := rfl
  detect _ _ := rfl

lemma registry_equip {name : String} {d : Definition} {made : Instance}
    {a : Except RegistryError Instance} {s t : Session} (h : equip lib name d made s = (a, t)) :
    t.registry = s.registry := by
  have hequip : Act.Stays (equip lib name d made) s fun t => t.registry = s.registry :=
    (ends_equip (P := fun _ => True) (asides_registry name) (fun _ _ _ => trivial) d
      (fun _ _ => trivial) s).mono (fun _ _ ht => ht.2) (fun _ _ => id)
  have hstate := hequip.state
  rwa [h] at hstate

lemma registry_furnish {name : String} {d : Definition} {made a : Except RegistryError Instance}
    {s t : Session} (h : furnish lib name d made s = (a, t)) : t.registry = s.registry := by
  cases made with
  | ok made => exact registry_equip h
  | error e => exact congrArg (·.registry) (Prod.mk.inj h).2.symm

section

variable {resolve : Resolver}

lemma create_error {name : String} {s : Session} {e : RegistryError}
    (h : s.registry.snapshot name = .error e) : create lib resolve name s = (.error e, s) := by
  have hsnapshot : Session.snapshot name s = (.error e, s) := by
    change (Session.ofExcept (s.registry.snapshot name) >>= _ : Act Session _ Definition) s = _
    rw [h]
    rfl
  rw [create, Act.bind_run, hsnapshot]

lemma create_ok {name : String} {s : Session} {d : Definition} {r : Registry}
    (h : s.registry.snapshot name = .ok (d, r)) :
    create lib resolve name s = complete lib resolve name d { s with registry := r } := by
  have hsnapshot : Session.snapshot name s = (.ok d, { s with registry := r }) := by
    change (Session.ofExcept (s.registry.snapshot name) >>= _ : Act Session _ Definition) s = _
    rw [h]
    rfl
  rw [create, Act.bind_run, hsnapshot]

lemma enter_run (create : Resolver) (name : String) (s : Session) :
    enter create name s =
      match create name { s with registry := s.registry.beginCreation name } with
      | (.ok i, t) => (.ok i, { t with registry := (t.registry.endCreation name).store name i })
      | (.error e, t) => (.error e, { t with registry := t.registry.endCreation name }) := by
  change (tryCatch (create name) _ >>= _ : Act Session _ Instance)
    { s with registry := s.registry.beginCreation name } = _
  rw [Act.bind_run, Act.tryCatch_run]
  rcases create name { s with registry := s.registry.beginCreation name } with ⟨_ | i, t⟩
  · rfl
  · rfl

lemma resolveWithin_stored {name : String} {s : Session} {i : Instance}
    (hi : s.registry.singleton? name = some i) (depth : Nat) :
    resolveWithin lib depth name s = (.ok i, s) := by
  have hget : (get : Act Session RegistryError Session) s = (.ok s, s) := rfl
  cases depth with
  | zero =>
    rw [resolveWithin, Act.bind_run, hget]
    simp only [hi]
    rfl
  | succ depth =>
    rw [resolveWithin, Act.bind_run, hget]
    simp only [hi]
    rfl

lemma resolveWithin_refused {name : String} {s : Session}
    (hnone : s.registry.singleton? name = none) (hmem : name ∈ s.registry.inCreation)
    (depth : Nat) : resolveWithin lib depth name s = (.error (.currentlyInCreation name), s) := by
  have hget : (get : Act Session RegistryError Session) s = (.ok s, s) := rfl
  cases depth with
  | zero =>
    rw [resolveWithin, Act.bind_run, hget]
    simp only [hnone, if_pos hmem]
    rfl
  | succ depth =>
    rw [resolveWithin, Act.bind_run, hget]
    simp only [hnone, if_pos hmem]
    rfl

lemma resolveWithin_zero {name : String} {s : Session}
    (hnone : s.registry.singleton? name = none) (hnew : name ∉ s.registry.inCreation) :
    resolveWithin lib 0 name s = (.error (.noSuchDefinition name), s) := by
  have hget : (get : Act Session RegistryError Session) s = (.ok s, s) := rfl
  rw [resolveWithin, Act.bind_run, hget]
  simp only [hnone, if_neg hnew]
  rfl

lemma resolveWithin_succ {depth : Nat} {name : String} {s : Session}
    (hnone : s.registry.singleton? name = none) (hnew : name ∉ s.registry.inCreation) :
    resolveWithin lib (depth + 1) name s = enter (create lib (resolveWithin lib depth)) name s := by
  have hget : (get : Act Session RegistryError Session) s = (.ok s, s) := rfl
  rw [resolveWithin, Act.bind_run, hget]
  simp only [hnone, if_neg hnew]

end

abbrev ResolvesAlong (P : Extension → Prop) (L : Session → Session → Prop) (resolve : Resolver) :
    Prop :=
  ∀ name, Goes P L (·.Admits P) (resolve name)

section

variable (hL : Passage lib P A L) {resolve : Resolver} (hr : ResolvesAlong P L resolve)

include hL hr

lemma instantiate_goes (name : String) : Goes P L P (instantiate resolve name) := by
  refine hL.bind (hr name) fun i hi => ?_
  split
  · exact hL.pure (hi _ ‹_›)
  · exact hL.throw _

lemma inspect_goes (i : Inspection) : Goes P L (fun _ => True) (inspect lib resolve i) := by
  cases i with
  | get name => exact hL.bind (hr name) fun _ _ => hL.pure trivial
  | getAs name kind => exact hL.bind (hr name) fun _ _ => hL.pure trivial
  | same name other =>
    exact hL.bind (hr name) fun _ _ => hL.bind (hr other) fun _ _ => hL.pure trivial
  | describeInstance name => exact hL.bind (hr name) fun _ _ => hL.pure trivial
  | destroy => exact hL.bind (goes_of_along hL.destroys) fun _ _ => hL.pure trivial
  | definition | describe | describePipeline | size | created | createdCount | invalidations =>
    exact goes_get_bind fun _ _ => hL.pure trivial

variable (hP : ∀ stamp entry name, P ⟨stamp, (lib.extension entry).behaviour name⟩)

include hP

lemma query_goes (q : Query) :
    Goes P L (fun _ => True) (q.perform lib (surface lib resolve)) := by
  cases q with
  | instantiate name => exact hL.bind (instantiate_goes hL hr name) fun _ _ => hL.pure trivial
  | invalidate => exact hL.bind (goes_of_along hL.invalidates) fun _ _ => hL.pure trivial
  | addToPipeline name entry =>
    exact hL.bind (goes_of_along hL.fresh) fun stamp _ =>
      hL.bind (hL.adds name (hP stamp entry name)) fun _ _ => hL.pure trivial
  | find | precedence | tagged | infrastructure | editable | pipeline =>
    exact goes_get_bind fun _ _ => hL.pure trivial

lemma perform_goes (a : Action) : Goes P L (fun _ => True) (perform lib resolve a) := by
  cases a with
  | note text => exact hL.pure trivial
  | fail message => exact hL.throw _
  | edit e => exact (e.perform_goes hL).adapt
  | query q => exact (query_goes hL hr hP q).adapt
  | inspect i => exact (inspect_goes hL hr i).adapt

lemma manufacture_goes (d : Definition) : Goes P L (·.Admits P) (manufacture lib resolve d) := by
  refine hL.bind (goes_of_along (hL.note _)) fun _ _ => ?_
  refine hL.bind (Script.run_goes hL (perform_goes hL hr hP) _ _).adapt fun _ _ => ?_
  split
  · exact hL.pure (admits_ofExtension (hP _ _ _))
  · exact hr _
  · exact build_goes hL hP _ _

lemma ends_complete (name : String) (d : Definition) {s : Session} (hs : s.registry.Held P) :
    Act.Ends (complete lib resolve name d) s (fun i t => i.Admits P ∧ ∃ u, L s u ∧ A name u t)
      (fun _ t => ∃ u, L s u ∧ A name u t) := by
  have hA := hL.asides name
  rw [complete_eq]
  refine (manufacture_goes hL hr hP d s hs).bind (fun made u ⟨hmade, hu⟩ => ?_)
    (fun _ u hu => ⟨u, hu, hA.refl u⟩)
  exact (ends_equip hA hP d hmade u).mono (fun _ t ⟨hi, ht⟩ => ⟨hi, u, hu, ht⟩)
    (fun _ t ht => ⟨u, hu, ht⟩)

end

section

variable (hL : Passage lib P A L)
  (hP : ∀ stamp entry name, P ⟨stamp, (lib.extension entry).behaviour name⟩)

include hL hP

lemma ends_enter {depth : Nat} (hr : ResolvesAlong P L (resolveWithin lib depth)) {name : String}
    {s : Session} (hs : s.registry.Held P) (hnone : s.registry.singleton? name = none)
    (hnew : name ∉ s.registry.inCreation) :
    Act.Ends (enter (create lib (resolveWithin lib depth)) name) s
      (fun i t => i.Admits P ∧ L s t) (fun _ t => L s t) := by
  rw [Act.Ends, enter_run]
  cases hsnapshot : (s.registry.beginCreation name).snapshot name with
  | error e =>
    rw [create_error hsnapshot]
    change L s { s with registry := (s.registry.beginCreation name).endCreation name }
    rw [Registry.endCreation_beginCreation hnew]
    exact hL.refl s
  | ok p =>
    obtain ⟨d, r⟩ := p
    rw [create_ok hsnapshot]
    let u : Session := { s with registry := r }
    have hu : u.registry.Held P := by
      obtain ⟨-, rfl⟩ | ⟨-, -, rfl⟩ := Registry.snapshot_eq_ok hsnapshot
      · exact hs
      · exact hs
    have hcomplete := ends_complete hL hr hP name d hu
    rcases hrun : complete lib (resolveWithin lib depth) name d u with ⟨e | i, t⟩
    · obtain ⟨v, hv, ht⟩ := hcomplete.error hrun
      exact hL.fail hnew hnone hsnapshot hv ht
    · obtain ⟨hi, v, hv, ht⟩ := hcomplete.ok hrun
      exact ⟨hi, hL.finish hnew hnone hsnapshot hv ht hi hrun⟩

lemma resolveWithin_goes (depth : Nat) : ResolvesAlong P L (resolveWithin lib depth) := by
  induction depth with
  | zero =>
    intro name
    unfold resolveWithin
    refine goes_get_bind fun s hs => ?_
    dsimp only
    split
    · rename_i i hi
      exact hL.pure (hs _ (mem_of_lookup hi))
    · exact goes_ite (hL.throw _) (hL.throw _)
  | succ depth ih =>
    intro name s hs
    unfold resolveWithin
    apply Act.ends_get_bind
    dsimp only
    split
    · rename_i i hi
      exact Act.ends_pure ⟨hs _ (mem_of_lookup hi), hL.refl s⟩
    rename_i hnone
    by_cases hmember : name ∈ s.registry.inCreation
    · rw [if_pos hmember]
      exact hL.refl s
    · rw [if_neg hmember]
      exact ends_enter hL hP ih hs hnone hmember

end

end Creation

namespace Session

section

variable (hL : Passage lib P A L)
  (hP : ∀ stamp entry name, P ⟨stamp, (lib.extension entry).behaviour name⟩)

include hL hP

theorem resolve_goes : Creation.ResolvesAlong P L (resolve lib) :=
  fun name => goes_get_bind fun _ _ => Creation.resolveWithin_goes hL hP _ name

theorem perform_goes (a : Action) : Goes P L (fun _ => True) (perform lib a) :=
  Creation.perform_goes hL (resolve_goes hL hP) hP a

end

end Session

end ComponentContainer
