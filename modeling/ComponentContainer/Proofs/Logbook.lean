import ComponentContainer.Proofs.Ledger
import ComponentContainer.Proofs.Orchestration.Traversal
import ComponentContainer.View

/-! Logbooks: sessions with the postings that account for what they hold, entered by the requests
themselves, also by those of factories, of scripted hooks and of orchestrators. Keeping them changes
nothing. -/

namespace ComponentContainer

structure Posted where
  posting : Posting
  session : Session

abbrev Logbook := Session × List Posted

def Extension.sighting? (e : Extension) (i : Instance) (name : String) : Option Posting :=
  if e.behaviour = .listenerDetector then
    (i.extension?.filter (·.behaviour.isListener)).map (.seen name)
  else none

namespace Logbook

open View (inside insideAct)

variable {ε α : Type}

def ledger (t : Logbook) : Ledger := t.2.map (·.posting)

def enter (p : Posting) (s : Session) (l : List Posted) : Logbook := (s, ⟨p, s⟩ :: l)

def noting (p : Posting) (m : Act Session ε α) : Act Logbook ε α := fun t =>
  match m t.1 with
  | (.ok a, s) => (.ok a, enter p s t.2)
  | (.error e, s) => (.error e, s, t.2)

def add (name : String) (e : Extension) : Act Logbook RegistryError Unit := fun t =>
  let (a, s) := Session.addToPipeline name e t.1
  (a, enter (.added ⟨name, e, a⟩) s t.2)

abbrev Creator := String → Act Logbook RegistryError Instance

def instantiate (resolve : Creator) (name : String) : Act Logbook RegistryError Extension := do
  match (← resolve name).extension? with
  | some e => return e
  | none => throw (.notAnExtension name)

variable (lib : Catalog)

def edit : Edit → Act Logbook RegistryError Answer
  | .remove name => noting (.removed name) ((Edit.remove name).perform lib)
  | e => insideAct (e.perform lib)

def afterInit (e : Extension) (i : Instance) (ctx : InitContext) :
    Act Logbook HookError (Option Instance) := fun t =>
  let (a, s) := e.afterInit lib i ctx t.1
  match e.sighting? i ctx.component with
  | some p => (a, enter p s t.2)
  | none => (a, s, t.2)

def runStage (ctx : InitContext) : Pipeline → Instance → Act Logbook RegistryError Instance
  | [], i => return i
  | entry :: rest, i => do
    if !entry.extension.behaviour.isInstanceHook then
      runStage ctx rest i
    else
      match ← (afterInit lib entry.extension i ctx).adapt
          (.hook ctx.component entry.name .afterInit) with
      | some next => runStage ctx rest next
      | none => return i

def equip (name : String) (d : Definition) (made : Instance) :
    Act Logbook RegistryError Instance := do
  let pipeline := (← get).1.registry.pipeline
  insideAct (Creation.announce d pipeline)
  let ctx : InitContext := ⟨name, d.role, pipeline.length⟩
  let prepared ← insideAct
    (Creation.runStage (Extension.beforeInit lib) .beforeInit ctx pipeline made)
  let finished ← runStage lib ctx pipeline prepared
  insideAct <| liftM <| Session.record .debug <|
    s!"event=component_create module=registry status=ok name={name} " ++
    s!"type={finished.typeName lib.typeNames} role={d.role.text} pipeline_len={ctx.pipelineLength}"
  return finished

section

variable (resolve : Creator)

def surfaceWith : Surface Logbook where
  find c := return (← get).1.registry.declaring c
  roster t := Creation.roster lib t.1
  precedenceOf name t := t.1.registry.precedenceOf name
  isInfrastructure name t := t.1.registry.isInfrastructure name
  instantiate := instantiate resolve
  invalidate := inside Session.invalidate
  editable := return true
  edit := edit lib
  pipeline t := t.1.registry.pipeline
  addToPipeline := add
  fresh := inside Session.fresh
  note e := inside (Session.note e)
  record level message := inside (Session.record level message)

def inspect : Inspection → Act Logbook RegistryError Answer
  | .get name => return .component (← resolve name)
  | .getAs name kind => return Creation.view kind (← resolve name)
  | .same name other => return .flag ((← resolve name).same (← resolve other))
  | .describeInstance name => return .text ((← resolve name).describe lib.typeNames)
  | .destroy => noting .destroyed (Creation.inspect lib (Session.resolve lib) .destroy)
  | i => insideAct (Creation.inspect lib (Session.resolve lib) i)

def performWith : Action → Act Logbook ScriptError Answer
  | .note text => return .text text
  | .fail message => throw (.failed message)
  | .edit e => (edit lib e).adapt .registry
  | .query q => (q.perform lib (surfaceWith lib resolve)).adapt .registry
  | .inspect i => (inspect lib resolve i).adapt .registry

def manufacture (d : Definition) : Act Logbook RegistryError Instance := do
  (surfaceWith lib resolve).note (.factory d.name)
  (Script.run (surfaceWith lib resolve).note (performWith lib resolve) d.name d.factory.first).adapt
    (·.toRegistryError d.name)
  match d.factory.product with
  | .shared entry => return .ofExtension ⟨d.stamp, (lib.extension entry).behaviour d.name⟩
  | .component name => resolve name
  | .fresh spec => insideAct (liftM (spec.build lib d.name))

def create (name : String) : Act Logbook RegistryError Instance := fun t =>
  match (t.1.registry.beginCreation name).snapshot name with
  | .error e => (.error e, t)
  | .ok (d, r) =>
    match (manufacture lib resolve d >>= equip lib name d)
        (enter (.began name) { t.1 with registry := r } t.2) with
    | (.ok i, s, l) =>
      (.ok i, enter (.stored name i)
        { s with registry := (s.registry.endCreation name).store name i } l)
    | (.error e, s, l) =>
      (.error e, enter (.failed name) { s with registry := s.registry.endCreation name } l)

end

def resolveWithin : Nat → Creator
  | depth, name => fun t =>
    match t.1.registry.singleton? name with
    | some i => (.ok i, t)
    | none =>
      if name ∈ t.1.registry.inCreation then (.error (.currentlyInCreation name), t)
      else match depth with
        | 0 => (.error (.noSuchDefinition name), t)
        | depth + 1 => create lib (resolveWithin depth) name t

def resolve : Creator := fun name t => resolveWithin lib (Creation.roster lib t.1).length name t

def surface : Surface Logbook := surfaceWith lib (resolve lib)

def perform : Action → Act Logbook ScriptError Answer := performWith lib (resolve lib)

end Logbook

/-! ### What single steps do to the holdings -/

namespace Session

abbrev Quiet (s t : Session) : Prop := t.holdings = s.holdings

lemma writes_quiet : Writes Quiet where
  refl _ := rfl
  trans h h' := h'.trans h
  write hregistry _ hlisteners _ := by
    unfold Quiet holdings
    rw [hregistry, hlisteners]

lemma addToPipeline_refused {name : String} {e : Extension}
    (h : .instanceHook ∉ e.behaviour.capabilities) (s : Session) :
    addToPipeline name e s = (.error (.capabilityMismatch name .instanceHook), s) := by
  have hrefused : s.registry.addToPipeline name e =
      .error (.capabilityMismatch name .instanceHook) := by
    unfold Registry.addToPipeline PipelineEntry.make
    rw [if_neg h]
    rfl
  change (ofExcept (s.registry.addToPipeline name e) >>= _ : Act Session RegistryError Unit) s = _
  rw [hrefused]
  rfl

lemma addToPipeline_posts (name : String) (e : Extension) (s : Session) :
    let p : Posting := .added ⟨name, e, (addToPipeline name e s).1⟩
    p.Fits s.holdings ∧ (addToPipeline name e s).2.holdings = p.apply s.holdings := by
  by_cases h : .instanceHook ∈ e.behaviour.capabilities
  · have hadded : s.registry.addToPipeline name e =
        .ok { s.registry with pipeline := s.registry.pipeline.add ⟨name, e⟩ } := by
      unfold Registry.addToPipeline PipelineEntry.make
      rw [if_pos h]
      rfl
    have hrun : addToPipeline name e s = (ofExcept (s.registry.addToPipeline name e) >>= _ :
      Act Session RegistryError Unit) s := rfl
    rw [hrun, hadded]
    exact ⟨⟨fun _ => h, fun _ => rfl⟩, rfl⟩
  · rw [addToPipeline_refused h]
    exact ⟨⟨nofun, fun h' => absurd h' h⟩, rfl⟩

end Session

namespace Edit

variable (lib : Catalog)

lemma ends_remove (name : String) (s : Session) :
    Act.Ends ((Edit.remove name).perform lib) s
      (fun _ t => t.holdings = (Posting.removed name).apply s.holdings) (fun _ t => s.Quiet t) := by
  refine Act.Ends.bind (Act.ends_get_bind ?_) (fun _ _ => id) fun _ _ => id
  cases hr : s.registry.remove name with
  | error e => exact rfl
  | ok p =>
    obtain ⟨-, hr⟩ := Registry.remove_eq_ok hr
    change Session.holdings { s with registry := p.2 } = _
    rw [hr]
    rfl

lemma perform_quiet {e : Edit} (he : ∀ name, e ≠ .remove name) (s : Session) :
    s.Quiet (e.perform lib s).2 := by
  have hstays : Act.Stays (e.perform lib) s s.Quiet := by
    cases e with
    | register entry =>
      refine Act.ends_lift_bind (Act.Ends.bind (Act.ends_get_bind ?_) (fun _ _ => id) fun _ _ => id)
      change Act.Ends (Session.ofExcept
        (s.registry.register ⟨lib.blueprint entry, s.nextStamp⟩) >>= _) _ _ _
      cases hr : s.registry.register ⟨lib.blueprint entry, s.nextStamp⟩ with
      | error e => exact rfl
      | ok r =>
        obtain ⟨-, -, rfl⟩ := Registry.register_eq_ok hr
        exact rfl
    | remove name => exact absurd rfl (he name)
    | setRole | setPrecedence | setLazy | setAttribute | contains | names => exact rfl
  exact hstays.state

end Edit

namespace Extension

lemma fits_of_sighting? {e : Extension} {i : Instance} {name : String} {p : Posting}
    {h : Holdings} (hp : e.sighting? i name = some p) (hname : h.inCreation.head? = some name) :
    p.Fits h := by
  unfold sighting? at hp
  split at hp
  · obtain ⟨x, hx, rfl⟩ := Option.map_eq_some_iff.1 hp
    exact ⟨hname, (Option.filter_eq_some_iff.1 hx).2⟩
  · cases hp

lemma inCreation_of_sighting? {e : Extension} {i : Instance} {name : String} {p : Posting}
    (hp : e.sighting? i name = some p) (h : Holdings) : (p.apply h).inCreation = h.inCreation := by
  unfold sighting? at hp
  split at hp
  · obtain ⟨x, -, rfl⟩ := Option.map_eq_some_iff.1 hp
    rfl
  · cases hp

lemma checkEligible_quiet (lib : Catalog) (checker target : Nat) (i : Instance)
    (ctx : InitContext) (s : Session) : s.Quiet (checkEligible lib checker target i ctx s).2 := by
  unfold checkEligible
  split
  · rfl
  · rfl

lemma holdings_detectListener (i : Instance) (ctx : InitContext) (s : Session) :
    (detectListener i ctx s).2.holdings = ((i.extension?.filter (·.behaviour.isListener)).map
      (.seen ctx.component)).elim s.holdings fun p : Posting => p.apply s.holdings := by
  unfold detectListener
  cases i.extension? with
  | none => rfl
  | some e =>
    change ((if (!e.behaviour.isListener || s.listeners.any (·.1 = ctx.component)) = true
      then _ else _ : StateM Session Unit) s).2.holdings = _
    have hmem : s.listeners.any (·.1 = ctx.component) = true ↔
        ctx.component ∈ s.listeners.map (·.1) := by
      simp [List.any_eq_true]
    rw [Option.filter_some]
    cases e.behaviour.isListener with
    | false => rfl
    | true =>
      rw [Bool.not_true, Bool.false_or]
      change _ = Holdings.mk s.registry.singletons s.registry.inCreation
        (if ctx.component ∈ s.listeners.map (·.1) then _ else _) s.registry.pipeline
      split
      · rw [if_pos (hmem.1 ‹_›)]
        rfl
      · rw [if_neg (mt hmem.2 ‹_›)]
        rfl

lemma holdings_afterInit (lib : Catalog) (e : Extension) (i : Instance) (ctx : InitContext)
    (s : Session) : (e.afterInit lib i ctx s).2.holdings =
      (e.sighting? i ctx.component).elim s.holdings (·.apply s.holdings) := by
  rcases e with ⟨stamp, _ | ⟨own, ⟨m, f, _ | _ | ⟨before, after⟩, r, l⟩⟩ | target | _⟩
  case scripted.some.rules =>
    let noted := (Session.note (.afterInit own ctx.component ctx.role ctx.pipelineLength) s).2
    have happly : Act.Stays ((HookRule.choose after ctx).apply lib ctx.component i) noted noted.Quiet :=
      (apply_handsOn (P := fun _ => True) Session.writes_quiet (fun _ _ _ => trivial) _ _
        (fun _ _ => trivial) noted).mono (fun _ _ h => h.2) fun _ _ => id
    exact happly.state
  case eligibilityChecker => exact checkEligible_quiet lib stamp target i ctx s
  case listenerDetector => exact holdings_detectListener i ctx s
  all_goals rfl

end Extension

lemma Creation.announce_quiet (d : Definition) (p : Pipeline) (s : Session) :
    s.Quiet (announce d p s).2 :=
  (ends_announce Session.writes_quiet d p s).state

lemma Creation.beforeInit_quiet (lib : Catalog) (ctx : InitContext) (p : Pipeline) (i : Instance)
    (s : Session) : s.Quiet (runStage (Extension.beforeInit lib) .beforeInit ctx p i s).2 := by
  have hstage : Act.Stays (runStage (Extension.beforeInit lib) .beforeInit ctx p i) s s.Quiet :=
    (ends_runStage (P := fun _ => True) Session.writes_quiet (Extension.beforeInit lib) .beforeInit
      ctx p (fun _ _ => trivial) s fun entry _ j hj t _ =>
        beforeInit_handsOn Session.writes_quiet (fun _ _ _ => trivial) entry.extension hj ctx t).mono
      (fun _ _ h => h.2) fun _ _ => id
  exact hstage.state

/-! ### Requests on logbooks and on sessions -/

namespace Logbook

open Act
open View (inside insideAct)

structure Keeps (a : Holdings) (stack : List String) (t : Logbook) (s : Session) : Prop where
  session_eq : t.1 = s
  posts : a.Posts t.ledger s.holdings
  posted : ∀ x earlier, x :: earlier <:+ t.2 →
    a.Posts (x.posting :: earlier.map (·.posting)) x.session.holdings
  inCreation_eq : s.registry.inCreation = stack

variable {lib : Catalog} {a : Holdings} {stack : List String} {ε α : Type} {t : Logbook}
  {s u : Session} {name : String}

lemma keeps_self (s : Session) : Keeps s.holdings s.registry.inCreation (s, []) s :=
  ⟨rfl, .nil, fun x _ hx => absurd (List.suffix_nil.1 hx) (List.cons_ne_nil x _), rfl⟩

lemma Keeps.still (h : Keeps a stack t s) (hu : s.Quiet u) : Keeps a stack (u, t.2) u :=
  ⟨rfl, hu ▸ h.posts, h.posted, (congrArg (·.inCreation) hu).trans h.inCreation_eq⟩

lemma Keeps.enter {stack' : List String} {p : Posting} (h : Keeps a stack t s)
    (hp : p.Fits s.holdings) (hu : u.holdings = p.apply s.holdings)
    (hstack : (p.apply s.holdings).inCreation = stack') :
    Keeps a stack' (enter p u t.2) u := by
  have hposts : a.Posts (p :: t.2.map (·.posting)) u.holdings := hu ▸ .cons p h.posts hp
  refine ⟨rfl, hposts, fun x earlier hx => ?_, (congrArg (·.inCreation) hu).trans hstack⟩
  rcases List.suffix_cons_iff.1 hx with heq | hx
  · obtain ⟨rfl, rfl⟩ := List.cons.inj heq
    exact hposts
  · exact h.posted x earlier hx

lemma inside_agree {x : StateM Session α} (hx : ∀ s : Session, s.Quiet (x s).2) :
    Agree (Keeps a stack) (inside x) x := by
  rintro t s h
  obtain rfl := h.session_eq
  exact ⟨rfl, h.still (hx t.1)⟩

lemma insideAct_matches {m : Act Session ε α} (hm : ∀ s : Session, s.Quiet (m s).2) :
    Matches (Keeps a stack) (insideAct m) m := by
  rintro t s h
  obtain rfl := h.session_eq
  exact ⟨alike_refl _, h.still (hm t.1)⟩

lemma noting_matches {p : Posting} {m : Act Session ε α} (hp : ∀ h, p.Fits h)
    (hstack : ∀ h, (p.apply h).inCreation = h.inCreation)
    (hm : ∀ s, Ends m s (fun _ u => u.holdings = p.apply s.holdings) fun _ u => s.Quiet u) :
    Matches (Keeps a stack) (noting p m) m := by
  rintro t s h
  obtain rfl := h.session_eq
  have hends := hm t.1
  unfold noting
  rcases hrun : m t.1 with ⟨e | x, u⟩
  · exact ⟨rfl, h.still (hends.error hrun)⟩
  · exact ⟨rfl, h.enter (hp _) (hends.ok hrun) ((hstack _).trans h.inCreation_eq)⟩

lemma add_matches (name : String) (e : Extension) :
    Matches (Keeps a stack) (add name e) (Session.addToPipeline name e) := by
  rintro t s h
  obtain rfl := h.session_eq
  obtain ⟨hfits, happly⟩ := t.1.addToPipeline_posts name e
  exact ⟨alike_refl _, h.enter hfits happly h.inCreation_eq⟩

lemma edit_matches (e : Edit) : Matches (Keeps a stack) (edit lib e) (e.perform lib) := by
  cases e with
  | remove name =>
    exact noting_matches (fun _ => trivial) (fun _ => rfl) (Edit.ends_remove lib name)
  | register | setRole | setPrecedence | setLazy | setAttribute | contains | names =>
    exact insideAct_matches (Edit.perform_quiet lib nofun)

lemma afterInit_matches (e : Extension) (i : Instance) (ctx : InitContext) :
    Matches (Keeps a (ctx.component :: stack)) (afterInit lib e i ctx) (e.afterInit lib i ctx) := by
  rintro t s h
  obtain rfl := h.session_eq
  have hholdings := e.holdings_afterInit lib i ctx t.1
  unfold afterInit
  cases hp : e.sighting? i ctx.component with
  | none =>
    rw [hp] at hholdings
    exact ⟨alike_refl _, h.still hholdings⟩
  | some p =>
    rw [hp] at hholdings
    have hhead : t.1.holdings.inCreation.head? = some ctx.component :=
      congrArg List.head? h.inCreation_eq
    exact ⟨alike_refl _, h.enter (Extension.fits_of_sighting? hp hhead) hholdings
      ((Extension.inCreation_of_sighting? hp _).trans h.inCreation_eq)⟩

lemma runStage_matches (ctx : InitContext) (p : Pipeline) (i : Instance) :
    Matches (Keeps a (ctx.component :: stack)) (runStage lib ctx p i)
      (Creation.runStage (Extension.afterInit lib) .afterInit ctx p i) := by
  induction p generalizing i with
  | nil => exact matches_pure i
  | cons entry rest ih =>
    unfold runStage Creation.runStage
    refine simulates_ite (ih i) (((afterInit_matches entry.extension i ctx).adapt _).bind ?_)
    rintro _ (_ | next) rfl
    · exact matches_pure i
    · exact ih next

lemma equip_matches (name : String) (d : Definition) (made : Instance) :
    Matches (Keeps a (name :: stack)) (equip lib name d made) (Creation.equip lib name d made) := by
  refine simulates_get_bind fun t s h => ?_
  obtain rfl := h.session_eq
  refine (insideAct_matches (Creation.announce_quiet d _)).bind fun _ => ?_
  refine (insideAct_matches (Creation.beforeInit_quiet lib _ _ made)).bind fun prepared => ?_
  refine Matches.bind (runStage_matches ⟨name, d.role, _⟩ _ prepared) fun finished => ?_
  exact (insideAct_matches fun _ => rfl).bind fun _ => matches_pure finished

lemma fresh_agree : Agree (Keeps a stack) (inside Session.fresh) Session.fresh :=
  inside_agree fun _ => rfl

section

variable {create : Creator} {resolve : Resolver}

section

variable (hr : ∀ name, Matches (Keeps a stack) (create name) (resolve name))

include hr

lemma instantiate_matches (name : String) :
    Matches (Keeps a stack) (instantiate create name) (Creation.instantiate resolve name) := by
  refine (hr name).bind fun i => ?_
  cases i.extension? with
  | some e => exact matches_pure e
  | none => exact simulates_throw _

lemma surfaceWith_simulates :
    (surfaceWith lib create).SimulatesScripts lib (Creation.surface lib resolve) (Keeps a stack)
      .same fun _ => True where
  find c := by
    rintro t s h
    obtain rfl := h.session_eq
    exact ⟨rfl, h⟩
  found _ _ _ _ _ _ := trivial
  precedenceOf _ _ _ _ h := by rw [← h.session_eq]; rfl
  isInfrastructure _ _ _ _ h := by rw [← h.session_eq]; rfl
  instantiate name _ := (instantiate_matches hr name).mono fun _ _ h => ⟨h, trivial⟩
  invalidate := inside_agree fun _ => rfl
  editable := fun _ _ h => ⟨rfl, h⟩
  edit e _ := edit_matches e
  pipeline _ _ h := by rw [← h.session_eq]; rfl
  addToPipeline name _ _ := fun | rfl, _ => add_matches name _
  arm := arm_matches fresh_agree add_matches
  supply name entry := fresh_agree.matches.bind fun stamp =>
    add_matches name ⟨stamp, (lib.extension entry).behaviour name⟩
  note _ := inside_agree fun _ => rfl
  acted _ _ _ _ := fun | rfl => inside_agree fun _ => rfl
  record _ _ := inside_agree fun _ => rfl

lemma inspect_matches (i : Inspection) :
    Matches (Keeps a stack) (inspect lib create i) (Creation.inspect lib resolve i) := by
  cases i with
  | get name => exact (hr name).bind fun _ => matches_pure _
  | getAs name kind => exact (hr name).bind fun _ => matches_pure _
  | same name other => exact (hr name).bind fun _ => (hr other).bind fun _ => matches_pure _
  | describeInstance name => exact (hr name).bind fun _ => matches_pure _
  | destroy => exact noting_matches (fun _ => trivial) (fun _ => rfl) fun _ => rfl
  | definition | describe | describePipeline | size | created | createdCount | invalidations =>
    exact insideAct_matches fun _ => rfl

lemma performWith_matches (x : Action) :
    Matches (Keeps a stack) (performWith lib create x) (Creation.perform lib resolve x) := by
  cases x with
  | note text => exact matches_pure _
  | fail message => exact simulates_throw _
  | edit e => exact (edit_matches e).adapt _
  | query q =>
    exact (Script.perform_query_simulates (surfaceWith_simulates hr) fun _ _ => trivial).adapt _
  | inspect i => exact (inspect_matches hr i).adapt _

lemma manufacture_matches (d : Definition) :
    Matches (Keeps a stack) (manufacture lib create d) (Creation.manufacture lib resolve d) := by
  have hS : (surfaceWith lib create).SimulatesScripts lib (Creation.surface lib resolve) _ _ _ :=
    surfaceWith_simulates hr
  have hscript : Matches (Keeps a stack)
      (Script.run (surfaceWith lib create).note (performWith lib create) d.name d.factory.first)
      (Script.run Session.note (Creation.perform lib resolve) d.name d.factory.first) :=
    Script.run_simulates hS.note hS.acted (fun x _ => performWith_matches hr x) _
      fun step _ => Likeness.allows_same step.action
  refine (hS.note _).matches.bind fun _ => (hscript.adapt _).bind fun _ _ _ => ?_
  cases d.factory.product with
  | shared entry => exact matches_pure _
  | component name => exact hr name
  | fresh spec =>
    cases spec with
    | extension entry => exact insideAct_matches fun _ => rfl
    | value v => exact insideAct_matches fun _ => rfl

end

lemma create_meets (hr : ∀ stack name, Matches (Keeps a stack) (create name) (resolve name))
    (h : Keeps a stack t s) (hnone : s.registry.singleton? name = none)
    (hnew : name ∉ s.registry.inCreation) :
    Meets (Keeps a stack) Eq (Logbook.create lib create name t)
      (Creation.enter (Creation.create lib resolve) name s) := by
  obtain rfl := h.session_eq
  rw [Creation.enter_run]
  unfold Logbook.create
  cases hsnapshot : (t.1.registry.beginCreation name).snapshot name with
  | error e =>
    rw [Creation.create_error hsnapshot]
    change Alike Eq (.error e : Except RegistryError Instance) (.error e) ∧ Keeps a stack t
      { t.1 with registry := (t.1.registry.beginCreation name).endCreation name }
    rw [Registry.endCreation_beginCreation hnew]
    exact ⟨rfl, h⟩
  | ok p =>
    obtain ⟨d, r⟩ := p
    have hbegan : Session.holdings { t.1 with registry := r } =
        (Posting.began name).apply t.1.holdings := by
      obtain ⟨-, rfl⟩ | ⟨-, -, rfl⟩ := Registry.snapshot_eq_ok hsnapshot <;> rfl
    have hstart := h.enter (p := .began name) ⟨hnew, hnone⟩ hbegan (congrArg (name :: ·) h.inCreation_eq)
    have hend : (name :: stack).filter (· ≠ name) = stack := by
      rw [List.filter_cons_of_neg (by simp), List.filter_eq_self.2]
      rintro other hother
      rw [← h.inCreation_eq] at hother
      exact decide_eq_true fun heq => hnew (heq ▸ hother)
    have hmatches : Matches (Keeps a (name :: stack)) (manufacture lib create d >>= equip lib name d)
        (Creation.manufacture lib resolve d >>= Creation.equip lib name d) :=
      (manufacture_matches (hr (name :: stack)) d).bind fun made => equip_matches name d made
    obtain ⟨halike, hended⟩ := hmatches _ _ hstart
    rw [Creation.create_ok hsnapshot, Creation.complete_eq]
    dsimp only
    revert halike hended
    rcases (manufacture lib create d >>= equip lib name d)
      (enter (.began name) { t.1 with registry := r } t.2) with ⟨x', u⟩
    rcases (Creation.manufacture lib resolve d >>= Creation.equip lib name d)
      { t.1 with registry := r } with ⟨e | i, v⟩
    · intro halike hu
      obtain rfl := hu.session_eq
      obtain rfl : x' = .error e := halike.error_eq
      have hstack : u.1.registry.inCreation.filter (· ≠ name) = stack := by
        rw [hu.inCreation_eq, hend]
      exact ⟨rfl, hu.enter (congrArg List.head? hu.inCreation_eq) rfl hstack⟩
    · intro halike hu
      obtain rfl := hu.session_eq
      obtain rfl : x' = .ok i := halike.eq
      have hstack : u.1.registry.inCreation.filter (· ≠ name) = stack := by
        rw [hu.inCreation_eq, hend]
      exact ⟨rfl, hu.enter (congrArg List.head? hu.inCreation_eq) rfl hstack⟩

end

lemma matches_of_new {depth : Nat}
    (hnew : ∀ t s, Keeps a stack t s → s.registry.singleton? name = none →
      name ∉ s.registry.inCreation → Meets (Keeps a stack) Eq (resolveWithin lib depth name t)
        (Creation.resolveWithin lib depth name s)) :
    Matches (Keeps a stack) (resolveWithin lib depth name)
      (Creation.resolveWithin lib depth name) := by
  intro t s h
  obtain rfl := h.session_eq
  cases hsingleton : t.1.registry.singleton? name with
  | some i =>
    unfold resolveWithin
    rw [Creation.resolveWithin_stored hsingleton]
    simp only [hsingleton]
    exact ⟨rfl, h⟩
  | none =>
    by_cases hmem : name ∈ t.1.registry.inCreation
    · unfold resolveWithin
      rw [Creation.resolveWithin_refused hsingleton hmem]
      simp only [hsingleton, if_pos hmem]
      exact ⟨rfl, h⟩
    · exact hnew t t.1 h hsingleton hmem

lemma resolveWithin_matches (depth : Nat) (stack : List String) (name : String) :
    Matches (Keeps a stack) (resolveWithin lib depth name)
      (Creation.resolveWithin lib depth name) := by
  induction depth generalizing stack name with
  | zero =>
    refine matches_of_new fun t s h hnone hnew => ?_
    obtain rfl := h.session_eq
    unfold resolveWithin
    rw [Creation.resolveWithin_zero hnone hnew]
    simp only [hnone, if_neg hnew]
    exact ⟨rfl, h⟩
  | succ depth ih =>
    refine matches_of_new fun t s h hnone hnew => ?_
    obtain rfl := h.session_eq
    unfold resolveWithin
    rw [Creation.resolveWithin_succ hnone hnew]
    simp only [hnone, if_neg hnew]
    exact create_meets ih h hnone hnew

lemma resolve_matches (name : String) :
    Matches (Keeps a stack) (resolve lib name) (Session.resolve lib name) := by
  rintro t s h
  obtain rfl := h.session_eq
  exact resolveWithin_matches _ stack name t t.1 h

variable (lib a stack) in
lemma surface_simulates :
    (surface lib).SimulatesScripts lib (Session.surface lib) (Keeps a stack) .same fun _ => True :=
  surfaceWith_simulates resolve_matches

lemma perform_matches (x : Action) :
    Matches (Keeps a stack) (perform lib x) (Session.perform lib x) :=
  performWith_matches resolve_matches x

lemma mutationPhase_matches (supplied : List Supplied) :
    Matches (Orchestration.Related (Keeps a stack))
      (Orchestration.mutationPhase (surface lib) (.scripted lib (surface lib)) supplied)
      (Orchestration.mutationPhase (Session.surface lib) (.scripted lib (Session.surface lib))
        supplied) := by
  have hS := surface_simulates lib a stack
  have hrounds (hooks : Hooks Session) :
      Orchestration.SameRounds (surface lib) (Session.surface lib) (Keeps a stack) hooks :=
    Orchestration.sameRounds_of_roster hooks fun _ _ h => by rw [← h.session_eq]; rfl
  exact Orchestration.mutationPhase_simulates hS.toSimulates (Hooks.scripted_same hS) (hrounds _)
    (supplied_same supplied)

lemma buildPipeline_matches : Matches (Orchestration.Related (Keeps a stack))
    (Orchestration.buildPipeline (surface lib)) (Orchestration.buildPipeline (Session.surface lib)) :=
  Orchestration.buildPipeline_matches (surface_simulates lib a stack).toSimulates

end Logbook

end ComponentContainer
