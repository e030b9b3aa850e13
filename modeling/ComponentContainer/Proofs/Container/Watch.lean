import ComponentContainer.Proofs.Container.Delivery
import ComponentContainer.Proofs.Container.Failure
import ComponentContainer.Proofs.Logbook

/-! Watches: containers with the postings that account for what they hold, and with what they do
themselves. Keeping watch changes nothing. -/

namespace ComponentContainer

open Container (Request)

inductive Watch.Deed
  | mutationPhase (run : String)
  | pipelineBuild (run : String)
  | told (event : Event)
  deriving DecidableEq

/-- A container with its postings, the latest first, and its deeds, the first one first. -/
structure Watch where
  container : Container
  postings : List Posted
  deeds : List Watch.Deed

namespace Logbook

variable (lib : Catalog)

def createEager : List String → Act Logbook BootstrapError Unit
  | [] => return
  | name :: rest => do
    if !((← get).1.registry.find? name).any (·.lazy) then
      discard <| (resolve lib name).adapt (.registry name .singletonCreation)
    createEager rest

def eagerPass (config : ContainerConfig) : Act Logbook BootstrapError Unit := do
  if config.preInstantiate then
    createEager lib (← get).1.registry.names

end Logbook

namespace Watch

variable {ε α : Type}

def start (c : Container) : Watch := ⟨c, [], []⟩

def logbook (w : Watch) : Logbook := (w.container.session, w.postings)

def ledger (w : Watch) : Ledger := w.logbook.ledger

def onLogbook (m : Act Logbook ε α) : Act Watch ε α := fun w =>
  let (a, t) := m w.logbook
  (a, ⟨{ w.container with session := t.1 }, t.2, w.deeds⟩)

def orchestrate (m : Act (Orchestration Logbook) ε α) (invoker : Invoker) :
    Act Watch ε (α × Invoker) := fun w =>
  let (a, o) := m ⟨w.logbook, invoker⟩
  (a.map (·, o.invoker), ⟨{ w.container with session := o.registry.1 }, o.registry.2, w.deeds⟩)

def quietly (m : Act Container ε α) : Act Watch ε α := fun w =>
  ((m w.container).1, ⟨(m w.container).2, w.postings, w.deeds⟩)

def clearing (m : Act Container ε α) : Act Watch ε α := fun w =>
  let (a, c) := m w.container
  (a, ⟨c, ⟨.cleared, c.session⟩ :: w.postings, w.deeds⟩)

def doing (deed : Container → Deed) (m : Act Watch ε α) : Act Watch ε α := fun w =>
  let (a, v) := m w
  (a, ⟨v.container, v.postings, w.deeds ++ [deed w.container]⟩)

def admitDetector (config : ContainerConfig) : Act Watch BootstrapError Unit :=
  if config.detectListeners then
    onLogbook <| (Logbook.add listenerDetectorName listenerDetector).adapt
      (.registry listenerDetectorName .pipelineRegistration)
  else return

variable (lib : Catalog)

def assemble (run : String) : Act Watch BootstrapError (MutationSummary × BuiltPipeline) := do
  let c := (← get).container
  let surface := Logbook.surface lib
  admitDetector c.config
  let (mutation, invoker) ← doing (fun _ => .mutationPhase run) <| orchestrate
    (Orchestration.mutationPhase surface (.scripted lib surface) c.supplied) (.new run)
  let (built, _) ← doing (fun _ => .pipelineBuild run) <|
    orchestrate (Orchestration.buildPipeline surface) invoker
  quietly (modify fun c => { c with checker := some built.checker })
  admitDetector c.config
  return (mutation, built)

def populate (config : ContainerConfig) : Act Watch BootstrapError Unit := do
  onLogbook (Logbook.eagerPass lib config)
  doing (fun c => .told (.refreshed config.name c.session.registry.singletons.length)) <| quietly <|
    Container.onSession do
      Container.publish (.refreshed config.name (← get).registry.singletons.length)

def bootstrap (run : String) : Act Watch BootstrapError RefreshSummary := do
  let c := (← get).container
  let (mutation, built) ← assemble lib run
  populate lib c.config
  return Container.summarize c.config mutation built (← get).container.session

def refresh (run : String) : Act Watch BootstrapError RefreshSummary := do
  let c := (← get).container
  let name := c.config.name
  if c.state ≠ .created then throw (.alreadyRefreshed name)
  quietly (liftM (Container.beginRefresh run))
  let summary ← tryCatch (bootstrap lib run) fun e => clearing (Container.abandonRefresh name run e)
  quietly (liftM (Container.finishRefresh name run summary))
  return summary

def close : Act Watch BootstrapError Unit := do
  let c := (← get).container
  if c.state = .closed then return
  let published : Except BootstrapError Unit ←
    if c.state = .active then
      observing <| doing (fun _ => .told (.closed c.config.name)) <| quietly <|
        Container.onSession (Container.publish (.closed c.config.name))
    else pure (.ok ())
  clearing (Container.finishClose c.config.name published)

def serve (w : Watch) : Request → Watch
  | .refresh run => (refresh lib run w).2
  | .close => (close w).2
  | .perform a => (onLogbook (Logbook.perform lib a) w).2
  | .mutationPhase supplied i =>
    let surface := Logbook.surface lib
    (orchestrate (Orchestration.mutationPhase surface (.scripted lib surface) supplied) i w).2
  | .buildPipeline i => (orchestrate (Orchestration.buildPipeline (Logbook.surface lib)) i w).2
  | r => ⟨w.container.serve lib r, w.postings, w.deeds⟩

def after (w : Watch) (requests : List Request) : Watch := requests.foldl (serve lib) w

end Watch

/-! ### Watches change nothing -/

open Act

lemma Logbook.createEager_matches {a : Holdings} {stack : List String} (lib : Catalog)
    (names : List String) :
    Matches (Keeps a stack) (createEager lib names) (Container.createEager lib names) := by
  induction names with
  | nil => exact matches_pure ()
  | cons name rest ih =>
    refine simulates_get_bind fun t s h => ?_
    obtain rfl := h.session_eq
    dsimp only
    split
    · rw [discard_eq, discard_eq, bind_assoc, bind_assoc]
      exact ((resolve_matches name).adapt _).bind fun _ _ _ => ih
    · exact ih

lemma Logbook.eagerPass_matches {a : Holdings} {stack : List String} (lib : Catalog)
    (config : ContainerConfig) :
    Matches (Keeps a stack) (eagerPass lib config) (Container.eagerPass lib config) := by
  refine simulates_ite (simulates_get_bind fun t s h => ?_) (matches_pure ())
  obtain rfl := h.session_eq
  exact createEager_matches lib _

namespace Watch

structure Over (a : Holdings) (stack : List String) (w : Watch) (c : Container) : Prop where
  container_eq : w.container = c
  keeps : w.logbook.Keeps a stack c.session

variable {lib : Catalog} {ε α : Type} {a : Holdings} {stack : List String} {w : Watch}
  {c : Container}

lemma over_self (c : Container) :
    (Watch.start c).Over c.session.holdings c.session.registry.inCreation c :=
  ⟨rfl, Logbook.keeps_self c.session⟩

lemma Over.self (h : w.Over a stack c) : w.Over a stack w.container :=
  ⟨rfl, h.container_eq ▸ h.keeps⟩

lemma quietly_matches {m : Act Container ε α}
    (hm : ∀ c : Container, c.session.Quiet (m c).2.session) :
    Matches (Over a stack) (quietly m) m := by
  rintro w _ ⟨rfl, h⟩
  exact ⟨alike_refl _, rfl, h.still (hm w.container)⟩

lemma clearing_matches {m : Act Container ε α}
    (hm : ∀ c : Container,
      (m c).2.session.holdings = Posting.cleared.apply c.session.holdings) :
    Matches (Over a stack) (clearing m) m := by
  rintro w _ ⟨rfl, h⟩
  exact ⟨alike_refl _, rfl, h.enter (p := .cleared) trivial (hm w.container) h.inCreation_eq⟩

lemma doing_matches {m' : Act Watch ε α} {m : Act Container ε α} (deed : Container → Deed)
    (hm : Matches (Over a stack) m' m) : Matches (Over a stack) (doing deed m') m := by
  intro w c h
  obtain ⟨halike, hcontainer, hkeeps⟩ := hm w c h
  exact ⟨halike, hcontainer, hkeeps⟩

lemma onLogbook_matches {m' : Act Logbook ε α} {m : Act Session ε α}
    (hm : Matches (Logbook.Keeps a stack) m' m) :
    Matches (Over a stack) (onLogbook m') (Container.onSession m) := by
  rintro w _ ⟨rfl, h⟩
  obtain ⟨halike, hend⟩ := hm w.logbook w.container.session h
  exact ⟨halike, congrArg (fun s => { w.container with session := s }) hend.session_eq, hend⟩

lemma orchestrate_matches {m' : Act (Orchestration Logbook) ε α}
    {m : Act (Orchestration Session) ε α}
    (hm : Matches (Orchestration.Related (Logbook.Keeps a stack)) m' m) (i : Invoker) :
    Matches (Over a stack) (orchestrate m' i) (Container.orchestrate m i) := by
  rintro w _ ⟨rfl, h⟩
  obtain ⟨halike, hend, hinvoker⟩ := hm ⟨w.logbook, i⟩ ⟨w.container.session, i⟩ ⟨h, rfl⟩
  refine ⟨?_, congrArg (fun s => { w.container with session := s }) hend.session_eq, hend⟩
  change Alike Eq ((m' ⟨w.logbook, i⟩).1.map _) ((m ⟨w.container.session, i⟩).1.map _)
  rw [halike.eq, hinvoker]
  exact alike_refl _

/-! ### Requests -/

lemma admitDetector_matches (config : ContainerConfig) :
    Matches (Over a stack) (admitDetector config) (Container.admitDetector config) :=
  simulates_ite (onLogbook_matches ((Logbook.add_matches _ _).adapt _)) (matches_pure ())

variable (lib) in
lemma assemble_matches (run : String) :
    Matches (Over a stack) (assemble lib run) (Container.assemble lib run) := by
  refine simulates_get_bind ?_
  rintro w _ ⟨rfl, -⟩
  refine (admitDetector_matches _).bind fun _ => ?_
  refine (doing_matches _ (orchestrate_matches (Logbook.mutationPhase_matches _) (.new run))).bind
    fun p => ?_
  refine (doing_matches _ (orchestrate_matches Logbook.buildPipeline_matches p.2)).bind fun q => ?_
  refine (quietly_matches fun _ => rfl).bind fun _ => ?_
  exact (admitDetector_matches _).bind fun _ => matches_pure _

lemma publish_matches (event : Container → Event) :
    Matches (Over a stack)
      (quietly fun c => Container.onSession (Container.publish (event c)) c)
      (fun c => Container.onSession (Container.publish (event c)) c) := by
  refine quietly_matches fun c => ?_
  change c.session.Quiet (Container.publish (event c) c.session).2
  rw [Container.publish_rest_eq]
  rfl

variable (lib) in
lemma populate_matches (config : ContainerConfig) :
    Matches (Over a stack) (populate lib config)
      (Container.onSession (Container.populate lib config)) := by
  rw [Container.onSession_populate]
  refine (onLogbook_matches (Logbook.eagerPass_matches lib config)).bind fun _ => ?_
  exact doing_matches _ <|
    publish_matches fun c => .refreshed config.name c.session.registry.singletons.length

variable (lib) in
lemma bootstrap_matches (run : String) :
    Matches (Over a stack) (bootstrap lib run) (Container.bootstrap lib run) := by
  refine simulates_get_bind_of ?_
  rintro w _ ⟨rfl, -⟩
  refine ⟨_, Container.bootstrap_run run w.container, ?_⟩
  refine (assemble_matches lib run).bind fun p => (populate_matches lib _).bind fun _ => ?_
  refine simulates_get_bind ?_
  rintro v _ ⟨rfl, -⟩
  exact matches_pure _

variable (lib) in
lemma refresh_matches (run : String) :
    Matches (Over a stack) (refresh lib run) (Container.refresh lib run) := by
  refine simulates_get_bind ?_
  rintro w _ ⟨rfl, -⟩
  dsimp only
  split
  · exact simulates_throw _
  · refine (quietly_matches fun _ => rfl).bind fun _ => ?_
    refine Matches.bind ((bootstrap_matches lib run).tryCatch fun e => ?_) fun summary => ?_
    · exact clearing_matches fun _ => rfl
    · exact (quietly_matches fun _ => rfl).bind fun _ => matches_pure _

lemma close_matches : Matches (Over a stack) close Container.close := by
  have hclear (name : String) (published : Except BootstrapError Unit) :
      Matches (Over a stack) (clearing (Container.finishClose name published))
        (Container.finishClose name published) :=
    clearing_matches fun c => by cases published <;> rfl
  refine simulates_get_bind ?_
  rintro w _ ⟨rfl, -⟩
  refine simulates_ite (matches_pure _) (simulates_ite ?_ ?_)
  · exact (doing_matches _ (publish_matches fun _ => .closed w.container.config.name)).observing.bind
      fun _ => hclear _ _
  · exact (matches_pure _).bind fun _ => hclear _ _

lemma Over.serve (h : w.Over a stack c) (r : Request) :
    (w.serve lib r).Over a stack (c.serve lib r) := by
  cases r with
  | refresh run => exact (refresh_matches lib run w c h).2
  | close => exact (close_matches w c h).2
  | perform x => exact (onLogbook_matches (Logbook.perform_matches x) w c h).2
  | mutationPhase supplied i =>
    exact (orchestrate_matches (Logbook.mutationPhase_matches supplied) i w c h).2
  | buildPipeline i => exact (orchestrate_matches Logbook.buildPipeline_matches i w c h).2
  | publish event => exact (publish_matches (fun _ => event) w c h).2
  | supply name spec =>
    obtain ⟨rfl, hkeeps⟩ := h
    obtain ⟨log, hadd⟩ := Container.addExtension_run name (spec.build name w.container.session).1
      { w.container with session := (spec.build name w.container.session).2 }
    refine ⟨rfl, hkeeps.still ?_⟩
    exact congrArg (fun p => p.2.session.holdings) hadd

variable (lib) in
lemma Over.after (h : w.Over a stack c) (requests : List Request) :
    (w.after lib requests).Over a stack (c.after lib requests) := by
  induction requests generalizing w c with
  | nil => exact h
  | cons r requests ih => exact ih (h.serve r)

variable (lib) in
lemma over_of_new {config : ContainerConfig} (h : Container.new config = .ok c)
    (requests : List Request) :
    ((Watch.start c).after lib requests).Over Session.empty.holdings [] (c.after lib requests) := by
  have hself := over_self c
  rw [show c.session = Session.empty by rw [Container.new_eq_ok h]; rfl] at hself
  exact hself.after lib requests

end Watch

/-! ### Listeners -/

/-- The listeners of the session are the first of each name of those that were seen. -/
structure Session.Heeds (s : Session) (ps : Ledger) : Prop where
  listeners_eq : s.listeners = ps.firsts
  names_nodup : (s.listeners.map (·.1)).Nodup
  isListener : ∀ l ∈ s.listeners, l.2.behaviour.isListener = true

lemma Holdings.Posts.heeds {a : Holdings} {ps : Ledger} {s : Session} (h : a.Posts ps s.holdings)
    (ha : a.listeners = []) : s.Heeds ps where
  listeners_eq := h.listeners_eq ha
  names_nodup := by
    have hlisteners : s.listeners = ps.firsts := h.listeners_eq ha
    rw [hlisteners]
    exact ps.nodup_firsts
  isListener := h.isListener ha

namespace Container

/-- Whatever was asked of a container, it holds the first listener of each name that its detector has
seen since it last forgot them, in the order in which these were seen; so it was after each posting,
however deep in a creation, and after each cleanup. Whatever the container, an event is told to the
listeners in that order, up to the first that refuses it, and nothing but the journal changes. -/
theorem events_delivered {config : ContainerConfig} {c : Container}
    (hnew : Container.new config = .ok c) (lib : Catalog) (requests : List Request) :
    let w := (Watch.start c).after lib requests
    w.container = c.after lib requests ∧
    w.container.session.Heeds w.ledger ∧
    (∀ x earlier, x :: earlier <:+ w.postings →
      x.session.Heeds (x.posting :: earlier.map (·.posting))) ∧
    ∀ (event : Event) (d : Container), ∃ calls answer t,
      onSession (publish event) d = (answer, { d with session := t }) ∧
      event.Told d.session.listeners d.session calls answer t := by
  intro w
  obtain ⟨hcontainer, hkeeps⟩ := Watch.over_of_new lib hnew requests
  refine ⟨hcontainer, ?_, fun x earlier hx => (hkeeps.posted x earlier hx).heeds rfl,
    fun event d => ?_⟩
  · rw [hcontainer]
    exact hkeeps.posts.heeds rfl
  · obtain ⟨calls, htold⟩ := publish_told event d.session
    exact ⟨calls, _, _, rfl, htold⟩

end Container

def Catalog.listeners : Catalog where
  typeNames := ⟨"", "", "", "", "", "", ""⟩
  blueprints := [
    { (default : Blueprint) with name := "a", factory := ⟨[], .fresh (.extension 0)⟩ },
    { (default : Blueprint) with name := "b", factory := ⟨[], .fresh (.extension 1)⟩ }]
  extensions := [
    .scripted none ⟨none, none, none, none, some []⟩,
    .scripted none ⟨none, none, none, none, some [⟨some .closed, some "no"⟩]⟩]

namespace Container

def recreations : List Request :=
  [.perform (.edit (.register 0)), .perform (.edit (.register 1)), .refresh "r",
    .perform (.inspect .destroy), .perform (.inspect (.get "b")), .perform (.inspect (.get "a"))]

def recreated : Watch :=
  (Watch.start ⟨.named "c", ∅, [], .created, none⟩).after .listeners recreations

theorem recreated_delivered :
    recreated.ledger.sightings.map (·.1) = ["a", "b", "b", "a"] ∧
    recreated.container.session.Heeds recreated.ledger ∧
    recreated.container.session.listeners.map (·.1) = ["a", "b"] ∧
    ∃ calls t, Event.Told (.closed "c") recreated.container.session.listeners
      recreated.container.session calls (.error (.hook "b" .eventDelivery (.plain "no"))) t := by
  obtain ⟨-, hheeds, -, htold⟩ := events_delivered new_named .listeners recreations
  have hrefused : (onSession (publish (.closed "c")) recreated.container).1 =
      .error (.hook "b" .eventDelivery (.plain "no")) := by decide +kernel
  obtain ⟨calls, answer, t, hrun, htold⟩ := htold (.closed "c") recreated.container
  obtain rfl : answer = .error (.hook "b" .eventDelivery (.plain "no")) := by
    rw [← hrefused, hrun]
  exact ⟨by decide +kernel, hheeds, by decide +kernel, calls, t, htold⟩

end Container

end ComponentContainer
