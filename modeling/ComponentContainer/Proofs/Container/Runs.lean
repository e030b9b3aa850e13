import ComponentContainer.Container
import ComponentContainer.Proofs.Outcome

/-! What may be asked of a container, and what each request does to it. -/

namespace ComponentContainer

namespace Container

inductive Request
  | refresh (run : String)
  | close
  | publish (event : Event)
  | supply (name : String) (spec : ExtensionSpec)
  | perform (a : Action)
  | mutationPhase (supplied : List Supplied) (i : Invoker)
  | buildPipeline (i : Invoker)

def serve (lib : Catalog) (c : Container) : Request → Container
  | .refresh run => (refresh lib run c).2
  | .close => (close c).2
  | .publish event => (onSession (publish event) c).2
  | .supply name spec =>
    let (e, s) := spec.build name c.session
    (addExtension name e { c with session := s }).2
  | .perform a => (onSession (Session.perform lib a) c).2
  | .mutationPhase supplied i =>
    let surface := Session.surface lib
    (orchestrate (Orchestration.mutationPhase surface (.scripted lib surface) supplied) i c).2
  | .buildPipeline i => (orchestrate (Orchestration.buildPipeline (Session.surface lib)) i c).2

def stateAfter (lib : Catalog) (c : Container) : Request → ContainerState
  | .refresh run =>
    if c.state = .created then if (refresh lib run c).1.isOk then .active else .failed
    else c.state
  | .close => .closed
  | .publish _ | .supply .. | .perform _ | .mutationPhase .. | .buildPipeline _ => c.state

def after (lib : Catalog) (c : Container) (requests : List Request) : Container :=
  requests.foldl (serve lib) c

lemma after_concat (lib : Catalog) (c : Container) (requests : List Request) (r : Request) :
    c.after lib (requests ++ [r]) = (c.after lib requests).serve lib r :=
  List.foldl_append

inductive Reachable (lib : Catalog) : Container → Prop
  | new {config : ContainerConfig} {c : Container} : Container.new config = .ok c → Reachable lib c
  | serve {c : Container} (r : Request) : Reachable lib c → Reachable lib (c.serve lib r)

lemma Reachable.after {lib : Catalog} {c : Container} (hc : c.Reachable lib)
    (requests : List Request) : (c.after lib requests).Reachable lib := by
  induction requests generalizing c with
  | nil => exact hc
  | cons r requests ih => exact ih (hc.serve r)

def admitDetector (config : ContainerConfig) : Act Container BootstrapError Unit :=
  if config.detectListeners then onSession registerDetector else return

def assemble (lib : Catalog) (run : String) :
    Act Container BootstrapError (MutationSummary × BuiltPipeline) := do
  let c ← get
  let surface := Session.surface lib
  admitDetector c.config
  let (mutation, invoker) ← orchestrate
    (Orchestration.mutationPhase surface (.scripted lib surface) c.supplied) (.new run)
  let (built, _) ← orchestrate (Orchestration.buildPipeline surface) invoker
  modify fun c => { c with checker := some built.checker }
  admitDetector c.config
  return (mutation, built)

def eagerPass (lib : Catalog) (config : ContainerConfig) : Act Session BootstrapError Unit := do
  if config.preInstantiate then
    createEager lib (← get).registry.names

def populate (lib : Catalog) (config : ContainerConfig) : Act Session BootstrapError Unit := do
  if config.preInstantiate then
    createEager lib (← get).registry.names
  publish (.refreshed config.name (← get).registry.singletons.length)

def summarize (config : ContainerConfig) (mutation : MutationSummary) (built : BuiltPipeline)
    (s : Session) : RefreshSummary where
  container := config.name
  mutation
  pipeline := s.registry.pipeline.names
  target := built.target
  singletons := s.registry.singletons.length
  listeners := s.listeners.length
  ineligible := s.reportsOf built.checker

variable {lib : Catalog}

lemma onSession_bind {ε α β : Type} (m : Act Session ε α) (f : α → Act Session ε β) :
    onSession (m >>= f) = onSession m >>= fun a => onSession (f a) := by
  funext c
  rw [Act.bind_run, onSession, Act.bind_run, onSession]
  rcases m c.session with ⟨_ | a, s⟩
  · rfl
  · rfl

lemma onSession_pure {ε α : Type} (a : α) : onSession (pure a : Act Session ε α) = pure a := rfl

lemma populate_eq (lib : Catalog) (config : ContainerConfig) :
    populate lib config = (do
      eagerPass lib config
      publish (.refreshed config.name (← get).registry.singletons.length)) := by
  unfold populate eagerPass
  cases config.preInstantiate
  · rfl
  · simp only [if_true, ← bind_assoc]

lemma onSession_populate (lib : Catalog) (config : ContainerConfig) :
    onSession (populate lib config) = (do
      onSession (eagerPass lib config)
      onSession do publish (.refreshed config.name (← get).registry.singletons.length)) := by
  rw [populate_eq, onSession_bind]

lemma bootstrap_run (run : String) (c : Container) :
    bootstrap lib run c = (do
      let (mutation, built) ← assemble lib run
      onSession (populate lib c.config)
      return summarize c.config mutation built (← get).session : Act Container _ _) c := by
  have hget : (get : Act Container BootstrapError Container) c = (.ok c, c) := rfl
  rw [onSession_populate]
  unfold bootstrap assemble admitDetector eagerPass
  simp only [bind_assoc]
  rw [Act.bind_run, Act.bind_run, hget]
  dsimp only
  cases c.config.detectListeners <;> cases c.config.preInstantiate <;>
    simp only [Bool.false_eq_true, if_true, if_false, onSession_pure, pure_bind, summarize]

/-! ### Single requests -/

variable {c : Container} {run : String}

lemma refresh_again (h : c.state ≠ .created) :
    refresh lib run c = (.error (.alreadyRefreshed c.config.name), c) := by
  have hget : (get : Act Container BootstrapError Container) c = (.ok c, c) := rfl
  unfold refresh
  rw [Act.bind_run, hget]
  dsimp only
  rw [if_pos h]
  rfl

def started (c : Container) (log : List Record) : Container :=
  { c with state := .refreshing, session := { c.session with log } }

def succeeded (c : Container) (log : List Record) : Container :=
  { c with state := .active, session := { c.session with log } }

def tornDown (c : Container) (state : ContainerState) (log : List Record) : Container :=
  { c with
    state
    session := { c.session with
      registry := c.session.registry.destroySingletons
      listeners := []
      log } }

def opened (run : String) (c : Container) : Container :=
  c.started (c.session.log ++ [⟨.info,
    s!"event=container_refresh module=container status=start container={c.config.name} " ++
    s!"run_id={run} supplied={c.supplied.length} " ++
    s!"definitions={c.session.registry.definitions.length}"⟩])

lemma beginRefresh_run {ε α : Type} (run : String) (m : Act Container ε α) :
    (do
      beginRefresh run
      m : Act Container ε α) c = m (c.opened run) :=
  rfl

lemma refresh_opened (lib : Catalog) (h : c.state = .created) (run : String) : ∃ log,
    refresh lib run c = match bootstrap lib run (c.opened run) with
      | (.ok summary, d) => (.ok summary, d.succeeded log)
      | (.error e, d) => (.error e, d.tornDown .failed log) := by
  have hget : (get : Act Container BootstrapError Container) c = (.ok c, c) := rfl
  unfold refresh
  rw [Act.bind_run, hget]
  dsimp only
  rw [if_neg (not_not_intro h), beginRefresh_run, Act.bind_run, Act.tryCatch_run]
  rcases bootstrap lib run (c.opened run) with ⟨e | summary, d⟩
  · exact ⟨_, rfl⟩
  · exact ⟨_, rfl⟩

lemma refresh_run (lib : Catalog) (h : c.state = .created) (run : String) : ∃ log log',
    refresh lib run c = match bootstrap lib run (c.started log) with
      | (.ok summary, d) => (.ok summary, d.succeeded log')
      | (.error e, d) => (.error e, d.tornDown .failed log') := by
  obtain ⟨log, hrun⟩ := refresh_opened lib h run
  exact ⟨_, log, hrun⟩

lemma close_again (h : c.state = .closed) : close c = (.ok (), c) := by
  have hget : (get : Act Container BootstrapError Container) c = (.ok c, c) := rfl
  unfold close
  rw [Act.bind_run, hget]
  dsimp only
  rw [if_pos h]
  rfl

lemma close_run (h : c.state ≠ .closed) : ∃ log, close c =
    if c.state = .active then
      ((publish (.closed c.config.name) c.session).1,
        { c with session := (publish (.closed c.config.name) c.session).2 }.tornDown .closed log)
    else (.ok (), c.tornDown .closed log) := by
  have hget : (get : Act Container BootstrapError Container) c = (.ok c, c) := rfl
  unfold close
  rw [Act.bind_run, hget]
  dsimp only
  rw [if_neg h]
  by_cases ha : c.state = .active
  · simp only [if_pos ha]
    have hrun : observing (onSession (publish (.closed c.config.name))) c =
        (.ok (publish (.closed c.config.name) c.session).1,
          { c with session := (publish (.closed c.config.name) c.session).2 }) := Act.observing_run
    rw [Act.bind_run, hrun]
    cases (publish (.closed c.config.name) c.session).1 with
    | error e => exact ⟨_, rfl⟩
    | ok u => exact ⟨_, rfl⟩
  · simp only [if_neg ha]
    exact ⟨_, rfl⟩

lemma addExtension_run (name : String) (e : Extension) (c : Container) : ∃ log,
    addExtension name e c = ((), { c with
      supplied := if c.state = .created then c.supplied ++ [⟨name, e⟩] else c.supplied
      session := { c.session with log } }) := by
  have hrun : addExtension name e c = (if c.state = .created then
      set { c with supplied := c.supplied ++ [Supplied.mk name e] }
    else record .warn _ : StateM Container Unit) c := rfl
  rw [hrun]
  split
  · exact ⟨_, rfl⟩
  · exact ⟨_, rfl⟩

end Container

end ComponentContainer
