import ComponentContainer.Config
import ComponentContainer.Creation
import ComponentContainer.Orchestration.Mutation
import ComponentContainer.Orchestration.PipelineBuild

/-! Containers: one bootstrap, from mutation over the pipeline to the singletons and the refreshed
event, and a close at the end. -/

namespace ComponentContainer

inductive ContainerState
  | created
  | refreshing
  | active
  | failed
  | closed
  deriving DecidableEq

def ContainerState.text : ContainerState → String
  | created => "created"
  | refreshing => "refreshing"
  | active => "active"
  | failed => "failed"
  | closed => "closed"

structure Container where
  config : ContainerConfig
  session : Session
  supplied : List Supplied
  state : ContainerState
  checker : Option Nat
  deriving DecidableEq

structure RefreshSummary where
  container : String
  mutation : MutationSummary
  pipeline : List String
  target : Nat
  singletons : Nat
  listeners : Nat
  ineligible : List Report
  deriving DecidableEq

def listenerDetectorName : String := "internal.listener_detector"

def listenerDetector : Extension := ⟨detectorStamp, .listenerDetector⟩

namespace Container

def new (config : ContainerConfig) : Except ConfigError Container :=
  config.validate.map fun _ => ⟨config, ∅, [], .created, none⟩

def onSession {ε α : Type} (m : Act Session ε α) : Act Container ε α := fun c =>
  let (a, s) := m c.session
  (a, { c with session := s })

def record (level : Level) (message : String) : StateM Container Unit :=
  modify fun c => { c with session := (Session.record level message c.session).2 }

def setState (state : ContainerState) : StateM Container Unit := modify fun c => { c with state }

def orchestrate {ε α : Type} (m : Act (Orchestration Session) ε α) (invoker : Invoker) :
    Act Container ε (α × Invoker) := fun c =>
  let (a, o) := m ⟨c.session, invoker⟩
  (a.map (·, o.invoker), { c with session := o.registry })

def ineligible (c : Container) : List Report :=
  match c.checker with
  | some checker => c.session.reportsOf checker
  | none => []

def addExtension (name : String) (e : Extension) : StateM Container Unit := do
  let c ← get
  if c.state = .created then
    set { c with supplied := c.supplied ++ [Supplied.mk name e] }
  else
    record .warn <| s!"event=extension_supply module=container status=ignored " ++
      s!"container={c.config.name} name={name} state={c.state.text}"

def deliver (event : Event) : List (String × Extension) → Act Session BootstrapError Unit
  | [] => return
  | (name, e) :: rest => do
    (e.onEvent event).adapt (.hook name .eventDelivery)
    deliver event rest

def publish (event : Event) : Act Session BootstrapError Unit := do
  deliver event (← get).listeners

def registerDetector : Act Session BootstrapError Unit :=
  (Session.addToPipeline listenerDetectorName listenerDetector).adapt
    (.registry listenerDetectorName .pipelineRegistration)

def createEager (lib : Catalog) : List String → Act Session BootstrapError Unit
  | [] => return
  | name :: rest => do
    if !((← get).registry.find? name).any (·.lazy) then
      discard <| (Session.resolve lib name).adapt (.registry name .singletonCreation)
    createEager lib rest

def bootstrap (lib : Catalog) (run : String) : Act Container BootstrapError RefreshSummary := do
  let c ← get
  let surface := Session.surface lib
  if c.config.detectListeners then onSession registerDetector
  let (mutation, invoker) ← orchestrate
    (Orchestration.mutationPhase surface (.scripted lib surface) c.supplied) (.new run)
  let (built, _) ← orchestrate (Orchestration.buildPipeline surface) invoker
  modify fun c => { c with checker := some built.checker }
  -- once more: this moves it behind the hooks that the build has added
  if c.config.detectListeners then onSession registerDetector
  if c.config.preInstantiate then
    onSession do createEager lib (← get).registry.names
  onSession do publish (.refreshed c.config.name (← get).registry.singletons.length)
  let session := (← get).session
  return {
    container := c.config.name
    mutation
    pipeline := session.registry.pipeline.names
    target := built.target
    singletons := session.registry.singletons.length
    listeners := session.listeners.length
    ineligible := session.reportsOf built.checker }

def tearDown : StateM Container Nat := do
  let c ← get
  let (count, session) := Session.destroySingletons c.session
  set { c with session := { session with listeners := [] } }
  return count

def beginRefresh (run : String) : StateM Container Unit := do
  let c ← get
  setState .refreshing
  let name := c.config.name
  record .info <| s!"event=container_refresh module=container status=start container={name} " ++
    s!"run_id={run} supplied={c.supplied.length} " ++
    s!"definitions={c.session.registry.definitions.length}"

def abandonRefresh (name run : String) (e : BootstrapError) :
    Act Container BootstrapError RefreshSummary := do
  let destroyed ← tearDown
  setState .failed
  record .error <| s!"event=container_refresh module=container status=error container={name} " ++
    s!"run_id={run} destroyed={destroyed} error={e.message}"
  throw e

def finishRefresh (name run : String) (summary : RefreshSummary) : StateM Container Unit := do
  setState .active
  record .info <| s!"event=container_refresh module=container status=ok container={name} " ++
    s!"run_id={run} singletons={summary.singletons} listeners={summary.listeners} " ++
    s!"ineligible={summary.ineligible.length} duration_ms=*"

/-- Runs the bootstrap, once for each container; a failure leaves no singleton behind. -/
def refresh (lib : Catalog) (run : String) : Act Container BootstrapError RefreshSummary := do
  let c ← get
  let name := c.config.name
  if c.state ≠ .created then throw (.alreadyRefreshed name)
  beginRefresh run
  let summary ← tryCatch (bootstrap lib run) (abandonRefresh name run)
  finishRefresh name run summary
  return summary

def finishClose (name : String) (published : Except BootstrapError Unit) :
    Act Container BootstrapError Unit := do
  let destroyed ← tearDown
  setState .closed
  let status := if published.isOk then "ok" else "error"
  record .info <| s!"event=container_close module=container status={status} " ++
    s!"container={name} destroyed={destroyed}"
  MonadExcept.ofExcept published

/-- Tells the closed event if the container is active, and destroys the singletons in any case. -/
def close : Act Container BootstrapError Unit := do
  let c ← get
  if c.state = .closed then return
  let published : Except BootstrapError Unit ←
    if c.state = .active then
      observing (onSession (publish (.closed c.config.name)))
    else pure (.ok ())
  finishClose c.config.name published

end Container

end ComponentContainer
