import ComponentContainer.Hook
import ComponentContainer.Surface

/-! The creation of components: the factory runs, then the pipeline is applied. A factory may ask
for other components; the names in creation are refused, so creations nest at most as deep as there
are names, and that depth is what the recursion goes down. -/

namespace ComponentContainer

abbrev Resolver := String → Act Session RegistryError Instance

namespace Creation

def instantiate (resolve : Resolver) (name : String) : Act Session RegistryError Extension := do
  match (← resolve name).extension? with
  | some e => return e
  | none => throw (.notAnExtension name)

def roster (lib : Catalog) (s : Session) : List String :=
  s.registry.definitions.map (·.1) ++ s.registry.index.flatMap (·.2) ++
    s.registry.snapshots.map (·.1) ++ lib.blueprints.map (·.name)

def surface (lib : Catalog) (resolve : Resolver) : Surface Session where
  find c := return (← get).registry.declaring c
  roster := roster lib
  precedenceOf name s := s.registry.precedenceOf name
  isInfrastructure name s := s.registry.isInfrastructure name
  instantiate := instantiate resolve
  invalidate := Session.invalidate
  editable := return true
  edit := Edit.perform lib
  pipeline s := s.registry.pipeline
  addToPipeline := Session.addToPipeline
  fresh := Session.fresh
  note := Session.note
  record := Session.record

def view (kind : Kind) (i : Instance) : Answer :=
  match kind, i.content with
  | .text, .value (.text s) => .text s
  | .integer, .value (.integer n) => .integer n
  | .extension, .extension (.scripted id _) => .extension id
  | _, _ => .nothing

def inspect (lib : Catalog) (resolve : Resolver) : Inspection → Act Session RegistryError Answer
  | .get name => return .component (← resolve name)
  | .getAs name kind => return view kind (← resolve name)
  | .same name other => return .flag ((← resolve name).same (← resolve other))
  | .definition name => return ((← get).registry.find? name).elim .nothing .definition
  | .describe name => return ((← get).registry.find? name).elim .nothing (.text ·.describe)
  | .describeInstance name => return .text ((← resolve name).describe lib.typeNames)
  | .describePipeline => return .text (← get).registry.pipeline.describe
  | .size => do
    let definitions := (← get).registry.definitions
    return .size definitions.length definitions.isEmpty
  | .created name => return .flag ((← get).registry.singleton? name).isSome
  | .createdCount => return .count (← get).registry.singletons.length
  | .destroy => return .count (← Session.destroySingletons)
  | .invalidations => return .count (← get).registry.invalidations

def perform (lib : Catalog) (resolve : Resolver) : Action → Act Session ScriptError Answer
  | .note text => return .text text
  | .fail message => throw (.failed message)
  | .edit e => (e.perform lib).adapt .registry
  | .query q => (q.perform lib (surface lib resolve)).adapt .registry
  | .inspect i => (inspect lib resolve i).adapt .registry

def manufacture (lib : Catalog) (resolve : Resolver) (d : Definition) :
    Act Session RegistryError Instance := do
  Session.note (.factory d.name)
  (Script.run Session.note (perform lib resolve) d.name d.factory.first).adapt
    (·.toRegistryError d.name)
  match d.factory.product with
  | .shared entry =>
    return .ofExtension ⟨d.stamp, (lib.extension entry).behaviour d.name⟩
  | .component name => resolve name
  | .fresh spec => spec.build lib d.name

def announce (d : Definition) : Pipeline → Act Session RegistryError Unit
  | [] => return
  | entry :: rest => do
    (entry.extension.onDefinition d).adapt (.hook d.name entry.name .definition)
    announce d rest

def runStage (hook : Extension → Instance → InitContext → Act Session HookError (Option Instance))
    (stage : InitStage) (ctx : InitContext) :
    Pipeline → Instance → Act Session RegistryError Instance
  | [], i => return i
  | entry :: rest, i => do
    if !entry.extension.behaviour.isInstanceHook then
      runStage hook stage ctx rest i
    else
      match ← (hook entry.extension i ctx).adapt (.hook ctx.component entry.name stage) with
      | some next => runStage hook stage ctx rest next
      | none => return i

def complete (lib : Catalog) (resolve : Resolver) (name : String) (d : Definition) :
    Act Session RegistryError Instance := do
  let made ← manufacture lib resolve d
  let pipeline := (← get).registry.pipeline
  announce d pipeline
  let ctx : InitContext := ⟨name, d.role, pipeline.length⟩
  let prepared ← runStage (Extension.beforeInit lib) .beforeInit ctx pipeline made
  let finished ← runStage (Extension.afterInit lib) .afterInit ctx pipeline prepared
  Session.record .debug <| s!"event=component_create module=registry status=ok name={name} " ++
    s!"type={finished.typeName lib.typeNames} role={d.role.text} pipeline_len={ctx.pipelineLength}"
  return finished

def create (lib : Catalog) (resolve : Resolver) (name : String) :
    Act Session RegistryError Instance := do
  complete lib resolve name (← Session.snapshot name)

def enter (create : Resolver) (name : String) : Act Session RegistryError Instance := do
  Session.setRegistry ((← get).registry.beginCreation name)
  let leave : StateM Session Unit := do
    Session.setRegistry ((← get).registry.endCreation name)
  let i ← tryCatch (create name) fun e => do leave; throw e
  leave
  Session.setRegistry ((← get).registry.store name i)
  return i

/-- Hands out the component of that name, creating it at the first request. With no depth left every
name that has a definition is in creation, so the name has none. -/
def resolveWithin (lib : Catalog) : Nat → Resolver
  | depth, name => do
    let r := (← get).registry
    match r.singleton? name with
    | some i => return i
    | none =>
      if name ∈ r.inCreation then throw (.currentlyInCreation name)
      match depth with
      | 0 => throw (.noSuchDefinition name)
      | depth + 1 => enter (create lib (resolveWithin lib depth)) name

end Creation

namespace Session

def resolve (lib : Catalog) : Resolver := fun name => do
  Creation.resolveWithin lib (Creation.roster lib (← get)).length name

def surface (lib : Catalog) : Surface Session := Creation.surface lib (resolve lib)

def perform (lib : Catalog) : Action → Act Session ScriptError Answer :=
  Creation.perform lib (resolve lib)

end Session

end ComponentContainer
