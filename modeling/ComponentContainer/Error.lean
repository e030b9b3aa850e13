import ComponentContainer.Capability
import ComponentContainer.Text

/-! The errors of registries, hooks and bootstraps, with their messages and causes. -/

namespace ComponentContainer

inductive InitStage
  | definition
  | beforeInit
  | afterInit
  deriving DecidableEq

def InitStage.text : InitStage → String
  | definition => "definition"
  | beforeInit => "before_init"
  | afterInit => "after_init"

mutual

inductive RegistryError
  | invalidName (name : String)
  | duplicateDefinition (name : String)
  | noSuchDefinition (name : String)
  | currentlyInCreation (name : String)
  | notAnExtension (name : String)
  | capabilityMismatch (name : String) (capability : Capability)
  | factory (name : String) (source : HookError)
  | hook (component hook : String) (stage : InitStage) (source : HookError)
  deriving DecidableEq

inductive HookError
  | plain (message : String)
  | ofRegistry (message : String) (source : RegistryError)
  | ofHook (message : String) (source : HookError)
  deriving DecidableEq

end

def HookError.message : HookError → String
  | plain m | ofRegistry m _ | ofHook m _ => m

namespace RegistryError

def kind : RegistryError → String
  | invalidName _ => "InvalidName"
  | duplicateDefinition _ => "DuplicateDefinition"
  | noSuchDefinition _ => "NoSuchDefinition"
  | currentlyInCreation _ => "CurrentlyInCreation"
  | notAnExtension _ => "NotAnExtension"
  | capabilityMismatch .. => "CapabilityMismatch"
  | factory .. => "Factory"
  | hook .. => "Hook"

def message : RegistryError → String
  | invalidName n => s!"component name is invalid: {Text.quoted n}"
  | duplicateDefinition n => s!"component definition already registered: {n}"
  | noSuchDefinition n => s!"no component definition named {n}"
  | currentlyInCreation n => s!"component {n} is currently in creation (dependency cycle?)"
  | notAnExtension n => s!"component {n} is not an extension"
  | capabilityMismatch n c =>
    s!"component {n} is declared as {c.text} but does not implement it"
  | factory n e => s!"factory for component {n} failed: {e.message}"
  | hook n h stage e => s!"hook {h} failed during {stage.text} of component {n}: {e.message}"

end RegistryError

mutual

def RegistryError.sources : RegistryError → List String
  | .factory _ e | .hook _ _ _ e => e.message :: e.sources
  | _ => []

def HookError.sources : HookError → List String
  | .plain _ => []
  | .ofRegistry _ e => e.message :: e.sources
  | .ofHook _ e => e.message :: e.sources

end

inductive Phase
  | suppliedMutation
  | priorityMutation
  | orderedMutation
  | discoveryMutation
  | finalization
  | pipelineRegistration
  | singletonCreation
  | eventDelivery
  deriving DecidableEq

def Phase.text : Phase → String
  | suppliedMutation => "supplied_mutation"
  | priorityMutation => "priority_mutation"
  | orderedMutation => "ordered_mutation"
  | discoveryMutation => "discovery_mutation"
  | finalization => "finalization"
  | pipelineRegistration => "pipeline_registration"
  | singletonCreation => "singleton_creation"
  | eventDelivery => "event_delivery"

inductive BootstrapError
  | hook (extension : String) (phase : Phase) (source : HookError)
  | registry (extension : String) (phase : Phase) (source : RegistryError)
  | alreadyRefreshed (container : String)
  | pipelineAlreadyBuilt (run : String)
  deriving DecidableEq

namespace BootstrapError

def kind : BootstrapError → String
  | hook .. => "Hook"
  | registry .. => "Registry"
  | alreadyRefreshed _ => "AlreadyRefreshed"
  | pipelineAlreadyBuilt _ => "PipelineAlreadyBuilt"

def extension : BootstrapError → Option String
  | hook e _ _ | registry e _ _ => some e
  | alreadyRefreshed _ | pipelineAlreadyBuilt _ => none

def phase : BootstrapError → Option Phase
  | hook _ p _ | registry _ p _ => some p
  | alreadyRefreshed _ | pipelineAlreadyBuilt _ => none

def message : BootstrapError → String
  | hook e p err => s!"extension {e} failed during {p.text}: {err.message}"
  | registry e p err => s!"{e} could not be processed during {p.text}: {err.message}"
  | alreadyRefreshed c => s!"container {c} does not support multiple refreshes"
  | pipelineAlreadyBuilt r => s!"invoker {r} already built its instance pipeline"

def sources : BootstrapError → List String
  | hook _ _ e => e.message :: e.sources
  | registry _ _ e => e.message :: e.sources
  | alreadyRefreshed _ | pipelineAlreadyBuilt _ => []

end BootstrapError

inductive ScriptError
  | registry (source : RegistryError)
  | failed (message : String)
  deriving DecidableEq

def ScriptError.toHookError : ScriptError → HookError
  | registry e => .ofRegistry "action failed" e
  | failed m => .plain m

def ScriptError.toRegistryError (name : String) : ScriptError → RegistryError
  | registry e => e
  | failed m => .factory name (.plain m)

end ComponentContainer
