import ComponentContainer.Session

/-! What a registry lets an orchestrator and its extensions do, and how scripts run on it. -/

namespace ComponentContainer

/-- A registry kept in states `σ`, as it is seen from outside, with the journal and the log. The
roster holds every name that a search can answer. -/
structure Surface (σ : Type) where
  find : Capability → StateM σ (List String)
  roster : σ → List String
  precedenceOf : String → σ → Option Precedence
  isInfrastructure : String → σ → Bool
  instantiate : String → Act σ RegistryError Extension
  invalidate : StateM σ Unit
  editable : StateM σ Bool
  edit : Edit → Act σ RegistryError Answer
  pipeline : σ → Pipeline
  addToPipeline : String → Extension → Act σ RegistryError Unit
  fresh : StateM σ Nat
  note : Entry → StateM σ Unit
  record : Level → String → StateM σ Unit

namespace Surface

variable {σ : Type}

def isTagged (S : Surface σ) (name : String) (tier : Tier) (s : σ) : Bool :=
  (S.precedenceOf name s).any (·.tier = tier)

end Surface

def Edit.perform (lib : Catalog) : Edit → Act Session RegistryError Answer
  | .register entry => do
    Session.register (← (lib.blueprint entry).build)
    return .done
  | .remove name => return .definition (← Session.remove name)
  | .setRole name role => return .flag (← Session.amend name (·.setRole role))
  | .setPrecedence name p => return .flag (← Session.amend name (·.setPrecedence p))
  | .setLazy name lazy => return .flag (← Session.amend name (·.setLazy lazy))
  | .setAttribute name key value => return .flag (← Session.amend name (·.setAttribute key value))
  | .contains name => return .flag ((← get).registry.contains name)
  | .names => return .names (← get).registry.names

def Query.perform {σ : Type} (lib : Catalog) (S : Surface σ) : Query → Act σ RegistryError Answer
  | .find c => return .names (← S.find c)
  | .precedence name => return ((S.precedenceOf name (← get)).elim .nothing .precedence)
  | .tagged name tier => return .flag (S.isTagged name tier (← get))
  | .infrastructure name => return .flag (S.isInfrastructure name (← get))
  | .instantiate name => return .text (← S.instantiate name).behaviour.capabilities.text
  | .invalidate => do
    S.invalidate
    return .done
  | .editable => return .flag (← S.editable)
  | .pipeline => return .names (S.pipeline (← get)).names
  | .addToPipeline name entry => do
    S.addToPipeline name ⟨← S.fresh, (lib.extension entry).behaviour name⟩
    return .done

namespace Script

variable {σ : Type}

def runStep (note : Entry → StateM σ Unit) (perform : Action → Act σ ScriptError Answer)
    (id : String) (step : Step) : Act σ ScriptError Unit :=
  tryCatch (do note (.acted id step.action.word (← perform step.action))) fun e =>
    if step.attempt then note (.caught id step.action.word e) else throw e

def run (note : Entry → StateM σ Unit) (perform : Action → Act σ ScriptError Answer)
    (id : String) : List Step → Act σ ScriptError Unit
  | [] => return
  | step :: steps => do
    runStep note perform id step
    run note perform id steps

def performEdits (S : Surface σ) : Action → Act σ ScriptError Answer
  | .note text => return .text text
  | .fail message => throw (.failed message)
  | .edit e => (S.edit e).adapt .registry
  | .query _ | .inspect _ => return .unavailable

def performOn (lib : Catalog) (S : Surface σ) : Action → Act σ ScriptError Answer
  | .note text => return .text text
  | .fail message => throw (.failed message)
  | .edit e => do
    if ← S.editable then (S.edit e).adapt .registry else return .unavailable
  | .query q => (q.perform lib S).adapt .registry
  | .inspect _ => return .unavailable

end Script

end ComponentContainer
