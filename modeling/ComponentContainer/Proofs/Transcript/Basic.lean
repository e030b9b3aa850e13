import ComponentContainer.Orchestration.Mutation
import ComponentContainer.Orchestration.PipelineBuild
import ComponentContainer.Proofs.Walks
import Mathlib.Control.Monad.Basic

/-! Transcripts: what happens to a registry, entered by the requests themselves as they are made,
with the session at that moment. A request for a component is either answered at once or begins a
creation, which ends later. -/

namespace ComponentContainer

inductive Occurrence
  | registered (d : Definition)
  | removed (name : String)
  | destroyed
  | invalidated
  | answered (name : String) (answer : Except RegistryError Instance)
  | began (name : String) (d : Definition)
  | ended (name : String) (answer : Except RegistryError Instance)
  deriving DecidableEq

def Occurrence.Asks (name : String) : Occurrence → Prop
  | answered other _ | began other _ => other = name
  | registered _ | removed _ | destroyed | invalidated | ended .. => False

structure Moment where
  occurrence : Occurrence
  session : Session

structure Transcript where
  session : Session
  moments : List Moment

def Registry.conclude (r : Registry) (name : String) : Except RegistryError Instance → Registry
  | .ok i => (r.endCreation name).store name i
  | .error _ => r.endCreation name

namespace Transcript

variable {ε α : Type}

def enter (o : Occurrence) (t : Transcript) (s : Session) : Transcript := ⟨s, ⟨o, s⟩ :: t.moments⟩

def quiet (x : StateM Session α) : StateM Transcript α := fun t =>
  ((x t.session).1, ⟨(x t.session).2, t.moments⟩)

def quietly (m : Act Session ε α) : Act Transcript ε α := ExceptT.mk (quiet m.run)

def noting (o : Session → Occurrence) (m : Act Session ε α) : Act Transcript ε α := fun t =>
  match m t.session with
  | (.ok a, s) => (.ok a, t.enter (o t.session) s)
  | (.error e, s) => (.error e, ⟨s, t.moments⟩)

abbrev Recorder := String → Act Transcript RegistryError Instance

variable (lib : Catalog) (resolve : Recorder)

def edit : Edit → Act Transcript RegistryError Answer
  | .register entry =>
    noting (fun s => .registered ⟨lib.blueprint entry, s.nextStamp⟩)
      ((Edit.register entry).perform lib)
  | .remove name => noting (fun _ => .removed name) ((Edit.remove name).perform lib)
  | e => quietly (e.perform lib)

def instantiate (name : String) : Act Transcript RegistryError Extension := do
  match (← resolve name).extension? with
  | some e => return e
  | none => throw (.notAnExtension name)

def surfaceWith : Surface Transcript where
  find c := return (← get).session.registry.declaring c
  roster t := Creation.roster lib t.session
  precedenceOf name t := t.session.registry.precedenceOf name
  isInfrastructure name t := t.session.registry.isInfrastructure name
  instantiate := instantiate resolve
  invalidate := fun t => ((), t.enter .invalidated (Session.invalidate t.session).2)
  editable := return true
  edit := edit lib
  pipeline t := t.session.registry.pipeline
  addToPipeline name e := quietly (Session.addToPipeline name e)
  fresh := quiet Session.fresh
  note e := quiet (Session.note e)
  record level message := quiet (Session.record level message)

def inspect : Inspection → Act Transcript RegistryError Answer
  | .get name => return .component (← resolve name)
  | .getAs name kind => return Creation.view kind (← resolve name)
  | .same name other => return .flag ((← resolve name).same (← resolve other))
  | .describeInstance name => return .text ((← resolve name).describe lib.typeNames)
  | .destroy => noting (fun _ => .destroyed) (Creation.inspect lib (Session.resolve lib) .destroy)
  | i => quietly (Creation.inspect lib (Session.resolve lib) i)

def performWith : Action → Act Transcript ScriptError Answer
  | .note text => return .text text
  | .fail message => throw (.failed message)
  | .edit e => (edit lib e).adapt .registry
  | .query q => (q.perform lib (surfaceWith lib resolve)).adapt .registry
  | .inspect i => (inspect lib resolve i).adapt .registry

def manufacture (d : Definition) : Act Transcript RegistryError Instance := do
  (surfaceWith lib resolve).note (.factory d.name)
  (Script.run (surfaceWith lib resolve).note (performWith lib resolve) d.name d.factory.first).adapt
    (·.toRegistryError d.name)
  match d.factory.product with
  | .shared entry => return .ofExtension ⟨d.stamp, (lib.extension entry).behaviour d.name⟩
  | .component name => resolve name
  | .fresh spec => quietly (liftM (spec.build lib d.name))

def complete (name : String) (d : Definition) : Act Transcript RegistryError Instance := do
  quietly (Creation.equip lib name d (← manufacture lib resolve d))

def answer (name : String) (a : Except RegistryError Instance) :
    Act Transcript RegistryError Instance := fun t => (a, t.enter (.answered name a) t.session)

def create (name : String) : Act Transcript RegistryError Instance := fun t =>
  match (t.session.registry.beginCreation name).snapshot name with
  | .error e => answer name (.error e) t
  | .ok (d, r) =>
    let start := t.enter (.began name d) { t.session with registry := r }
    let run := complete lib resolve name d start
    (run.1, run.2.enter (.ended name run.1)
      { run.2.session with registry := run.2.session.registry.conclude name run.1 })

def resolveWithin : Nat → Recorder
  | depth, name => fun t =>
    match t.session.registry.singleton? name with
    | some i => answer name (.ok i) t
    | none =>
      if name ∈ t.session.registry.inCreation then
        answer name (.error (.currentlyInCreation name)) t
      else match depth with
        | 0 => answer name (.error (.noSuchDefinition name)) t
        | depth + 1 => create lib (resolveWithin depth) name t

end Transcript

namespace Transcript

variable (lib : Catalog)

def resolve : Recorder := fun name t =>
  resolveWithin lib (Creation.roster lib t.session).length name t

def surface : Surface Transcript := surfaceWith lib (resolve lib)

def perform : Action → Act Transcript ScriptError Answer := performWith lib (resolve lib)

end Transcript

end ComponentContainer
