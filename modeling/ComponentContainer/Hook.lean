import ComponentContainer.Session

/-! What extensions do when a component is created and when a container tells of an event. -/

namespace ComponentContainer

structure InitContext where
  component : String
  role : Role
  pipelineLength : Nat
  deriving DecidableEq

inductive Event
  | refreshed (container : String) (components : Nat)
  | closed (container : String)
  deriving DecidableEq

def Event.kind : Event → EventKind
  | refreshed .. => .refreshed
  | closed _ => .closed

def Rule.fits (component : Option String) (role : Option Role) (name : String) (r : Role) : Bool :=
  component.all (· = name) && role.all (· = r)

def HookRule.choose (rules : List HookRule) (ctx : InitContext) : Response :=
  ((rules.find? fun rule => Rule.fits rule.component rule.role ctx.component ctx.role).map
    (·.response)).getD .pass

def Response.apply (lib : Catalog) (component : String) (i : Instance) :
    Response → Act Session HookError (Option Instance)
  | .pass => return some i
  | .veto => return none
  | .fail message => throw (.plain message)
  | .replace spec => return some (← spec.build lib component)
  | .append text =>
    match i.content with
    | .value (.text s) => return some ⟨← Session.fresh, .value (.text (s ++ text))⟩
    | _ => return some i
  | .shout =>
    match i.content with
    | .value (.text s) => return some ⟨← Session.fresh, .value (.text (s.map Char.toUpper))⟩
    | _ => return some i

def describeListeners (l : List (String × Extension)) : String :=
  "ListenerDetector \x7b listeners: " ++ Text.quotedList (l.map (·.1)) ++ " \x7d"

inductive EligibilityState
  | armed
  | settled
  deriving DecidableEq

namespace EligibilityState

def of (target pipelineLength : Nat) : EligibilityState :=
  if pipelineLength < target then armed else settled

theorem of_eq_settled {target pipelineLength : Nat} :
    of target pipelineLength = settled ↔ target ≤ pipelineLength := by
  unfold of
  split
  · simpa using ‹pipelineLength < target›
  · simpa using ‹¬pipelineLength < target›

end EligibilityState

namespace Extension

def onDefinition (e : Extension) (d : Definition) : Act Session HookError Unit :=
  match e.behaviour with
  | .scripted id { merge := some rules, .. } => do
    Session.note (.definition id d.name d.role d.attributes)
    match (rules.find? fun rule => Rule.fits rule.component rule.role d.name d.role).bind
        (·.refusal) with
    | some message => throw (.plain message)
    | none => return
  | _ => return

def beforeInit (lib : Catalog) (e : Extension) (i : Instance) (ctx : InitContext) :
    Act Session HookError (Option Instance) :=
  match e.behaviour with
  | .scripted id { hook := some (.rules before _), .. } => do
    Session.note (.beforeInit id ctx.component ctx.role ctx.pipelineLength)
    (HookRule.choose before ctx).apply lib ctx.component i
  | _ => return some i

def checkEligible (lib : Catalog) (checker target : Nat) (i : Instance) (ctx : InitContext) :
    StateM Session Unit := do
  if i.isInstanceHook || ctx.role = .infrastructure ||
    EligibilityState.of target ctx.pipelineLength = .settled then return
  let typeName := i.typeName lib.typeNames
  Session.record .info <| s!"event=component_not_eligible module=eligibility status=report " ++
    s!"component={ctx.component} type={typeName} pipeline_len={ctx.pipelineLength} " ++
    s!"target={target} detail=not_processed_by_all_instance_hooks"
  modify fun s => { s with
    reports := s.reports ++
      [⟨checker, ctx.component, typeName, ctx.role, ctx.pipelineLength, target⟩] }

/-- Takes a component that listens to events into the listeners, once under each name. -/
def detectListener (i : Instance) (ctx : InitContext) : StateM Session Unit := do
  match i.extension? with
  | none => return
  | some e =>
    if !e.behaviour.isListener || (← get).listeners.any (·.1 = ctx.component) then return
    Session.record .debug s!"event=listener_detect module=container status=ok name={ctx.component}"
    modify fun s => { s with listeners := s.listeners ++ [(ctx.component, e)] }

def afterInit (lib : Catalog) (e : Extension) (i : Instance) (ctx : InitContext) :
    Act Session HookError (Option Instance) :=
  match e.behaviour with
  | .scripted id { hook := some (.rules _ after), .. } => do
    Session.note (.afterInit id ctx.component ctx.role ctx.pipelineLength)
    (HookRule.choose after ctx).apply lib ctx.component i
  | .eligibilityChecker target => do
    checkEligible lib e.stamp target i ctx
    return some i
  | .listenerDetector => do
    detectListener i ctx
    return some i
  | _ => return some i

def onEvent (e : Extension) (event : Event) : Act Session HookError Unit :=
  match e.behaviour with
  | .scripted id { listener := some rules, .. } => do
    Session.note <| match event with
      | .refreshed container components => .refreshed id container components
      | .closed container => .closed id container
    match (rules.find? (·.on.all (· = event.kind))).bind (·.refusal) with
    | some message => throw (.plain message)
    | none => return
  | _ => return

end Extension

end ComponentContainer
