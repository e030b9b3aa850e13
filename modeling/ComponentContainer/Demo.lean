import ComponentContainer.Container
import ComponentContainer.Logging

/-! A demonstration: a scanner registers a greeting, a hook that shouts it and a listener, and the
container is refreshed and closed. -/

namespace ComponentContainer.Demo

def shoutingHook : Nat := 0
def auditListener : Nat := 1

def blueprints : List Blueprint :=
  [{ (default : Blueprint) with
      name := "greeting"
      factory := ⟨[], .fresh (.value (.text "hello from wiring"))⟩ },
    { (default : Blueprint) with
      name := "shouting_hook"
      capabilities := .ofList [.instanceHook]
      precedence := .ordered 10
      factory := ⟨[], .fresh (.extension shoutingHook)⟩ },
    { (default : Blueprint) with
      name := "audit_listener"
      capabilities := .ofList [.eventListener]
      factory := ⟨[], .fresh (.extension auditListener)⟩ }]

def scanner : HookFamilies where
  mutator := some
    { mutate := (List.range blueprints.length).map fun entry => ⟨.edit (.register entry), false⟩
      finalize := [⟨.query (.find .instanceHook), false⟩] }
  finalizer := none
  hook := none
  merge := none
  listener := none

def catalog : Catalog where
  typeNames := ⟨"text", "integer", "flag", "unit", "integers", "inert", "extension"⟩
  blueprints := blueprints
  extensions :=
    [.scripted none ⟨none, none, some (.rules [⟨none, none, .shout⟩] []), none, none⟩,
      .scripted none ⟨none, none, none, none, some []⟩]

structure Outcome where
  stdout : List String
  stderr : List String
  code : Nat
  deriving DecidableEq

def eventLine? : Entry → Option String
  | .refreshed _ container components =>
    some s!"event=refreshed container={container} components={components}"
  | .closed _ container => some s!"event=closed container={container}"
  | _ => none

def eventLines (c : Container) : List String := c.session.journal.filterMap eventLine?

def summaryLines (summary : RefreshSummary) (greeting run : String) : List String :=
  [s!"wiring_core version={version}",
    s!"run_id={run}",
    "mutated=" ++ ",".intercalate summary.mutation.mutated,
    "pipeline=" ++ ",".intercalate summary.pipeline,
    s!"singletons={summary.singletons}",
    s!"ineligible={summary.ineligible.length}",
    s!"greeting={greeting}"]

def session (run : String) : Act Container String (List String) := do
  let e ← Container.onSession ((ExtensionSpec.scripted none scanner).build "demo.scanner")
  Container.addExtension "demo.scanner" e
  let summary ← (Container.refresh catalog run).adapt (·.message)
  let i ← (Container.onSession (Session.resolve catalog "greeting")).adapt (·.message)
  return summaryLines summary (match i.content with | .value (.text s) => s | _ => "") run

def failure (lines : List String) (message : String) : Outcome := ⟨lines, ["error=" ++ message], 1⟩

def runContainer (c : Container) (run : String) : Outcome × List Record :=
  match session run c with
  | (.error message, c) => (failure (eventLines c) message, c.session.log)
  | (.ok lines, c) =>
    let shown := eventLines c ++ lines
    match Container.close { c with session := { c.session with journal := [] } } with
    | (.error e, c) => (failure (shown ++ eventLines c) e.message, c.session.log)
    | (.ok (), c) => (⟨shown ++ eventLines c, [], 0⟩, c.session.log)

def run (level dir : Option String) (run : String) (logging : Logging) : Outcome × Logging :=
  let settings : LoggingConfig := { level := level.getD (default : LoggingConfig).level, dir }
  match logging.init settings with
  | (.error e, logging) => (failure [] e.message, logging)
  | (.ok (), logging) =>
    match Container.new { ContainerConfig.named "demo" with logging := settings } with
    | .error e => (failure [] e.message, logging)
    | .ok c =>
      let (outcome, records) := runContainer c run
      (outcome, records.foldl Logging.write logging)

end ComponentContainer.Demo
