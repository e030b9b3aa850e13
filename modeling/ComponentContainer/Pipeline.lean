import ComponentContainer.Error
import ComponentContainer.Instance

/-! The pipeline of instance hooks, in the order in which they are applied. -/

namespace ComponentContainer

structure PipelineEntry where
  name : String
  extension : Extension
  deriving DecidableEq

namespace PipelineEntry

def make (name : String) (e : Extension) : Except RegistryError PipelineEntry :=
  if .instanceHook ∈ e.behaviour.capabilities then .ok ⟨name, e⟩
  else .error (.capabilityMismatch name .instanceHook)

def describe (e : PipelineEntry) : String :=
  "PipelineEntry \x7b name: " ++ Text.quoted e.name ++ ", .. \x7d"

end PipelineEntry

abbrev Pipeline := List PipelineEntry

namespace Pipeline

def add (p : Pipeline) (e : PipelineEntry) : Pipeline := p.filter (·.name ≠ e.name) ++ [e]

def names (p : Pipeline) : List String := p.map (·.name)

def contains (p : Pipeline) (name : String) : Bool := p.any (·.name = name)

def owner? (p : Pipeline) (name : String) : Option Extension :=
  (p.find? (·.name = name)).map (·.extension)

def describe (p : Pipeline) : String :=
  "Pipeline \x7b entries: [" ++ ", ".intercalate (p.map PipelineEntry.describe) ++ "] \x7d"

end Pipeline

end ComponentContainer
