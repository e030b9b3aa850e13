import ComponentContainer.FileTree
import ComponentContainer.Level

/-! The settings of containers and of logging, and when they are accepted. -/

namespace ComponentContainer

namespace Name

def isContainerChar (c : Char) : Bool := c.isLower || c.isDigit || c == '_' || c == '-'

def isContainer (name : String) : Bool :=
  match name.toList with
  | [] => false
  | c :: rest => c.isLower && rest.all isContainerChar && rest.length ≤ 63

end Name

structure LoggingConfig where
  level : String
  dir : Option String
  deriving DecidableEq

instance : Inhabited LoggingConfig := ⟨⟨"debug", none⟩⟩

inductive SettingError
  | unsupportedLevel (level : String)
  | emptyDirectory
  | relativeDirectory (dir : String)
  deriving DecidableEq

namespace SettingError

def kind : SettingError → String
  | unsupportedLevel _ => "UnsupportedLevel"
  | emptyDirectory | relativeDirectory _ => "InvalidDirectory"

def message : SettingError → String
  | unsupportedLevel l => s!"unsupported log level `{l}`; expected trace|debug|info|warn|error"
  | emptyDirectory => "log dir cannot be empty"
  | relativeDirectory d => s!"log dir must be an absolute path, got `{d}`"

end SettingError

namespace LoggingConfig

def checkLevel (level : String) : Except SettingError Level :=
  match Level.parse? level with
  | some l => .ok l
  | none => .error (.unsupportedLevel (Level.normalise level))

def checkDir (dir : String) : Except SettingError Unit :=
  if dir = "" then .error .emptyDirectory
  else if Path.isAbsolute dir then .ok ()
  else .error (.relativeDirectory dir)

def check (c : LoggingConfig) : Except SettingError Unit := do
  let _ ← checkLevel c.level
  match c.dir with
  | some dir => checkDir dir
  | none => .ok ()

end LoggingConfig

structure ContainerConfig where
  name : String
  preInstantiate : Bool
  detectListeners : Bool
  logging : LoggingConfig
  deriving DecidableEq

inductive ConfigError
  | invalidName (name : String)
  | logging (source : SettingError)
  deriving DecidableEq

namespace ConfigError

def kind : ConfigError → String
  | invalidName _ => "InvalidName"
  | logging e => e.kind

def message : ConfigError → String
  | invalidName n =>
    s!"container name {Text.quoted n} must be lowercase, start with a letter and be at most 64 " ++
      s!"characters"
  | logging e => s!"invalid logging config: {e.message}"

def sources : ConfigError → List String
  | invalidName _ => []
  | logging e => [e.message]

end ConfigError

namespace ContainerConfig

def named (name : String) : ContainerConfig := ⟨name, true, true, default⟩

instance : Inhabited ContainerConfig := ⟨named "application"⟩

def validate (c : ContainerConfig) : Except ConfigError Unit :=
  if !Name.isContainer c.name then .error (.invalidName c.name)
  else c.logging.check.mapError .logging

end ContainerConfig

end ComponentContainer
