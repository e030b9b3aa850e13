import ComponentContainer.Text

/-! The levels of log records. -/

namespace ComponentContainer

inductive Level
  | trace
  | debug
  | info
  | warn
  | error
  deriving DecidableEq

namespace Level

def rank : Level → Nat
  | trace => 0
  | debug => 1
  | info => 2
  | warn => 3
  | error => 4

def text : Level → String
  | trace => "trace"
  | debug => "debug"
  | info => "info"
  | warn => "warn"
  | error => "error"

def capitals : Level → String
  | trace => "TRACE"
  | debug => "DEBUG"
  | info => "INFO"
  | warn => "WARN"
  | error => "ERROR"

def normalise (setting : String) : String :=
  String.ofList ((Text.trim setting.toList).map Char.toLower)

def ofNormal? : String → Option Level
  | "trace" => some trace
  | "debug" => some debug
  | "info" => some info
  | "warn" | "warning" => some warn
  | "error" => some error
  | _ => none

def parse? (setting : String) : Option Level := ofNormal? (normalise setting)

end Level

structure Record where
  level : Level
  message : String
  deriving DecidableEq

end ComponentContainer
