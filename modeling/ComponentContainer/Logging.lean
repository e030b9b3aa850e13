import ComponentContainer.Config
import ComponentContainer.Level

/-! Logging to a file: it starts once, with the level and the directory of the first call that has
both, and keeps them. The place of a panic is not known here and is shown as `*`. -/

namespace ComponentContainer

structure ActiveLog where
  level : Level
  dir : String
  deriving DecidableEq

inductive LoggingError
  | setting (source : SettingError)
  | createDirectory (dir : String) (source : FileError)
  | otherDirectory (active requested : String)
  | otherLevel (active requested : Level)
  deriving DecidableEq

namespace LoggingError

def kind : LoggingError → String
  | setting e => e.kind
  | createDirectory .. => "CreateDirectory"
  | otherDirectory .. | otherLevel .. => "Conflict"

def message : LoggingError → String
  | setting e => e.message
  | createDirectory d e => s!"failed to create log directory `{d}`: {e.message}"
  | otherDirectory a r => s!"logging already initialized at `{a}`; refusing to switch to `{r}`"
  | otherLevel a r =>
    s!"logging already initialized with level `{a.text}`; refusing to switch to `{r.text}`"

def sources : LoggingError → List String
  | createDirectory _ e => [e.message]
  | _ => []

end LoggingError

def version : String := "0.1.0"

def logFile (dir : String) : String := dir ++ "/wiring_rCURRENT.log"

structure Logging where
  active : Option ActiveLog
  records : List Record
  files : FileTree
  deriving DecidableEq

namespace Logging

def write (l : Logging) (r : Record) : Logging :=
  match l.active with
  | some a => if a.level.rank ≤ r.level.rank then { l with records := l.records ++ [r] } else l
  | none => l

def initWith (create : String → Except FileError Unit × FileTree) (l : Logging)
    (c : LoggingConfig) : Except LoggingError Unit × Logging :=
  match c.dir with
  | none => (.ok (), l)
  | some dir =>
    match LoggingConfig.checkLevel c.level, LoggingConfig.checkDir dir with
    | .error e, _ | .ok _, .error e => (.error (.setting e), l)
    | .ok level, .ok () =>
      match l.active with
      | some a =>
        if !Path.same a.dir dir then (.error (.otherDirectory a.dir dir), l)
        else if a.level ≠ level then (.error (.otherLevel a.level level), l)
        else (.ok (), l)
      | none =>
        match create dir with
        | (.error e, files) => (.error (.createDirectory dir e), { l with files })
        | (.ok (), files) =>
          let started : Logging :=
            { l with active := some ⟨level, dir⟩, files := files.makeFile (logFile dir) }
          (.ok (), started.write ⟨.info, s!"event=logging_init module=logging status=ok " ++
            s!"platform=linux build_mode=debug version={version} level={level.text} log_dir={dir}"⟩)

def init (l : Logging) (c : LoggingConfig) : Except LoggingError Unit × Logging :=
  l.initWith l.files.makeDirectories c

inductive Payload
  | text (s : String)
  | other
  deriving DecidableEq

def maxPayload : Nat := 160

def sanitise (max : Nat) (s : List Char) : List Char :=
  let line := s.map fun c => if c = '\n' || c = '\r' then ' ' else c
  if max < line.length then line.take max ++ ['.', '.', '.'] else line

def oneLine (max : Nat) (s : String) : String := String.ofList (sanitise max s.toList)

def Payload.shown : Payload → String
  | text s => s
  | other => "non-string panic payload"

def capture (l : Logging) (p : Payload) : Logging :=
  l.write ⟨.error, s!"event=panic_captured module=logging status=error location=* " ++
    s!"payload={oneLine maxPayload p.shown}"⟩

end Logging

end ComponentContainer
