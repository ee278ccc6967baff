import Tabular.Logging.Filter
import Tabular.Logging.RollingFile

/-!
# Loggers

A process has at most one logger. It writes every event that gets through its filter to a rolling
file, and those that get through a second filter to the console.

## Main definitions

- `LogEvent.line` — the line of an event
- `LogHome` — where logs go when nothing is said
- `Logger` — a rolling file, two filters, and what was written to the console
- `Logger.setUp` — makes the logger of a process
- `Logger.note` — logs an event
-/

namespace Tabular

namespace LogEvent

/-- A character of a message. What steers terminals is written as its code. -/
def escape (c : Char) : List Char :=
  if c = '\x1b' ∨ c = '\x07' ∨ c = '\x08' ∨ c = '\x0c' ∨ c = '\x7f' then
    '\\' :: 'x' :: (Nat.toDigits 16 c.toNat).leftpad 2 '0'
  else if 0x80 ≤ c.toNat ∧ c.toNat ≤ 0x9f then
    '\\' :: 'u' :: '{' :: Nat.toDigits 16 c.toNat ++ ['}']
  else [c]

/-- The line of an event after a time stamp. -/
def line (stamp : String) (e : LogEvent) : String :=
  stamp ++ " " ++ String.ofList (e.level.name.toList.leftpad 5 ' ') ++ " " ++ e.target ++ ": " ++
    String.ofList (e.message.toList.flatMap escape) ++ "\n"

end LogEvent

namespace LogHome

/-- The directory for the data of programs: an absolute `XDG_DATA_HOME`, else a directory in the
home of the user. -/
def dataDirectory (environment : String → Option String) (account : String) : Path :=
  match environment "XDG_DATA_HOME" with
  | some text => if (Path.mk text).isAbsolute then ⟨text⟩ else home
  | none => home
where
  home : Path :=
    match environment "HOME" with
    | some "" | none => (Path.mk account).join ".local/share"
    | some text => (Path.mk text).join ".local/share"

/-- The directory of everything that is kept. -/
def root (environment : String → Option String) (account : String) : Path :=
  (dataDirectory environment account).join "workbench"

/-- The directory of logs. -/
def logs (environment : String → Option String) (account : String) : Path :=
  (root environment account).join "logs"

end LogHome

/-- How much goes to the console. -/
inductive ConsoleMode
  /-- What goes to the file. -/
  | mirror
  /-- Warnings and errors. -/
  | quiet
deriving DecidableEq, Repr

/-- How to log. -/
structure LogSetup where
  app : String
  console : ConsoleMode
  directory : Path
deriving Repr

/-- Why there is no logger. -/
inductive LogSetupFault
  | directory (path : String) (cause : FileFault)
  | file (app : String) (cause : LogFault)
  /-- The process has one already. -/
  | installed
deriving DecidableEq, Repr

/-- The wording of a setup fault. -/
def LogSetupFault.message : LogSetupFault → String
  | directory path cause => s!"Failed to create logs directory: {path}: " ++ cause.message
  | file app cause =>
    s!"Failed to initialize rolling log writer: Failed to open log file for {app}: " ++
      cause.message
  | installed =>
    "Failed to install tracing subscriber: a global default trace dispatcher has already been set"

/-- The logger of a process. -/
structure Logger where
  log : RollingFile
  fileFilter : LogFilter
  consoleFilter : LogFilter

/-- What a process has logged: the disk, its logger, and the lines on the console. -/
structure LogState where
  disk : Disk LogContent
  logger : Option Logger
  console : List String

namespace Logger

/-- How many files are kept of a log. -/
def fileCount : Nat := 5

/-- How many bytes a log file may have. -/
def sizeLimit : Nat := 10 * 1024 * 1024

/-- The filter of the console. -/
def consoleFilterOf (mode : ConsoleMode) (file : LogFilter) : LogFilter :=
  match mode with
  | .mirror => file
  | .quiet => .atLevel .warn

/-- Makes the logger of a process with the text of a filter. The log file is opened even if there
is a logger already. -/
def setUp (s : LogState) (setup : LogSetup) (filter : Option String) :
    LogState × Except LogSetupFault Unit :=
  match s.disk.makeDirectories setup.directory with
  | (disk, .error cause) => ({ s with disk }, .error (.directory setup.directory.text cause))
  | (disk, .ok ()) =>
    match RollingFile.start disk setup.directory setup.app fileCount sizeLimit with
    | (.error cause, ⟨disk, _⟩) => ({ s with disk }, .error (.file setup.app cause))
    | (.ok (), ⟨disk, log⟩) =>
      match s.logger with
      | some _ => ({ s with disk }, .error .installed)
      | none =>
        let fileFilter := LogFilter.ofOption filter
        let consoleFilter := consoleFilterOf setup.console fileFilter
        ({ s with disk, logger := some ⟨log, fileFilter, consoleFilter⟩ }, .ok ())

/-- Logs an event at a time. What cannot be written to the file is lost. -/
def note (s : LogState) (stamp : String) (e : LogEvent) : LogState :=
  match s.logger with
  | none => s
  | some logger =>
    let line := e.line stamp
    let s :=
      if logger.fileFilter.enables e then
        let (_, after) := RollingFile.append ⟨s.disk, logger.log⟩ (.text line)
        { s with disk := after.disk, logger := some { logger with log := after.log } }
      else s
    if logger.consoleFilter.enables e then { s with console := s.console ++ [line] } else s

end Logger

end Tabular
