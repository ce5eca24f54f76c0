import SourceBlocks.Config.Settings
import SourceBlocks.FileSystem.Change

/-!
# Log output

Where log lines go.  Structured events are first held against a minimum of their own; then they
and all plain lines are held against the level of the root, and each handler takes the lines that
reach its level.  Lines go to the console or, after a redirection, to a file, which a redirection
empties first.
-/

namespace SourceBlocks

/-- A log level.  A truth value serves as the number one or zero. -/
inductive LogLevel where
  | number (n : Int)
  | flag (b : Bool)
  deriving DecidableEq, Repr

namespace LogLevel

/-- The number of a level. -/
def value : LogLevel → Int
  | number n => n
  | flag b => if b then 1 else 0

/-- The level of ordinary information. -/
def info : LogLevel := number 20

/-- The names of levels. -/
def named : List (Text × Int) :=
  [("CRITICAL".toList, 50), ("FATAL".toList, 50), ("ERROR".toList, 40), ("WARN".toList, 30),
   ("WARNING".toList, 30), ("INFO".toList, 20), ("DEBUG".toList, 10), ("NOTSET".toList, 0)]

/-- The level of a name in any case.  A name that is none stands for ordinary information. -/
def ofName (name : Text) : LogLevel :=
  number ((named.lookup (Text.upper name)).getD 20)

/-- The level at which a structured event is logged by a call of the given name.  An exception is
logged as an error. -/
def ofCall (name : Text) : LogLevel :=
  if name = "exception".toList then number 40 else ofName name

/-- The name under which a line of a level appears. -/
def lineName (n : Int) : Text :=
  if n = 50 then "critical".toList
  else if n = 40 then "error".toList
  else if n = 30 then "warning".toList
  else if n = 20 then "info".toList
  else if n = 10 then "debug".toList
  else if n = 0 then "notset".toList
  else "level ".toList ++ Text.ofInt n

/-- Whether structured events can be held against a minimum. -/
def isMinimum (l : LogLevel) : Bool :=
  [0, 10, 20, 30, 40, 50].contains l.value

end LogLevel

/-- A line of log output: the name of its level and its event. -/
structure LogLine where
  levelName : Text
  event : Text
  deriving DecidableEq, Repr

/-- Something that takes log lines. -/
inductive LogHandler where
  | console (level : LogLevel)
  | discard
  | file (address : List Text)
  deriving DecidableEq, Repr

/-- The least level that a handler takes. -/
def LogHandler.level : LogHandler → LogLevel
  | console level => level
  | discard => .number 0
  | file _ => .number 0

/-- The state of log output: the minimum of structured events, the level of the root, its
handlers, what the console has shown, the files there are, and the lines in log files. -/
structure LogOutput where
  minimum : LogLevel
  rootLevel : LogLevel
  handlers : List LogHandler
  console : List LogLine
  fs : FileSystem
  written : List (List Text × List LogLine)

/-- Why log output cannot be set up. -/
inductive LogFault where
  | unknownLevel
  | improperPath
  | file (fault : FileFault)
  deriving DecidableEq, Repr

namespace LogOutput

/-- Components in which double dots have taken away what stands before them. -/
def withoutDoubleDots (components : List Text) : List Text :=
  (components.foldl (fun kept name => if name = ['.', '.'] then kept.drop 1 else name :: kept)
    []).reverse

/-- Log output on the console. -/
def onConsole (fs : FileSystem) : LogOutput :=
  { minimum := .info
    rootLevel := .info
    handlers := [.console .info]
    console := []
    fs := fs
    written := [] }

/-- Sends log output of a level to the console or nowhere.  The console may have a level of its
own. -/
def configure (o : LogOutput) (level : LogLevel) (enableConsole : Bool)
    (consoleLevel : Option LogLevel) : LogOutput × Option LogFault :=
  if !level.isMinimum then (o, some .unknownLevel)
  else
    ({ o with
        minimum := level
        rootLevel := level
        handlers := if enableConsole then [.console (consoleLevel.getD level)] else [.discard] },
      none)

/-- Sends log output of a level to the file at a path, which is given in normal form.  When the
file cannot be opened, the minimum has changed and there are no handlers. -/
def redirect (o : LogOutput) (path : Text) (level : LogLevel) : LogOutput × Option LogFault :=
  if !level.isMinimum then (o, some .unknownLevel)
  else
    let components := Path.components path
    let parent := components.dropLast
    let o := { o with minimum := level, handlers := [] }
    if !parent.all Path.isProper then (o, some .improperPath)
    else if FileSystem.pathLimit < Utf8.size path then (o, some (.file .nameTooLong))
    else
      let start := o.fs.startOf path
      match o.fs.makeDirectories start false parent with
      | (fs, some fault) => ({ o with fs := fs }, some (.file fault))
      | (fs, none) =>
        let o := { o with fs := fs }
        if !Path.isProper path then (o, some .improperPath)
        else
          match fs.write [] (withoutDoubleDots (start ++ components)) [] with
          | .error fault => (o, some (.file fault))
          | .ok (fs, address) =>
            ({ o with
                rootLevel := level
                handlers := [.file address]
                fs := fs
                written := (address, []) :: o.written.filter fun entry => entry.1 ≠ address },
              none)

/-- Sends log output where settings say: to their log file if they name one, else to the
console. -/
def applySettings (o : LogOutput) (s : Settings) : LogOutput × Option LogFault :=
  let level := LogLevel.ofName s.logLevel
  match s.logFile.filter fun path => !path.isEmpty with
  | some path => o.redirect (Path.normalize path) level
  | none => o.configure level true none

/-- The lines in log files after one more line in the file at an address. -/
def appendLine (address : List Text) (line : LogLine) (written : List (List Text × List LogLine)) :
    List (List Text × List LogLine) :=
  written.map fun (other, lines) =>
    if other = address then (other, lines ++ [line]) else (other, lines)

/-- Hands a line of a level to a handler. -/
def handle (n : Int) (line : LogLine) (o : LogOutput) (h : LogHandler) : LogOutput :=
  if n < h.level.value then o
  else
    match h with
    | .console _ => { o with console := o.console ++ [line] }
    | .discard => o
    | .file address => { o with written := appendLine address line o.written }

/-- Logs a plain line.  A line needs a level above zero. -/
def logPlain (o : LogOutput) (n : Int) (levelName event : Text) : LogOutput :=
  if n ≤ 0 || n < o.rootLevel.value then o
  else o.handlers.foldl (handle n ⟨levelName, event⟩) o

/-- Logs a structured event. -/
def logEvent (o : LogOutput) (n : Int) (event : Text) : LogOutput :=
  if n < o.minimum.value then o else o.logPlain n (LogLevel.lineName n) event

/-- The lines in the file at a path, or none if no regular file is there. -/
def linesAt? (o : LogOutput) (path : Text) : Option (List LogLine) :=
  match o.fs.resolve path with
  | .ok (.file address _) => some ((o.written.lookup address).getD [])
  | _ => none

end LogOutput

end SourceBlocks
