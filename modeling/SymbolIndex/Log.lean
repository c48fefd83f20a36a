import SymbolIndex.Host.Failure
import SymbolIndex.Host.Basic

/-! What a run reports on its way. -/
namespace SymbolIndex

inductive LogLevel
  | debug | info | warning
deriving DecidableEq

def LogLevel.name : LogLevel → Text
  | .debug => "DEBUG".toList
  | .info => "INFO".toList
  | .warning => "WARNING".toList

structure LogEntry where
  level : LogLevel
  logger : Text
  message : Text
deriving DecidableEq

def LogEntry.line (entry : LogEntry) : Text :=
  entry.level.name ++ ' ' :: entry.logger ++ ": ".toList ++ entry.message

/-- A run under way: the host as it is now and the reports so far. -/
structure World where
  host : Host
  log : List LogEntry

/-- Work on a host that may fail. What it changed before it fails stays changed. -/
abbrev Job (α : Type) := ExceptT Failure (StateM World) α

namespace Job

def host : Job Host := return (← get).host

def report (level : LogLevel) (logger : String) (message : Text) : Job Unit :=
  modify fun world => { world with log := world.log ++ [⟨level, logger.toList, message⟩] }

def look {α : Type} (read : Host → Except Failure α) : Job α := do
  match read (← host) with
  | .ok value => return value
  | .error failure => throw failure

/-- Work that changes the host, or leaves it as it is when it fails. -/
def change (edit : Host → Except Failure Host) : Job Unit := do
  let edited ← look edit
  modify fun world => { world with host := edited }

def makeDirectories (path : Path) : Job Unit := do
  let (host, failure) := (← host).makeDirectories path
  modify fun world => { world with host := host }
  match failure with
  | some failure => throw failure
  | none => return ()

def run {α : Type} (job : Job α) (host : Host) : Except Failure α × World :=
  (ExceptT.run job).run ⟨host, []⟩

end Job
end SymbolIndex
