import FilterStore.Config.Basic
import FilterStore.Dump.Document
import FilterStore.Sql.Fault

/-!
# Failures

What can go wrong with a store: a request is refused before it reaches the database, a configuration
or a document is not valid, the engine refuses a statement, or something is asked for at the wrong
time.
-/

namespace FilterStore

open Sql (EngineError)

/-! ## Stages of migrations

Functions are registered in the first stage.  Running goes through the other three: the functions
that change the schema run, then the schema is ready and the functions that wait for it run, then
all is done.  A run that fails stays where it was, and from there nothing leads on.
-/

/-- How far migrations have come. -/
inductive Stage
  | init
  | execute
  | ready
  | done
  deriving DecidableEq, Repr

def Stage.label : Stage → String
  | init => "INIT"
  | execute => "EXECUTE"
  | ready => "READY"
  | done => "DONE"

/-- What a registered function is for. -/
inductive FunctionKind
  /-- It creates the latest schema. -/
  | init
  /-- It brings the schema to a version. -/
  | update
  /-- It waits for the schema. -/
  | ready
  deriving DecidableEq, Repr

def FunctionKind.label : FunctionKind → String
  | init => "init"
  | update => "update"
  | ready => "ready"

/-! ## Failures -/

/-- Why something cannot be done now. -/
inductive StateFault
  | alreadyRun (stage : Stage)
  | notDone (stage : Stage)
  | unknownIndex (name : String)
  /-- A function or a hook refuses to go on. -/
  | refused (reason : String)
  deriving DecidableEq, Repr

def StateFault.message : StateFault → String
  | alreadyRun stage => "execute requires state INIT, engine is " ++ stage.label
  | notDone stage => "re_execute requires state DONE, engine is " ++ stage.label
  | unknownIndex name => "index '" ++ name ++ "' is not registered"
  | refused reason => reason

/-- What went wrong. -/
inductive Failure
  | schema (e : Error)
  | config (f : ConfigFault)
  | document (f : DocumentFault)
  | engine (e : EngineError)
  /-- A version is not greater than those before it. -/
  | versionOrder (version latest : Int64)
  | registrationClosed (kind : FunctionKind) (stage : Stage)
  | invalidState (f : StateFault)
  | notOpen
  deriving DecidableEq, Repr

/-- The wording of a failure. -/
def Failure.message : Failure → String
  | schema e => e.message
  | config f => "invalid config: " ++ f.message
  | document f => "invalid dump document: " ++ f.message
  | engine e => e.display
  | versionOrder version latest =>
    "update version " ++ toString version.toInt ++
      " must be greater than the latest registered version " ++ toString latest.toInt
  | registrationClosed kind stage =>
    "cannot register " ++ kind.label ++ " function: migration engine is in state " ++ stage.label
  | invalidState f => "invalid state: " ++ f.message
  | notOpen => "database is not open"

end FilterStore
