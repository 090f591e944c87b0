import NotificationTap.Disk.Path
import NotificationTap.OpenAction
import NotificationTap.Text.Truth

/-!
# The arguments of a command line

```
[--config PATH] resolve|open [PAYLOAD] [--open-app BOOL] [--suppress-launch-url BOOL]
[--config PATH] settings show
[--config PATH] settings set [--open-app BOOL] [--suppress-launch-url BOOL]
```

Options may stand before and after the other arguments of their command, and `--config` of any
command around it. Each is given at most once by command; of several `--config` the innermost
counts. A value is the next argument or follows an equals sign. After `--` no argument is an option
or a command.

* `Invocation`: what a command line asks for.
* `Overrides.apply`: settings with some of them replaced for one run.
* `Scan.step`: one argument. `Invocation.ofArguments?`: a whole command line, if it has a meaning.
-/

namespace NotificationTap.CommandLine

/-! ## Invocations -/

/-- Settings given on the command line. -/
structure Overrides where
  /-- In place of `Settings.openApp`. -/
  openApp? : Option Bool := none
  /-- In place of `Settings.suppressUrl`. -/
  suppressUrl? : Option Bool := none
deriving DecidableEq, Repr

/-- Settings with those replaced that the command line gives. -/
def Overrides.apply (overrides : Overrides) (settings : Settings) : Settings where
  openApp := overrides.openApp?.getD settings.openApp
  suppressUrl := overrides.suppressUrl?.getD settings.suppressUrl

/-- What is to be done. -/
inductive Command where
  /-- Show the decision on a payload. -/
  | resolve (payload? : Option FilePath) (overrides : Overrides)
  /-- Show what is done for a payload. -/
  | dispatch (payload? : Option FilePath) (overrides : Overrides)
  /-- Show the settings. -/
  | showSettings
  /-- Change the settings and save them. -/
  | changeSettings (overrides : Overrides)
deriving DecidableEq, Repr

/-- What a command line asks for. -/
structure Invocation where
  /-- The settings file, if it is not the usual one. -/
  config? : Option FilePath
  /-- What is to be done. -/
  command : Command
deriving DecidableEq, Repr

/-! ## Options -/

/-- Options with a value. -/
inductive Flag where
  | config
  | openApp
  | suppressUrl
deriving DecidableEq, Repr

/-- Commands that no other command follows. -/
inductive Verb where
  | resolve
  | dispatch
  | showSettings
  | changeSettings
deriving DecidableEq, Repr

/-- Which command an argument belongs to. -/
inductive Level where
  /-- None yet. -/
  | top
  /-- `settings`, with its own command still to come. -/
  | settings
  | verb (verb : Verb)
deriving DecidableEq, Repr

/-- Whether a command takes a payload. -/
def Verb.takesPayload : Verb → Bool
  | .resolve => true
  | .dispatch => true
  | .showSettings => false
  | .changeSettings => false

/-- Whether settings may be given for a command. -/
def Verb.takesOverrides : Verb → Bool
  | .showSettings => false
  | _ => true

/-- Whether settings may be given at a level. -/
def Level.takesOverrides : Level → Bool
  | .verb v => v.takesOverrides
  | _ => false

/-- The option of a name at a level. -/
def Flag.ofName? (level : Level) (name : String) : Option Flag :=
  if name = "config" then some .config
  else if !level.takesOverrides then none
  else if name = "open-app" then some .openApp
  else if name = "suppress-launch-url" then some .suppressUrl
  else none

/-- The level that the name of a command leads to. -/
def Level.enter? (level : Level) (name : String) : Option Level :=
  match level with
  | .top =>
    if name = "resolve" then some (.verb .resolve)
    else if name = "open" then some (.verb .dispatch)
    else if name = "settings" then some .settings
    else none
  | .settings =>
    if name = "show" then some (.verb .showSettings)
    else if name = "set" then some (.verb .changeSettings)
    else none
  | .verb _ => none

/-! ## Scanning -/

/-- A command line as far as it is read. -/
structure Scan where
  /-- The command that arguments belong to. -/
  level : Level := .top
  /-- The settings file that an outer command names. -/
  outerConfig? : Option FilePath := none
  /-- The settings file that this command names. -/
  config? : Option FilePath := none
  /-- The settings given so far. -/
  overrides : Overrides := {}
  /-- The payload given so far. -/
  payload? : Option FilePath := none
  /-- The option that waits for its value. -/
  pending? : Option Flag := none
  /-- Whether `--` has been read. -/
  ended : Bool := false
deriving DecidableEq, Repr

/-- What an argument is when no option waits for a value. -/
inductive Argument where
  /-- `--` -/
  | ending
  /-- An option by its name, with what follows an equals sign. -/
  | option (name : String) (value? : Option String)
  /-- A hyphen with anything else behind it. -/
  | unknown
  | plain
deriving DecidableEq, Repr

/-- The kind of an argument. -/
def Argument.ofText (text : String) : Argument :=
  match text.toList with
  | ['-', '-'] => .ending
  | '-' :: '-' :: cs =>
    .option (String.ofList (cs.takeWhile (· ≠ '=')))
      (match cs.dropWhile (· ≠ '=') with
        | _ :: value => some (String.ofList value)
        | [] => none)
  | '-' :: _ :: _ => .unknown
  | _ => .plain

/-- A path, which may not be empty. -/
def path? (text : String) : Option FilePath := if text.isEmpty then none else some ⟨text⟩

namespace Scan

/-- Gives an option its value, once. -/
def setFlag? (scan : Scan) (flag : Flag) (value : String) : Option Scan :=
  match flag with
  | .config =>
    if scan.config?.isSome then none
    else (path? value).map fun path => { scan with config? := some path, pending? := none }
  | .openApp =>
    if scan.overrides.openApp?.isSome then none
    else (Text.truth? value).map fun b =>
      { scan with overrides := { scan.overrides with openApp? := some b }, pending? := none }
  | .suppressUrl =>
    if scan.overrides.suppressUrl?.isSome then none
    else (Text.truth? value).map fun b =>
      { scan with overrides := { scan.overrides with suppressUrl? := some b }, pending? := none }

/-- A payload, where the command takes one, or else the name of a command. -/
def addPlain? (scan : Scan) (text : String) : Option Scan :=
  match scan.level with
  | .verb verb =>
    if verb.takesPayload && scan.payload?.isNone then
      (path? text).map fun path => { scan with payload? := some path }
    else none
  | level =>
    if scan.ended then none
    else
      (level.enter? text).map fun inner =>
        { scan with
          level := inner
          outerConfig? := scan.config?.or scan.outerConfig?
          config? := none }

/-- One argument. -/
def step (scan : Scan) (text : String) : Option Scan :=
  match scan.pending? with
  | some flag => if Argument.ofText text = .plain then scan.setFlag? flag text else none
  | none =>
    if scan.ended then scan.addPlain? text
    else
      match Argument.ofText text with
      | .ending => some { scan with ended := true }
      | .unknown => none
      | .plain => scan.addPlain? text
      | .option name value? =>
        match Flag.ofName? scan.level name, value? with
        | none, _ => none
        | some flag, some value => scan.setFlag? flag value
        | some flag, none => some { scan with pending? := some flag }

/-- What a command line asks for once all of it is read. -/
def finish? (scan : Scan) : Option Invocation :=
  match scan.level, scan.pending? with
  | .verb verb, none =>
    some {
      config? := scan.config?.or scan.outerConfig?
      command :=
        match verb with
        | .resolve => .resolve scan.payload? scan.overrides
        | .dispatch => .dispatch scan.payload? scan.overrides
        | .showSettings => .showSettings
        | .changeSettings => .changeSettings scan.overrides }
  | _, _ => none

end Scan

/-- What a command line asks for, if it has a meaning. -/
def Invocation.ofArguments? (arguments : List String) : Option Invocation :=
  (arguments.foldlM Scan.step {}).bind Scan.finish?

end NotificationTap.CommandLine
