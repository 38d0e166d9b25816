/-
How the driver reports a command that was run in a guest.  A failed invocation of the CLI is
classified by the text it wrote to its standard error, where the output of the guest stands
beside the diagnostics of the CLI.
-/
import MacVz.GoPackages

namespace MacVz.Driver

/-- The error values of package `runtime`. -/
inductive Sentinel where
  | notReady
  | notFound
  | alreadyExists
  | notRunning
  | incompatibleArch
deriving Repr, DecidableEq

def Sentinel.text : Sentinel → String
  | .notReady => "runtime: not ready"
  | .notFound => "runtime: workload not found"
  | .alreadyExists => "runtime: workload already exists"
  | .notRunning => "runtime: workload not running"
  | .incompatibleArch => "runtime: image architecture incompatible"

/-- The errors of the driver with what they wrap: the sentinels, `*exec.ExitError` with the
code of a process (negative for a signal), `*runtime.ExitError`, `*CommandError`, and what
`fmt.Errorf` makes of an error it wraps; the text alone of any other. -/
inductive DriverError where
  | sentinel (s : Sentinel)
  | process (code : Int) (message : String)
  | exit (code : Int)
  | command (args : List String) (exitCode : Int) (stderr : String) (err : DriverError)
  | wrapped (before : String) (err : DriverError) (after : String)
  | other (message : String)
deriving Repr, DecidableEq

namespace DriverError

/-- `Error`. -/
def text : DriverError → String
  | .sentinel s => s.text
  | .process _ message => message
  | .exit code => "runtime: command exited with code " ++ toString code
  | .command args _ stderr err =>
    let msg := String.ofList (GoStrings.trimSpace stderr.toList)
    let msg := if msg = "" then err.text else msg
    "container " ++ " ".intercalate args ++ ": " ++ if msg = "" then "command failed" else msg
  | .wrapped before err after => before ++ err.text ++ after
  | .other message => message

def chain : DriverError → List DriverError
  | .command args exitCode stderr err => .command args exitCode stderr err :: err.chain
  | .wrapped before err after => .wrapped before err after :: err.chain
  | e => [e]

/-- `errors.Is` for a sentinel. -/
def is (e : DriverError) (s : Sentinel) : Bool := e.chain.contains (.sentinel s)

/-- `errors.As` for `*exec.ExitError`. -/
def asProcess (e : DriverError) : Option Int :=
  e.chain.findSome? fun
    | .process code _ => some code
    | _ => none

/-- `errors.As` for `*runtime.ExitError`. -/
def asExit (e : DriverError) : Option Int :=
  e.chain.findSome? fun
    | .exit code => some code
    | _ => none

/-- `errors.As` for `*CommandError`: its exit code and its standard error. -/
def asCommand (e : DriverError) : Option (Int × String) :=
  e.chain.findSome? fun
    | .command _ exitCode stderr _ => some (exitCode, stderr)
    | _ => none

end DriverError

/-- `newCommandError`. -/
def newCommandError (args : List String) (stderr : String) (err : DriverError) : DriverError :=
  .command args (err.asProcess.getD (-1)) stderr err

/-- `targetOS` and `targetArch`. -/
def targetPlatform : String := "linux/arm64"

/-- What `mapErr` looks for in the standard error, in the order of its cases. -/
def recognized : List (String × Sentinel) :=
  [("not found", .notFound), ("no such container", .notFound), ("not running", .notRunning),
    ("already exists", .alreadyExists), ("unsupported platform", .incompatibleArch),
    ("platform " ++ targetPlatform, .incompatibleArch)]

/-- `mapErr`: the error is kept as text behind the sentinel, not as what is wrapped. -/
def mapErr (err : DriverError) : DriverError :=
  match err.asCommand with
  | none => err
  | some (_, stderr) =>
    match recognized.find? fun r => GoStrings.contains (GoStrings.toLower stderr) r.1.toList with
    | some (_, s) => .wrapped "" (.sentinel s) (": " ++ err.text)
    | none => err

/-- The arguments of `container exec`. -/
def execArgs (id : String) (cmd : List String) (tty stdin : Bool) : List String :=
  ["exec"] ++ (if tty then ["--tty"] else []) ++ (if stdin then ["--interactive"] else []) ++
    [id] ++ cmd

/-- The end of `Exec` after a failure: the exit code, where there still is one. -/
def execError (id : String) (mapped : DriverError) : DriverError :=
  match mapped.asCommand with
  | some (exitCode, _) =>
    if 0 ≤ exitCode then .wrapped ("exec \"" ++ id ++ "\": ") (.exit exitCode) ""
    else .wrapped ("exec \"" ++ id ++ "\": ") mapped ""
  | none => .wrapped ("exec \"" ++ id ++ "\": ") mapped ""

/-- `Exec`; `run` is what the CLI does with its arguments: it succeeds, or it fails with what
it wrote to its standard error. -/
def exec (run : List String → Option (String × DriverError)) (id : String) (cmd : List String)
    (tty stdin : Bool) : Option DriverError :=
  if cmd = [] then some (.other ("exec \"" ++ id ++ "\": command is empty"))
  else
    match run (execArgs id cmd tty stdin) with
    | none => none
    | some (stderr, failure) =>
      some (execError id (mapErr (newCommandError (execArgs id cmd tty stdin) stderr failure)))

/-- The text on standard error is one `mapErr` knows. -/
def Recognizable (stderr : String) : Prop :=
  ∃ r ∈ recognized, GoStrings.contains (GoStrings.toLower stderr) r.1.toList = true

instance (stderr : String) : Decidable (Recognizable stderr) :=
  inferInstanceAs (Decidable (∃ r ∈ recognized, _))

section

variable (args : List String) {code : Int} {stderr : String} (err : DriverError)

theorem asCommand_command : (DriverError.command args code stderr err).asCommand =
    some (code, stderr) := rfl

theorem mapErr_unrecognized (h : ¬ Recognizable stderr) :
    mapErr (.command args code stderr err) = .command args code stderr err := by
  have hnone : recognized.find? (fun r =>
      GoStrings.contains (GoStrings.toLower stderr) r.1.toList) = none := by
    rw [List.find?_eq_none]
    exact fun r hr hcontains => h ⟨r, hr, hcontains⟩
  simp only [mapErr, asCommand_command, hnone]

theorem mapErr_recognized (code : Int) (h : Recognizable stderr) :
    ∃ s after, mapErr (.command args code stderr err) = .wrapped "" (.sentinel s) after := by
  obtain ⟨r, hr⟩ : ∃ r, recognized.find? (fun r =>
      GoStrings.contains (GoStrings.toLower stderr) r.1.toList) = some r := by
    rw [← Option.isSome_iff_exists, List.find?_isSome]
    exact h
  refine ⟨r.2, ": " ++ (DriverError.command args code stderr err).text, ?_⟩
  simp only [mapErr, asCommand_command, hr]

theorem execError_command (id : String) (hcode : 0 ≤ code) :
    execError id (.command args code stderr err) =
      .wrapped ("exec \"" ++ id ++ "\": ") (.exit code) "" := by
  simp only [execError, asCommand_command, if_pos hcode]

end

/-- A command that was started in the guest and exited with a code above zero is reported by
that code, and not as a workload that is missing or not running, if and only if none of the
recognized texts occurs in what was written to the standard error. -/
theorem exec_reports_exit_code_iff {run : List String → Option (String × DriverError)} {id : String}
    {cmd : List String} {tty stdin : Bool} {stderr message : String} {n : Int} (hcmd : cmd ≠ [])
    (hn : 0 < n) (hrun : run (execArgs id cmd tty stdin) = some (stderr, .process n message)) :
    (∃ e, exec run id cmd tty stdin = some e ∧ e.asExit = some n ∧
        e.is .notFound = false ∧ e.is .notRunning = false) ↔
      ¬ Recognizable stderr := by
  have hexec : exec run id cmd tty stdin = some (execError id (mapErr
      (.command (execArgs id cmd tty stdin) n stderr (.process n message)))) := by
    rw [exec, if_neg hcmd, hrun]
    rfl
  rw [hexec]
  by_cases hrec : Recognizable stderr
  · obtain ⟨s, after, hmapped⟩ :=
      mapErr_recognized (execArgs id cmd tty stdin) (.process n message) n hrec
    -- nothing but the sentinel is left to be found
    rw [hmapped]
    constructor
    · rintro ⟨e, he, hexit, -⟩
      obtain rfl := Option.some.inj he
      cases hexit
    · exact fun h => absurd hrec h
  · rw [mapErr_unrecognized _ _ hrec, execError_command _ _ id (Int.le_of_lt hn)]
    constructor
    · exact fun _ => hrec
    · exact fun _ => ⟨_, rfl, rfl, rfl, rfl⟩

/-- A CLI that runs every command in the guest and exits with 127, the shell's words before. -/
def shellMisses (words : String) : List String → Option (String × DriverError) :=
  fun _ => some (words, .process 127 "exit status 127")

theorem exec_reports_127 : ¬ Recognizable "make: *** no rule" ∧
      ∃ e, exec (shellMisses "make: *** no rule") "default-web-app" ["sh", "-c", "make x"] false
        false = some e ∧ e.asExit = some 127 := by
  have hunrecognized : ¬ Recognizable "make: *** no rule" := by decide
  have hrun : shellMisses "make: *** no rule"
      (execArgs "default-web-app" ["sh", "-c", "make x"] false false) =
        some ("make: *** no rule", .process 127 "exit status 127") := rfl
  obtain ⟨e, he, hexit, -⟩ :=
    (exec_reports_exit_code_iff (by decide) (by decide) hrun).mpr hunrecognized
  exact ⟨hunrecognized, e, he, hexit⟩

/-- A shell that does not find a command passes for a workload that is not found. -/
theorem shell_text_hides_exit_code :
    (exec (shellMisses "sh: 1: frobnicate: not found\n") "default-web-app"
        ["sh", "-c", "frobnicate"] false false).map (fun e => (e.asExit, e.is .notFound)) =
      some (none, true) := by
  decide

end MacVz.Driver
