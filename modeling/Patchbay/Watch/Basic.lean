-- The watcher: it connects to a controller, writes a line for each event, and
-- reports in the end why it stopped.
import Patchbay.Session
import Patchbay.Watch.Lines
import Patchbay.Watch.LogFilter
import Patchbay.Watch.Options

namespace Patchbay.Watch

/-! ## Reports -/

/-- A text of several lines, each but the first after an indentation. -/
def indented (first rest : String) (text : String) : List String :=
  match Text.fields '\n' text with
  | [] => [first]
  | l :: ls => (first ++ l) :: ls.map (rest ++ ·)

/-- The causes of an error, with numbers if there are several. -/
def causeLines : List String → List String
  | [c] => indented "    " "    " c
  | cs => cs.zipIdx.flatMap fun (c, i) => indented s!"    {i}: " "       " c

/-- What is reported of an error: what was being done, and the causes. -/
def report (doing : String) (causes : List String) : List String :=
  Text.fields '\n' s!"Error: {doing}" ++
    if causes = [] then [] else "" :: "Caused by:" :: causeLines causes

/-! ## Configuration -/

/-- Why the watcher has no configuration. -/
inductive Misconfigured where
  | file (path : String) (p : ConfigProblem)
  | merged (p : ConfigProblem)
deriving DecidableEq

def Misconfigured.report : Misconfigured → List String
  | file path p =>
    Watch.report s!"Failed to load config from {path}" (ClientError.config p).causes
  | merged p => Watch.report "Invalid configuration" (ClientError.config p).causes

/-- The settings of the file or the standard ones, under those of the command line.
`load` gives the usable configuration in a file. -/
def Options.configuration (o : Options) (load : String → Except ConfigProblem Config) :
    Except Misconfigured Config := do
  let c ← match o.config with
    | some path => (load path).mapError (.file path)
    | .none => pure Config.standard
  let c := { c with host := o.host.getD c.host, port := o.port.getD c.port }
  c.validate.mapError .merged
  return c

/-! ## The whole run -/

/-- What the watcher finds around it. -/
structure Surroundings where
  env : String → Option String
  /-- What reading a file gives. -/
  file : String → Except String (List UInt8)
  /-- What connecting to a controller gives. -/
  dial : Config → Except String ByteSource
  /-- Whether the output goes to a terminal. -/
  isTerminal : Bool

/-- What the watcher leaves. -/
structure Outcome where
  status : Nat
  output : List String
  report : List String
deriving DecidableEq

/-- Whether colours are wanted. Being forced comes first and being refused second. -/
def wantsColor (env : String → Option String) (isTerminal : Bool) : Bool :=
  match env "CLICOLOR_FORCE", env "NO_COLOR" with
  | some "0", none | none, none => env "CLICOLOR" ≠ some "0" && isTerminal
  | some "0", some _ | none, some _ => false
  | some _, _ => true

/-- What the watcher says of itself. -/
def versionLine : String := "dsync 0.1.0"

/-- An engine that tells a silent handler of everything. -/
def engine : Engine := .new fun _ => some (.silent .none)

/-- What a failure leaves when nothing was written before. -/
def Outcome.failed (doing : String) (causes : List String) : Outcome :=
  ⟨1, [], Watch.report doing causes⟩

/-- What is left when the watcher breaks off and has nothing to report. -/
def Outcome.aborted : Outcome := ⟨101, [], []⟩

/-- Reads the log filter of the command line. Without one, that of the environment is
read, and where it is malformed the standard one takes its place. -/
def readLogFilter (o : Options) (env : String → Option String) : Except Outcome Unit :=
  match o.logLevel with
  | some level => (LogFilter.read level).mapError fun
    | .malformed => .failed "Invalid log level" []
    | .torn => .aborted
  | .none =>
    match (env "RUST_LOG").map LogFilter.read with
    | some (.error .torn) => .error .aborted
    | _ => .ok ()

/-- The configuration to connect with, once the log filter is read. -/
def prepare (o : Options) (w : Surroundings) : Except Outcome Config := do
  readLogFilter o w.env
  (o.configuration fun path => Config.load path (w.file path)).mapError
    fun p => ⟨1, [], p.report⟩

/-- What failing to connect leaves. -/
def unconnected (c : Config) (e : ClientError) : Outcome :=
  .failed s!"Failed to connect to {c.host}:{c.port}" e.causes

/-- What is reported when a session is over. -/
def ended (e : ClientError) : List String := report "Session with controller ended" e.causes

/-- How events are written. -/
def Options.format (o : Options) (w : Surroundings) : Format :=
  ⟨o.json, wantsColor w.env w.isTerminal⟩

/-- Connects and watches. -/
def watch (o : Options) (w : Surroundings) : Outcome :=
  match prepare o w with
  | .error out => out
  | .ok c =>
    match Session.connect c w.dial with
    | .error e => unconnected c e
    | .ok source =>
      let run := engine.run c.frameLimit source
      ⟨1, (o.format w).output run.effects, ended run.error⟩

/-- Does what the command line asks for. -/
def execute (args : List String) (w : Surroundings) : Outcome :=
  match Request.read args w.env with
  | .badUsage => ⟨2, [], []⟩
  | .version => ⟨0, [versionLine], []⟩
  | .help => ⟨0, [], []⟩
  | .watch o => watch o w

end Patchbay.Watch
