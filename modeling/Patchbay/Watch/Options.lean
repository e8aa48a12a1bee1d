-- The words of the command line. A setting may be given once; what the command
-- line leaves out is looked up in the environment.
import Patchbay.Config.Load

namespace Patchbay.Watch

/-- What has a value on the command line. -/
inductive Setting where
  | host
  | port
  | config
  | logLevel
deriving DecidableEq

namespace Setting

def all : List Setting := [host, port, config, logLevel]

/-- The word after two dashes. -/
def word : Setting → String
  | host => "host"
  | port => "port"
  | config => "config"
  | logLevel => "log-level"

/-- The letter after one dash. -/
def letter? : Setting → Option Char
  | port => some 'p'
  | config => some 'c'
  | host | logLevel => none

/-- The environment variable. -/
def envName : Setting → String
  | host => "DSYNC_HOST"
  | port => "DSYNC_PORT"
  | config => "DSYNC_CONFIG"
  | logLevel => "DSYNC_LOG_LEVEL"

def ofWord? (s : String) : Option Setting := all.find? (·.word = s)

def ofLetter? (c : Char) : Option Setting := all.find? (·.letter? = some c)

end Setting

/-- What the command line asks for. -/
structure Options where
  host : Option String
  port : Option UInt16
  /-- The path of a configuration file. -/
  config : Option String
  logLevel : Option String
  /-- Whether events are written in JSON. -/
  json : Bool
deriving DecidableEq

namespace Options

def empty : Options := ⟨none, none, none, none, false⟩

/-- The number of a port: a decimal numeral that may have a sign. With a hyphen before it
only nought is one. -/
def port? (s : String) : Option UInt16 :=
  match s.toList with
  | '-' :: r => if r ≠ [] ∧ r.all (· = '0') then some 0 else none
  | _ => (Numeral.upTo? (UInt16.size - 1) s).map UInt16.ofNat

def has (o : Options) : Setting → Bool
  | .host => o.host.isSome
  | .port => o.port.isSome
  | .config => o.config.isSome
  | .logLevel => o.logLevel.isSome

/-- The options with one more setting, which must not be given before. -/
def set (o : Options) (s : Setting) (value : String) : Option Options :=
  if o.has s then none
  else match s with
    | .host => some { o with host := some value }
    | .port => (port? value).map fun p => { o with port := some p }
    | .config => if value = "" then none else some { o with config := some value }
    | .logLevel => some { o with logLevel := some value }

end Options

/-- What one word of the command line is. -/
inductive Word where
  /-- A setting whose value is the next word. -/
  | setting (s : Setting)
  | settingWith (s : Setting) (value : String)
  | json
  | version
  | help
  /-- Two dashes, after which no options follow. -/
  | separator
  | other

namespace Word

/-- A word after two dashes, which may hold a value after an equals sign. -/
def ofLong (cs : List Char) : Word :=
  let (name, rest) := cs.span (· ≠ '=')
  match rest with
  | _ :: value =>
    match Setting.ofWord? (String.ofList name) with
    | some s => settingWith s (String.ofList value)
    | none => other
  | [] =>
    match String.ofList name with
    | "json" => json
    | "version" => version
    | "help" => help
    | name => ((Setting.ofWord? name).map setting).getD other

/-- A letter after one dash. A value may follow at once, with or without an equals
sign. -/
def ofShort (c : Char) (rest : List Char) : Word :=
  match c, rest with
  | 'V', _ => version
  | 'h', _ => help
  | c, rest =>
    match Setting.ofLetter? c, rest with
    | none, _ => other
    | some s, [] => setting s
    | some s, '=' :: value => settingWith s (String.ofList value)
    | some s, value => settingWith s (String.ofList value)

def ofString (s : String) : Word :=
  match s.toList with
  | ['-', '-'] => separator
  | '-' :: '-' :: cs => ofLong cs
  | '-' :: c :: cs => ofShort c cs
  | _ => other

end Word

/-- What is to be done. -/
inductive Request where
  | watch (o : Options)
  | version
  | help
  | badUsage
deriving DecidableEq

namespace Request

/-- Whether a word can be the value of the setting before it. -/
def isValue (s : String) : Bool := s = "-" || !s.startsWith "-"

/-- Reads the words after some options. -/
def ofWords (o : Options) : List String → Request
  | [] => .watch o
  | w :: ws =>
    match Word.ofString w with
    | .separator => if ws = [] then .watch o else .badUsage
    | .settingWith s value =>
      match o.set s value with
      | some o => ofWords o ws
      | none => .badUsage
    | .setting s =>
      match ws with
      | [] => .badUsage
      | value :: ws =>
        if isValue value then
          match o.set s value with
          | some o => ofWords o ws
          | none => .badUsage
        else .badUsage
    | .json => if o.json then .badUsage else ofWords { o with json := true } ws
    | .version => .version
    | .help => .help
    | .other => .badUsage

/-- Fills settings in from the environment. -/
def fill (env : String → Option String) (o : Options) : List Setting → Request
  | [] => .watch o
  | s :: ss =>
    if o.has s then fill env o ss
    else match env s.envName with
      | none => fill env o ss
      | some value =>
        match o.set s value with
        | some o => fill env o ss
        | none => .badUsage

/-- Reads the command line and the environment. -/
def read (args : List String) (env : String → Option String) : Request :=
  match ofWords .empty args with
  | .watch o => fill env o Setting.all
  | r => r

end Request

end Patchbay.Watch
