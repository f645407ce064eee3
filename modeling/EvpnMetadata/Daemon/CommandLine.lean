import EvpnMetadata.Text.Leading

/-! # The command line

Options stand before the command.  The arguments are taken from left to right, and a request for
help or for the version is answered at once, whatever follows it.  The texts of the answers stand at
the end, with the settings that are recommended for the agent on the chassis.
-/

namespace EvpnMetadata.Daemon

inductive Command where
  | run
  | sweep
  | agentConfig
  deriving DecidableEq, Repr

def Command.name : Command → String
  | .run => "run"
  | .sweep => "sweep"
  | .agentConfig => "agent-config"

def Command.ofName? : String → Option Command
  | "run" => some .run
  | "sweep" => some .sweep
  | "agent-config" => some .agentConfig
  | _ => none

/-- What help is asked for. -/
inductive Topic where
  | program
  | command (command : Command)
  | help
  deriving DecidableEq, Repr

inductive Request where
  | help (topic : Topic)
  | version
  | perform (configPath : String) (command : Command)
  deriving DecidableEq, Repr

def defaultConfigPath : String := "/etc/bgpvpn/bgpvpn-ovnd.toml"

namespace CommandLine

/-- What one argument before the command stands for. -/
inductive Word where
  | help
  | version
  | configNext
  | config (path : String)
  | separator
  | plain (text : String)
  | unknown
  deriving DecidableEq, Repr

/-- The first letter after a single dash decides; the rest of a short option is its value, with or
without an equals sign before it. -/
def shortWord : List Char → Word
  | 'h' :: _ => .help
  | 'V' :: _ => .version
  | ['c'] => .configNext
  | 'c' :: '=' :: value => .config (String.ofList value)
  | 'c' :: value => .config (String.ofList value)
  | _ => .unknown

def longWord (name : String) : Word :=
  match name with
  | "help" => .help
  | "version" => .version
  | "config" => .configNext
  | name =>
    match Text.after? "config=" name with
    | some value => .config value
    | none => .unknown

def word (argument : String) : Word :=
  match argument.toList with
  | ['-'] => .plain argument
  | ['-', '-'] => .separator
  | '-' :: '-' :: name => longWord (String.ofList name)
  | '-' :: letters => shortWord letters
  | _ => .plain argument

/-- A value in an argument of its own does not look like an option. -/
def isValue (argument : String) : Bool :=
  match word argument with
  | .plain _ => true
  | _ => false

/-- The arguments after a command that takes none: nothing, or a request for help. -/
def readCommand (configPath : String) (command : Command) : List String → Option Request
  | [] => some (.perform configPath command)
  | argument :: rest =>
    match word argument with
    | .help => some (.help (.command command))
    | .separator => if rest.isEmpty then some (.perform configPath command) else none
    | _ => none

/-- The names after the command `help`. -/
def readTopic : List String → Option Request
  | [] => some (.help .program)
  | ["help"] => some (.help .help)
  | [name] => (Command.ofName? name).map fun command => .help (.command command)
  | _ => none

/-- Options up to the command; the configuration is named once and not by an empty path. -/
def readOptions (config : Option String) : List String → Option Request
  | [] => some (.perform (config.getD defaultConfigPath) .run)
  | [argument] =>
    match word argument with
    | .configNext => none
    | .config path => if config.isSome || path.isEmpty then none else readOptions (some path) []
    | other => readOther other []
  | argument :: next :: rest =>
    match word argument with
    | .configNext =>
      if config.isSome || next.isEmpty || !isValue next then none
      else readOptions (some next) rest
    | .config path =>
      if config.isSome || path.isEmpty then none else readOptions (some path) (next :: rest)
    | other => readOther other (next :: rest)
where
  readOther (found : Word) (rest : List String) : Option Request :=
    match found with
    | .help => some (.help .program)
    | .version => some .version
    | .separator =>
      if rest.isEmpty then some (.perform (config.getD defaultConfigPath) .run) else none
    | .plain "help" => readTopic rest
    | .plain name => do
      readCommand (config.getD defaultConfigPath) (← Command.ofName? name) rest
    | _ => none

end CommandLine

/-- The request of some arguments, unless they are refused. -/
def Request.ofArguments? (arguments : List String) : Option Request :=
  CommandLine.readOptions none arguments

def programName : String := "bgpvpn-ovnd"

def versionText : String := programName ++ " 0.1.0\n"

/-- What a command does, in one line. -/
def Command.summary : Command → String
  | .run => "Process lifecycle events until interrupted (default)"
  | .sweep => "Run one reconciliation pass and exit"
  | .agentConfig => "Print the recommended data-plane agent configuration"

def helpSummary : String := "Print this message or the help of the given subcommand(s)"

def Topic.text : Topic → String
  | .program =>
    "BGPVPN driver propagating EVPN configuration into logical switch metadata\n\n"
      ++ "Usage: " ++ programName ++ " [OPTIONS] [COMMAND]\n\nCommands:\n"
      ++ "  run           " ++ Command.run.summary ++ "\n"
      ++ "  sweep         " ++ Command.sweep.summary ++ "\n"
      ++ "  agent-config  " ++ Command.agentConfig.summary ++ "\n"
      ++ "  help          " ++ helpSummary ++ "\n\nOptions:\n"
      ++ "  -c, --config <CONFIG>  Configuration file [default: " ++ defaultConfigPath ++ "]\n"
      ++ "  -h, --help             Print help\n  -V, --version          Print version\n"
  | .command chosen =>
    chosen.summary ++ "\n\nUsage: " ++ programName ++ " " ++ chosen.name
      ++ "\n\nOptions:\n  -h, --help  Print help\n"
  | .help =>
    helpSummary ++ "\n\nUsage: " ++ programName
      ++ " help [COMMAND]...\n\nArguments:\n  [COMMAND]...  Print help for the subcommand(s)\n"

/-- The settings under which the agent reads the metadata that is published here. -/
def agentConfig : String :=
  "# Recommended ovn-bgp-agent.conf for BGPVPN integration\n\n"
    ++ "[DEFAULT]\ndriver = ovn_evpn_driver\nexposing_method = vrf\nevpn_local_ip = <VTEP_IP>\n"
    ++ "bgp_AS = <YOUR_AS>\nbgp_router_id = <ROUTER_ID>\n\n"
    ++ "[ovn]\novn_nb_connection = tcp:<NB_IP>:6641\novn_sb_connection = tcp:<SB_IP>:6642\n"

end EvpnMetadata.Daemon
