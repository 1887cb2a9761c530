import JobRelay.Config.Forms

/-! # Loading the settings

Settings come from a file below the root directory, which is written with the defaults when it is
not there. Variables of the environment then replace single settings, and what results has to keep
the rules.
-/

namespace JobRelay

/-- The settings in use and where they are kept. -/
structure Installation where
  config : Config
  workspace : String
  configPath : String
deriving DecidableEq, Repr

def Installation.databasePath (i : Installation) : String :=
  i.config.database.fileIn i.workspace

abbrev Environment := String → Option String

/-- The first of some variables that is set to more than blanks, without the blanks around it. -/
def Environment.firstOf (env : Environment) (names : List String) : Option String :=
  names.findSome? fun name => (env name).bind Text.nonBlank?

/-- Replaces settings by variables of the environment. A port that is no port is passed over. -/
def Installation.override (i : Installation) (env : Environment) : Installation :=
  let c := i.config
  let port := (env.firstOf ["SUBRELAY_GATEWAY_PORT", "PORT"]).bind (Text.unsignedBits? 16)
  { i with
    workspace := (env.firstOf ["SUBRELAY_WORKSPACE"]).getD i.workspace
    config := { c with
      gateway := { c.gateway with
        port := port.getD c.gateway.port
        host := (env.firstOf ["SUBRELAY_GATEWAY_HOST", "HOST"]).getD c.gateway.host
        operatorToken := (env.firstOf ["SUBRELAY_OPERATOR_TOKEN"]).or c.gateway.operatorToken }
      agent := { c.agent with
        sharedSecret := (env.firstOf ["SUBRELAY_AGENT_SECRET"]).or c.agent.sharedSecret }
      payments := { c.payments with
        webhookSecret := (env.firstOf ["SUBRELAY_WEBHOOK_SECRET"]).or c.payments.webhookSecret
        btcpayApiKey := (env.firstOf ["SUBRELAY_BTCPAY_API_KEY"]).or c.payments.btcpayApiKey } } }

/-- Why settings cannot be loaded. -/
inductive LoadFault where
  | unreadable
  | broken (fault : ConfigFault)
deriving DecidableEq, Repr

/-- The report of a fault, outermost first. -/
def LoadFault.chain : LoadFault → List String
  | unreadable => ["Failed to parse config file"]
  | broken fault => fault.chain

/-- Loads the settings below a root directory from the text of the file there, if there is one. -/
def Installation.load (root : String) (file : Option String) (env : Environment) :
    Except LoadFault Installation := do
  let config ←
    match file with
    | none => pure ({} : Config)
    | some text =>
      match Config.ofToml? text with
      | some config => pure config
      | none => throw .unreadable
  let found : Installation :=
    { config, workspace := joinPath root "workspace", configPath := joinPath root "config.toml" }
  let used := found.override env
  match used.config.validate with
  | .ok () => return used
  | .error fault => throw (.broken fault)

/-- The root directory below a home directory. -/
def Installation.rootIn (home : String) : String :=
  joinPath home ".subrelay"

end JobRelay
