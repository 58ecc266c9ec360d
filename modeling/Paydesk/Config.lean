import Paydesk.Provider
import Paydesk.Text.Numeral

/-!
# Configuration

The settings of the service, read from named variables. A blank value counts as none. Settings are
read in a fixed order and the first fault is reported; variables of a feature that is off are not
looked at.
-/

namespace Paydesk

/-- Connection settings of a payment provider. -/
structure ProviderConfig where
  provider : Provider
  baseUrl : String
  apiKey : Option String
  refunds : Bool
  deriving DecidableEq

/-- Where deliveries go, and how they are signed. -/
structure WebhookConfig where
  url : String
  secret : String
  timeoutSeconds : Nat
  deriving DecidableEq

structure Config where
  port : Nat
  providerTimeoutSeconds : Nat
  publishTimeoutSeconds : Nat
  providers : List ProviderConfig
  webhook : Option WebhookConfig
  telemetryEndpoint : Option String
  deriving DecidableEq

/-- Why settings are refused. -/
inductive ConfigError where
  | port (fault : Text.NumeralFault)
  | seconds (name : String) (fault : Text.NumeralFault)
  | refunds (name value : String)
  | missingSecret
  deriving DecidableEq

namespace ConfigError

def message : ConfigError → String
  | .port _ => "PORT must be a port number"
  | .seconds name _ => name ++ " must be a whole number of seconds"
  | .refunds name _ => name ++ " must be true or false"
  | .missingSecret => "WEBHOOK_SECRET environment variable is required when WEBHOOK_URL is set"

/-- The words for what lies behind a refusal. -/
def causes : ConfigError → List String
  | .port fault => [fault.message]
  | .seconds _ fault => [fault.message]
  | .refunds _ value => ["invalid boolean " ++ Text.quoted value]
  | .missingSecret => []

end ConfigError

/-- The values of variables by name. -/
abbrev Environment : Type := String → Option String

namespace Environment

/-- The value of a variable that is set and not blank. -/
def var? (env : Environment) (name : String) : Option String :=
  (env name).filter fun value => !Text.isBlankText value

def seconds (env : Environment) (name : String) (default : Nat) : Except ConfigError Nat :=
  match env.var? name with
  | none => .ok default
  | some value => (Text.readNat Text.maxWord (Text.trim value)).mapError (.seconds name)

def maxPort : Nat := 65535

def port (env : Environment) : Except ConfigError Nat :=
  (Text.readNat maxPort ((env.var? "PORT").getD "3000")).mapError .port

/-- A truth value in words or as a digit. -/
def readFlag? (value : String) : Option Bool :=
  let word := Text.lower (Text.trim value)
  if ["true", "1", "yes", "on"].contains word then some true
  else if ["false", "0", "no", "off"].contains word then some false
  else none

/-- Whether a provider refunds; it does unless told otherwise. -/
def refunds (env : Environment) (name : String) : Except ConfigError Bool :=
  match env.var? name with
  | none => .ok true
  | some value =>
    match readFlag? value with
    | some flag => .ok flag
    | none => .error (.refunds name (Text.lower (Text.trim value)))

/-- The settings of a provider, if it has an address. -/
def provider (env : Environment) (p : Provider) : Except ConfigError (Option ProviderConfig) :=
  let stem := "PROVIDER_" ++ p.code
  match env.var? (stem ++ "_URL") with
  | none => .ok none
  | some url => do
    let refunds ← env.refunds (stem ++ "_REFUNDS")
    return some ⟨p, url, env.var? (stem ++ "_API_KEY"), refunds⟩

/-- The settings of all providers that have an address. -/
def providers (env : Environment) : Except ConfigError (List ProviderConfig) :=
  (Provider.all.mapM env.provider).map fun found => found.filterMap id

/-- The settings of deliveries, if they have a target. -/
def webhook (env : Environment) : Except ConfigError (Option WebhookConfig) :=
  match env.var? "WEBHOOK_URL", env.var? "WEBHOOK_SECRET" with
  | some url, some secret => do
    let timeout ← env.seconds "WEBHOOK_TIMEOUT_SECS" 5
    return some ⟨url, secret, timeout⟩
  | some _, none => .error .missingSecret
  | none, _ => .ok none

end Environment

def Config.load (env : Environment) : Except ConfigError Config := do
  let port ← env.port
  let providerTimeout ← env.seconds "PROVIDER_TIMEOUT_SECS" 30
  let publishTimeout ← env.seconds "EVENT_PUBLISH_TIMEOUT_SECS" 10
  let providers ← env.providers
  let webhook ← env.webhook
  return {
    port := port
    providerTimeoutSeconds := providerTimeout
    publishTimeoutSeconds := publishTimeout
    providers := providers
    webhook := webhook
    telemetryEndpoint := env.var? "OTEL_EXPORTER_OTLP_ENDPOINT" }

/-- A number of seconds as it is shown. -/
def secondsText (seconds : Nat) : String :=
  if seconds = 0 then "0ns" else Text.natText seconds ++ "s"

/-- What is shown of the settings of deliveries, whose secret is not. -/
def WebhookConfig.shown (w : WebhookConfig) : String :=
  "WebhookConfig \x7b url: " ++ Text.quoted w.url ++ ", timeout: " ++
    secondsText w.timeoutSeconds ++ ", .. \x7d"

end Paydesk
