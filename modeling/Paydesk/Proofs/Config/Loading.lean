import Paydesk.Config
import Paydesk.Proofs.Text.Integer

/-!
# What settings are accepted

Settings are accepted exactly if those of all features that are on are well formed, the first one
that is not is named, and the variables of features that are off play no part: `load_accepts`.

1. A `Setting` is a variable that can be at fault, and `Setting.all` is the order in which they are
   looked at; what is required of each is `Setting.WellFormed`.
2. Each part of the reader looks at its settings in their order (`Checks`), and parts that follow one
   another look at theirs one after the other (`Checks.bind`).
3. Each part looks only at the variables that are in use (`Environment.Uses`).
-/

namespace Paydesk

variable {α β : Type}

/-! ## Variables and what is required of them -/

/-- A variable of a provider. -/
def Provider.variable (p : Provider) (suffix : String) : String :=
  "PROVIDER_" ++ p.code ++ suffix

namespace Environment

/-- The words for a truth value. -/
def flagWords : Bool → List String
  | true => ["true", "1", "yes", "on"]
  | false => ["false", "0", "no", "off"]

/-- The value is a word for the truth value, in any case and with blanks around it. -/
def IsFlag (value : String) (flag : Bool) : Prop :=
  Text.lower (Text.trim value) ∈ flagWords flag

/-- The text is a number of at most this size. -/
def IsNumber (max : Nat) (text : String) : Prop :=
  ∃ n ≤ max, Text.DenotesNat text.toList n

/-- The value of the variable, if it has one, is a number of seconds with or without blanks around
it. -/
def HasSeconds (env : Environment) (name : String) : Prop :=
  ∀ value, env.var? name = some value → IsNumber Text.maxWord (Text.trim value)

/-- The provider has an address. -/
def connects (env : Environment) (p : Provider) : Bool :=
  (env.var? (p.variable "_URL")).isSome

/-- Deliveries have a target. -/
def delivers (env : Environment) : Bool :=
  (env.var? "WEBHOOK_URL").isSome

/-- The number that the value of a variable denotes when it has been cleaned, or the default without
a value. -/
def Gives (env : Environment) (name : String) (clean : String → String) (default n : Nat) : Prop :=
  match env.var? name with
  | some value => Text.DenotesNat (clean value).toList n
  | none => n = default

/-- The truth value that the value of a variable means, or the default without a value. -/
def GivesFlag (env : Environment) (name : String) (default flag : Bool) : Prop :=
  match env.var? name with
  | some value => IsFlag value flag
  | none => flag = default

/-- A variable that can change what is read: those of a provider without an address are not, nor
are those of deliveries without a target. -/
inductive Uses (env : Environment) : String → Prop
  | always {name : String} (mem : name ∈ ["PORT", "PROVIDER_TIMEOUT_SECS",
      "EVENT_PUBLISH_TIMEOUT_SECS", "WEBHOOK_URL", "OTEL_EXPORTER_OTLP_ENDPOINT"]) : Uses env name
  | address (p : Provider) : Uses env (p.variable "_URL")
  | key {p : Provider} (on : env.connects p = true) : Uses env (p.variable "_API_KEY")
  | flag {p : Provider} (on : env.connects p = true) : Uses env (p.variable "_REFUNDS")
  | secret (on : env.delivers = true) : Uses env "WEBHOOK_SECRET"
  | timeout (on : env.delivers = true) : Uses env "WEBHOOK_TIMEOUT_SECS"

end Environment

open Environment

/-- A variable whose value can be a fault. -/
inductive Setting where
  | port
  | providerTimeout
  | publishTimeout
  | refunds (p : Provider)
  | webhookSecret
  | webhookTimeout

namespace Setting

/-- The order in which they are looked at. -/
def all : List Setting :=
  [.port, .providerTimeout, .publishTimeout] ++ Provider.all.map refunds ++
    [.webhookSecret, .webhookTimeout]

def name : Setting → String
  | .port => "PORT"
  | .providerTimeout => "PROVIDER_TIMEOUT_SECS"
  | .publishTimeout => "EVENT_PUBLISH_TIMEOUT_SECS"
  | .refunds p => p.variable "_REFUNDS"
  | .webhookSecret => "WEBHOOK_SECRET"
  | .webhookTimeout => "WEBHOOK_TIMEOUT_SECS"

/-- What is required of the variable. -/
def WellFormed (env : Environment) : Setting → Prop
  | .port => ∀ value, env.var? "PORT" = some value → IsNumber maxPort value
  | .providerTimeout => env.HasSeconds "PROVIDER_TIMEOUT_SECS"
  | .publishTimeout => env.HasSeconds "EVENT_PUBLISH_TIMEOUT_SECS"
  | .refunds p => env.connects p = true →
      ∀ value, env.var? (p.variable "_REFUNDS") = some value → ∃ flag, IsFlag value flag
  | .webhookSecret => env.delivers = true → ∃ value, env.var? "WEBHOOK_SECRET" = some value
  | .webhookTimeout => env.delivers = true → env.HasSeconds "WEBHOOK_TIMEOUT_SECS"

end Setting

/-- The words of the error begin with the name of the variable. -/
def ConfigError.Names (e : ConfigError) (s : Setting) : Prop :=
  ∃ rest, e.message = s.name ++ " " ++ rest

/-- The settings of a provider are what its variables say. -/
structure ProviderConfig.Tells (c : ProviderConfig) (env : Environment) : Prop where
  address : env.var? (c.provider.variable "_URL") = some c.baseUrl
  key : c.apiKey = env.var? (c.provider.variable "_API_KEY")
  refunds : env.GivesFlag (c.provider.variable "_REFUNDS") true c.refunds

/-- The settings of deliveries are what their variables say. -/
structure WebhookConfig.Tells (c : WebhookConfig) (env : Environment) : Prop where
  url : env.var? "WEBHOOK_URL" = some c.url
  secret : env.var? "WEBHOOK_SECRET" = some c.secret
  timeout : env.Gives "WEBHOOK_TIMEOUT_SECS" Text.trim 5 c.timeoutSeconds

/-- What is read of deliveries is what their variables say; without a target there are none. -/
def Environment.TellsWebhook (env : Environment) : Option WebhookConfig → Prop
  | some w => w.Tells env
  | none => env.delivers = false

/-- The providers are those with an address, once each in the order of all providers. -/
structure Environment.Lists (env : Environment) (ps : List Provider)
    (configs : List ProviderConfig) : Prop where
  providers : configs.map ProviderConfig.provider = ps.filter env.connects
  tells : ∀ c ∈ configs, c.Tells env

/-- The settings are what the variables say. -/
structure Config.Tells (c : Config) (env : Environment) : Prop where
  port : env.Gives "PORT" id 3000 c.port
  providerTimeout : env.Gives "PROVIDER_TIMEOUT_SECS" Text.trim 30 c.providerTimeoutSeconds
  publishTimeout : env.Gives "EVENT_PUBLISH_TIMEOUT_SECS" Text.trim 10 c.publishTimeoutSeconds
  providers : env.Lists Provider.all c.providers
  webhook : env.TellsWebhook c.webhook
  telemetry : c.telemetryEndpoint = env.var? "OTEL_EXPORTER_OTLP_ENDPOINT"

/-! ## Looking at settings in order -/

/-- The setting is the first of them that is not well formed. -/
def Setting.IsFirstFault (env : Environment) (settings : List Setting) (s : Setting) : Prop :=
  ∃ before after, settings = before ++ s :: after ∧ (∀ t ∈ before, t.WellFormed env) ∧
    ¬ s.WellFormed env

/-- The settings are looked at in this order: if all are well formed the result is as it has to be,
and otherwise the first that is not is named. -/
def Checks (env : Environment) (settings : List Setting) (ok : α → Prop) :
    Except ConfigError α → Prop
  | .ok a => (∀ s ∈ settings, s.WellFormed env) ∧ ok a
  | .error e => ∃ s, s.IsFirstFault env settings ∧ e.Names s

variable {env : Environment} {settings : List Setting} {ok : α → Prop}

theorem Checks.bind {later : List Setting} {ok' : β → Prop} {x : Except ConfigError α}
    {f : α → Except ConfigError β} (hx : Checks env settings ok x)
    (hf : ∀ a, ok a → Checks env later ok' (f a)) :
    Checks env (settings ++ later) ok' (x >>= f) := by
  cases x with
  | error e =>
    obtain ⟨s, ⟨before, after, rfl, hbefore, hfault⟩, hnames⟩ := hx
    exact ⟨s, ⟨before, after ++ later, by simp, hbefore, hfault⟩, hnames⟩
  | ok a =>
    obtain ⟨hall, ha⟩ := hx
    have hlater := hf a ha
    show Checks env (settings ++ later) ok' (f a)
    generalize f a = y at hlater
    cases y with
    | error e =>
      obtain ⟨s, ⟨before, after, rfl, hbefore, hfault⟩, hnames⟩ := hlater
      refine ⟨s, ⟨settings ++ before, after, by simp, fun t ht => ?_, hfault⟩, hnames⟩
      exact (List.mem_append.1 ht).elim (hall t) (hbefore t)
    | ok b => exact ⟨fun s hs => (List.mem_append.1 hs).elim (hall s) (hlater.1 s), hlater.2⟩

theorem Checks.pure {a : α} (h : ok a) : Checks env [] ok (.ok a) :=
  ⟨List.forall_mem_nil _, h⟩

theorem Checks.map {ok' : β → Prop} {x : Except ConfigError α} {f : α → β}
    (hx : Checks env settings ok x) (hf : ∀ a, ok a → ok' (f a)) :
    Checks env settings ok' (x.map f) := by
  have h := hx.bind (f := fun a => Except.ok (f a)) fun a ha => Checks.pure (hf a ha)
  rw [List.append_nil] at h
  exact h

theorem Checks.ok_single {s : Setting} {a : α} (hwell : s.WellFormed env) (ha : ok a) :
    Checks env [s] ok (.ok a) :=
  ⟨List.forall_mem_singleton.2 hwell, ha⟩

theorem Checks.error_cons {s : Setting} {later : List Setting} {e : ConfigError}
    (hfault : ¬ s.WellFormed env) (hnames : e.Names s) : Checks env (s :: later) ok (.error e) :=
  ⟨s, ⟨[], later, rfl, List.forall_mem_nil _, hfault⟩, hnames⟩

/-! ## The parts of the reader -/

theorem checks_readNat {s : Setting} {max : Nat} {text : String} {ok : Nat → Prop}
    {ofFault : Text.NumeralFault → ConfigError} (hwell : s.WellFormed env ↔ IsNumber max text)
    (hok : ∀ n, Text.DenotesNat text.toList n → ok n) (hnames : ∀ fault, (ofFault fault).Names s) :
    Checks env [s] ok ((Text.readNat max text).mapError ofFault) := by
  cases hread : Text.readNat max text with
  | ok n =>
    obtain ⟨hdenotes, hle⟩ := Text.readNat_eq_ok.1 hread
    exact .ok_single (hwell.2 ⟨n, hle, hdenotes⟩) (hok n hdenotes)
  | error fault =>
    refine .error_cons (fun h => ?_) (hnames fault)
    obtain ⟨n, hle, hdenotes⟩ := hwell.1 h
    rw [Text.readNat_eq_ok.2 ⟨hdenotes, hle⟩] at hread
    cases hread

theorem checks_port : Checks env [.port] (env.Gives "PORT" id 3000) env.port := by
  unfold Environment.port
  cases hvalue : env.var? "PORT" with
  | none =>
    have hgives : env.Gives "PORT" id 3000 3000 := by simp [Gives, hvalue]
    exact .ok_single (fun value h => by simp [hvalue] at h) hgives
  | some value =>
    refine checks_readNat ?_ (fun n h => ?_) fun fault => ⟨"must be a port number", rfl⟩
    · simp [Setting.WellFormed, hvalue]
    · simpa [Gives, hvalue] using h

theorem checks_seconds {s : Setting} (default : Nat)
    (hwell : s.WellFormed env ↔ env.HasSeconds s.name) :
    Checks env [s] (env.Gives s.name Text.trim default) (env.seconds s.name default) := by
  unfold Environment.seconds
  cases hvalue : env.var? s.name with
  | none =>
    have hgives : env.Gives s.name Text.trim default default := by simp [Gives, hvalue]
    exact .ok_single (hwell.2 fun value h => by simp [hvalue] at h) hgives
  | some value =>
    refine checks_readNat ?_ (fun n h => ?_) fun fault => ⟨"must be a whole number of seconds", ?_⟩
    · simp [hwell, HasSeconds, hvalue]
    · simpa [Gives, hvalue] using h
    · rw [String.append_assoc]
      rfl

theorem readFlag?_eq_some {value : String} {flag : Bool} :
    readFlag? value = some flag ↔ IsFlag value flag := by
  unfold readFlag? IsFlag
  generalize Text.lower (Text.trim value) = word
  dsimp only
  -- no word means both
  have hone : ∀ word ∈ flagWords false, word ∉ flagWords true := by decide
  split
  · next htrue =>
    have hmem : word ∈ flagWords true := List.contains_iff_mem.1 htrue
    cases flag with
    | true => exact ⟨fun _ => hmem, fun _ => rfl⟩
    | false => exact ⟨nofun, fun h => absurd hmem (hone word h)⟩
  · next htrue =>
    have hnot : word ∉ flagWords true := fun h => htrue (List.contains_iff_mem.2 h)
    split
    · next hfalse =>
      have hmem : word ∈ flagWords false := List.contains_iff_mem.1 hfalse
      cases flag with
      | true => exact ⟨nofun, fun h => absurd h hnot⟩
      | false => exact ⟨fun _ => hmem, fun _ => rfl⟩
    · next hfalse =>
      refine ⟨nofun, fun h => ?_⟩
      cases flag with
      | true => exact absurd h hnot
      | false => exact absurd (List.contains_iff_mem.2 h) hfalse

theorem checks_refunds {p : Provider} (hon : env.connects p = true) :
    Checks env [.refunds p] (env.GivesFlag (p.variable "_REFUNDS") true)
      (env.refunds (p.variable "_REFUNDS")) := by
  unfold Environment.refunds
  cases hvalue : env.var? (p.variable "_REFUNDS") with
  | none =>
    have hgives : env.GivesFlag (p.variable "_REFUNDS") true true := by simp [GivesFlag, hvalue]
    exact .ok_single (fun _ value h => by simp [hvalue] at h) hgives
  | some value =>
    have hwell : (Setting.refunds p).WellFormed env ↔ ∃ flag, IsFlag value flag := by
      simp [Setting.WellFormed, hon, hvalue]
    dsimp only
    cases hflag : readFlag? value with
    | some flag =>
      have hword := readFlag?_eq_some.1 hflag
      have hgives : env.GivesFlag (p.variable "_REFUNDS") true flag := by
        simpa [GivesFlag, hvalue] using hword
      exact .ok_single (hwell.2 ⟨flag, hword⟩) hgives
    | none =>
      refine .error_cons (fun h => ?_) ⟨"must be true or false", ?_⟩
      · obtain ⟨flag, hword⟩ := hwell.1 h
        rw [readFlag?_eq_some.2 hword] at hflag
        cases hflag
      · show _ ++ " must be true or false" = _ ++ " " ++ "must be true or false"
        rw [String.append_assoc]
        rfl

theorem Environment.Lists.nil : env.Lists [] [] :=
  ⟨rfl, List.forall_mem_nil _⟩

theorem Environment.Lists.cons {p : Provider} {ps : List Provider}
    {front configs : List ProviderConfig} (hfront : env.Lists [p] front)
    (h : env.Lists ps configs) : env.Lists (p :: ps) (front ++ configs) := by
  refine ⟨?_, fun c hc => (List.mem_append.1 hc).elim (hfront.tells c) (h.tells c)⟩
  rw [List.map_append, hfront.providers, h.providers, ← List.filter_append]
  rfl

theorem checks_provider (p : Provider) :
    Checks env [.refunds p] (fun found => env.Lists [p] found.toList) (env.provider p) := by
  have hname : ∀ suffix, "PROVIDER_" ++ p.code ++ suffix = p.variable suffix := fun _ => rfl
  unfold Environment.provider
  dsimp only
  rw [hname]
  cases hurl : env.var? (p.variable "_URL") with
  | none =>
    have hoff : env.connects p = false := by rw [connects, hurl]; rfl
    exact .ok_single (fun hon => by simp [hoff] at hon) ⟨by simp [hoff], List.forall_mem_nil _⟩
  | some url =>
    have hon : env.connects p = true := by rw [connects, hurl]; rfl
    refine (checks_refunds hon).map fun flag hflag => ⟨by simp [hon], ?_⟩
    exact List.forall_mem_singleton.2 ⟨hurl, rfl, hflag⟩

theorem checks_mapM (ps : List Provider) :
    Checks env (ps.map .refunds) (fun found => env.Lists ps (found.filterMap id))
      (ps.mapM env.provider) := by
  induction ps with
  | nil => exact Checks.pure .nil
  | cons p ps ih =>
    rw [List.mapM_cons]
    refine (checks_provider p).bind fun found hfound => ih.map fun rest hrest => ?_
    have hjoin : (found :: rest).filterMap id = found.toList ++ rest.filterMap id := by
      cases found <;> rfl
    rw [hjoin]
    exact hfound.cons hrest

theorem checks_providers :
    Checks env (Provider.all.map .refunds) (env.Lists Provider.all) env.providers :=
  (checks_mapM Provider.all).map fun _ h => h

theorem checks_webhook :
    Checks env [.webhookSecret, .webhookTimeout] env.TellsWebhook env.webhook := by
  unfold Environment.webhook
  cases hurl : env.var? "WEBHOOK_URL" with
  | none =>
    have hoff : env.delivers = false := by rw [delivers, hurl]; rfl
    refine ⟨List.forall_mem_cons.2 ⟨?_, List.forall_mem_singleton.2 ?_⟩, hoff⟩
    · exact fun hon => by simp [hoff] at hon
    · exact fun hon => by simp [hoff] at hon
  | some url =>
    have hon : env.delivers = true := by rw [delivers, hurl]; rfl
    cases hsecret : env.var? "WEBHOOK_SECRET" with
    | none =>
      refine .error_cons (fun h => ?_)
        ⟨"environment variable is required when WEBHOOK_URL is set", rfl⟩
      obtain ⟨value, hvalue⟩ := h hon
      rw [hsecret] at hvalue
      cases hvalue
    | some secret =>
      have hgiven : Checks env [.webhookSecret] (fun _ : Unit => True) (.ok ()) :=
        .ok_single (fun _ => ⟨secret, hsecret⟩) trivial
      have htimeout : Setting.webhookTimeout.WellFormed env ↔
          env.HasSeconds Setting.webhookTimeout.name := by
        simp [Setting.WellFormed, hon, Setting.name]
      have hrest : Checks env [.webhookTimeout] env.TellsWebhook
          ((env.seconds "WEBHOOK_TIMEOUT_SECS" 5).map fun timeout =>
            some ⟨url, secret, timeout⟩) :=
        (checks_seconds 5 htimeout).map fun n hn => ⟨hurl, hsecret, hn⟩
      exact hgiven.bind fun _ _ => hrest

theorem checks_load (env : Environment) :
    Checks env Setting.all (fun c => c.Tells env) (Config.load env) := by
  refine checks_port.bind fun port hport => ?_
  refine (checks_seconds (s := .providerTimeout) 30 Iff.rfl).bind fun timeout htimeout => ?_
  refine (checks_seconds (s := .publishTimeout) 10 Iff.rfl).bind fun publish hpublish => ?_
  refine checks_providers.bind fun providers hproviders => ?_
  exact checks_webhook.map fun webhook hwebhook =>
    ⟨hport, htimeout, hpublish, hproviders, hwebhook, rfl⟩

/-! ## What is not looked at -/

section Congruence

variable {other : Environment}

theorem seconds_congr {name : String} (default : Nat) (h : other.var? name = env.var? name) :
    other.seconds name default = env.seconds name default := by
  unfold Environment.seconds
  rw [h]

theorem provider_congr (h : ∀ name, env.Uses name → other.var? name = env.var? name)
    (p : Provider) : other.provider p = env.provider p := by
  have hname : ∀ suffix, "PROVIDER_" ++ p.code ++ suffix = p.variable suffix := fun _ => rfl
  unfold Environment.provider
  dsimp only
  rw [hname, h _ (.address p)]
  cases hurl : env.var? (p.variable "_URL") with
  | none => rfl
  | some url =>
    have hon : env.connects p = true := by rw [connects, hurl]; rfl
    have hrefunds : other.refunds (p.variable "_REFUNDS") = env.refunds (p.variable "_REFUNDS") := by
      unfold Environment.refunds
      rw [h _ (.flag hon)]
    simp only [hname, hrefunds, h _ (.key hon)]

theorem webhook_congr (h : ∀ name, env.Uses name → other.var? name = env.var? name) :
    other.webhook = env.webhook := by
  unfold Environment.webhook
  rw [h _ (.always (by decide))]
  cases hurl : env.var? "WEBHOOK_URL" with
  | none => rfl
  | some url =>
    have hon : env.delivers = true := by rw [delivers, hurl]; rfl
    rw [h _ (.secret hon), seconds_congr 5 (h _ (.timeout hon))]

/-- Only the variables that are in use play a part. -/
theorem load_congr (h : ∀ name, env.Uses name → other.var? name = env.var? name) :
    Config.load other = Config.load env := by
  have hport : other.port = env.port := by
    unfold Environment.port
    rw [h _ (.always (by decide))]
  have hproviders : other.providers = env.providers := by
    unfold Environment.providers
    rw [funext (provider_congr h)]
  unfold Config.load
  rw [hport, seconds_congr 30 (h _ (.always (by decide))),
    seconds_congr 10 (h _ (.always (by decide))), hproviders, webhook_congr h,
    h "OTEL_EXPORTER_OTLP_ENDPOINT" (.always (by decide))]

end Congruence

/-! ## The main result -/

/-- **What settings are accepted.** For all values of variables: the settings are accepted exactly if
every one of them is well formed; an error names the first one that is not; what is read is what the
variables say, with the providers that have an address, once each and in their order; and nothing
depends on a variable that is not in use, nor on a value that is blank instead of missing. -/
theorem load_accepts (env : Environment) :
    ((∃ c, Config.load env = .ok c) ↔ ∀ s ∈ Setting.all, s.WellFormed env) ∧
    (∀ e, Config.load env = .error e → ∃ s, s.IsFirstFault env Setting.all ∧ e.Names s) ∧
    (∀ c, Config.load env = .ok c → c.Tells env) ∧
    ∀ other : Environment, (∀ name, env.Uses name → other.var? name = env.var? name) →
      Config.load other = Config.load env := by
  have hload := checks_load env
  refine ⟨?_, ?_, ?_, fun _ => load_congr⟩
  · cases hresult : Config.load env with
    | ok c =>
      rw [hresult] at hload
      exact ⟨fun _ => hload.1, fun _ => ⟨c, rfl⟩⟩
    | error e =>
      rw [hresult] at hload
      obtain ⟨s, ⟨before, after, hall, -, hfault⟩, -⟩ := hload
      refine ⟨nofun, fun h => absurd (h s ?_) hfault⟩
      rw [hall]
      exact List.mem_append_right _ List.mem_cons_self
  · intro e hresult
    rw [hresult] at hload
    exact hload
  · intro c hresult
    rw [hresult] at hload
    exact hload.2

/-- One provider has an address. The others, and deliveries, are off, whatever else is said of
them. -/
def Environment.cluttered : Environment
  | "PORT" => some "+8080"
  | "PROVIDER_PAYPAL_URL" => some "http://paypal.test"
  | "PROVIDER_PAYPAL_REFUNDS" => some " Off "
  | "PROVIDER_VISANET_URL" => some "  "
  | "PROVIDER_VISANET_REFUNDS" => some "maybe"
  | "WEBHOOK_TIMEOUT_SECS" => some "soon"
  | _ => none

/-- The variables of what is off are left out. -/
def Environment.tidy : Environment
  | "PORT" => some "+8080"
  | "PROVIDER_PAYPAL_URL" => some "http://paypal.test"
  | "PROVIDER_PAYPAL_REFUNDS" => some " Off "
  | _ => none

/-- The cluttered settings are accepted, with the provider that has an address, and the tidy ones are
read just so. -/
theorem load_accepts_cluttered :
    ∃ c, Config.load .cluttered = .ok c ∧ Config.load .tidy = .ok c ∧ c.Tells .cluttered ∧
      c.providers.map ProviderConfig.provider = [.paypal] := by
  obtain ⟨-, -, htells, hcongr⟩ := load_accepts .cluttered
  have hsame : ∀ name, Uses .cluttered name → var? .tidy name = var? .cluttered name := by
    intro name huses
    cases huses with
    | always hmem =>
      revert name
      decide +kernel
    | address p => cases p <;> decide +kernel
    | @key p hon =>
      revert hon
      cases p <;> decide +kernel
    | @flag p hon =>
      revert hon
      cases p <;> decide +kernel
    | secret hon => cases (show delivers .cluttered = false by decide +kernel).symm.trans hon
    | timeout hon => cases (show delivers .cluttered = false by decide +kernel).symm.trans hon
  have hok : (Config.load .cluttered).isOk = true := by decide +kernel
  cases hload : Config.load .cluttered with
  | error e =>
    rw [hload] at hok
    cases hok
  | ok c =>
    have htold := htells c hload
    refine ⟨c, rfl, (hcongr .tidy hsame).trans hload, htold, ?_⟩
    rw [htold.providers.providers]
    decide +kernel

end Paydesk
