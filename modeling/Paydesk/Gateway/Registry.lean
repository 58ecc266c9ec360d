import Paydesk.Error

/-!
# Registered providers

The clients for payment providers that the service may use. A client that is registered for a tenant
goes before the default client of its provider; a later registration takes the place of an earlier
one.
-/

namespace Paydesk

/-- A client for a provider, with the gateway for refunds if it has one. -/
structure Client (γ : Type) where
  provider : Provider
  gateway : Option γ

/-- The registered clients, the latest first. -/
structure Registry (γ : Type) where
  defaults : List (Client γ)
  tenants : List (String × Client γ)

namespace Registry

variable {γ : Type}

def empty : Registry γ := ⟨[], []⟩

/-- Makes a client the default one of its provider. -/
def register (r : Registry γ) (c : Client γ) : Registry γ :=
  { r with defaults := c :: r.defaults }

/-- Makes a client the one that a tenant uses for its provider. -/
def registerFor (r : Registry γ) (tenant : String) (c : Client γ) : Registry γ :=
  { r with tenants := (tenant, c) :: r.tenants }

def default? (r : Registry γ) (p : Provider) : Option (Client γ) :=
  r.defaults.find? fun c => c.provider = p

/-- The client that a tenant has of its own for a provider. -/
def own? (r : Registry γ) (tenant : String) (p : Provider) : Option (Client γ) :=
  (r.tenants.find? fun entry => entry.1 = tenant ∧ entry.2.provider = p).map Prod.snd

/-- The client to use for a tenant. -/
def resolve (r : Registry γ) (tenant : String) (p : Provider) : Except GatewayError (Client γ) :=
  match r.own? tenant p with
  | some c => .ok c
  | none =>
    match r.default? p with
    | some c => .ok c
    | none => .error (.notConfigured tenant p)

/-- The providers with a default client, in the order in which providers are listed. -/
def configured (r : Registry γ) : List Provider :=
  Provider.all.filter fun p => (r.default? p).isSome

end Registry

end Paydesk
