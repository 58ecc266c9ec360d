import Paydesk.Gateway.Registry
import Mathlib.Data.List.Induction

/-!
# What registrations in a row leave

A registration is for one key: all tenants or one of them, and the provider of its client. Under a
key the client of the last registration for it is found (`find?_after`), and registrations for other
keys make no difference to it, wherever they stand (`find?_after_swap`). What a tenant gets for a
provider is told by two keys (`resolve_eq_ok`, `resolve_eq_error`).
-/

namespace Paydesk.Registry

variable {γ : Type}

/-- A registration: of a default client, or of a client for one tenant. -/
inductive Call (γ : Type) where
  | register (c : Client γ)
  | registerFor (tenant : String) (c : Client γ)

/-- A provider, for one tenant or for all. -/
abbrev Key : Type := Option String × Provider

namespace Call

def client : Call γ → Client γ
  | .register c => c
  | .registerFor _ c => c

/-- What the client is registered for. -/
def key : Call γ → Key
  | .register c => (none, c.provider)
  | .registerFor tenant c => (some tenant, c.provider)

def apply (r : Registry γ) : Call γ → Registry γ
  | .register c => r.register c
  | .registerFor tenant c => r.registerFor tenant c

@[simp] theorem key_provider (call : Call γ) : call.key.2 = call.client.provider := by
  cases call <;> rfl

end Call

def after (calls : List (Call γ)) : Registry γ :=
  calls.foldl Call.apply empty

/-- This client was registered last for the key. -/
def LastFor (calls : List (Call γ)) (key : Key) (c : Client γ) : Prop :=
  ∃ (place : Nat) (call : Call γ), calls[place]? = some call ∧ call.key = key ∧ call.client = c ∧
    ∀ (later : Nat) (other : Call γ), place < later → calls[later]? = some other → other.key ≠ key

/-- The client that is found under a key. -/
def find? (r : Registry γ) : Key → Option (Client γ)
  | (none, p) => r.default? p
  | (some tenant, p) => r.own? tenant p

variable {calls : List (Call γ)} {call : Call γ} {key : Key} {c : Client γ}

theorem after_concat (calls : List (Call γ)) (call : Call γ) :
    after (calls ++ [call]) = call.apply (after calls) :=
  List.foldl_append

theorem after_append (first last : List (Call γ)) :
    after (first ++ last) = last.foldl Call.apply (after first) :=
  List.foldl_append

/-! ## Under one key -/

@[simp] theorem find?_empty (key : Key) : (empty : Registry γ).find? key = none := by
  obtain ⟨tenant | tenant, p⟩ := key <;> rfl

/-- A registration changes what is found under its key, and nothing else. -/
theorem find?_apply (r : Registry γ) (call : Call γ) (key : Key) :
    (call.apply r).find? key = if call.key = key then some call.client else r.find? key := by
  obtain ⟨tenant | tenant, p⟩ := key
  · cases call with
    | register c =>
      by_cases h : c.provider = p <;>
        simp [Call.apply, Call.key, Call.client, find?, register, default?, h]
    | registerFor other c =>
      simp [Call.apply, Call.key, find?, registerFor, default?]
  · cases call with
    | register c =>
      simp [Call.apply, Call.key, find?, register, own?]
    | registerFor other c =>
      by_cases hother : other = tenant <;> by_cases h : c.provider = p <;>
        simp [Call.apply, Call.key, Call.client, find?, registerFor, own?, hother, h]

/-- The last registration for a key is the last of all, or it was the last before and the last of all
is for another key. -/
theorem lastFor_concat : LastFor (calls ++ [call]) key c ↔
    if call.key = key then call.client = c else LastFor calls key c := by
  have hlength : (calls ++ [call]).length = calls.length + 1 := List.length_append
  have hbefore : ∀ {place : Nat}, place < calls.length →
      (calls ++ [call])[place]? = calls[place]? := List.getElem?_append_left
  constructor
  · rintro ⟨place, made, hmade, hkey, hclient, hlater⟩
    have hplace := (List.getElem?_eq_some_iff.1 hmade).1
    rw [hlength] at hplace
    rcases Nat.lt_succ_iff_lt_or_eq.1 hplace with hlt | rfl
    · rw [if_neg (hlater calls.length call hlt List.getElem?_concat_length)]
      rw [hbefore hlt] at hmade
      refine ⟨place, made, hmade, hkey, hclient, fun later other hgt hother => ?_⟩
      have hwithin := (List.getElem?_eq_some_iff.1 hother).1
      exact hlater later other hgt ((hbefore hwithin).trans hother)
    · obtain rfl := Option.some.inj (List.getElem?_concat_length.symm.trans hmade)
      rwa [if_pos hkey]
  · intro h
    split at h
    · next hkey =>
      refine ⟨calls.length, call, List.getElem?_concat_length, hkey, h, fun later other hgt hother => ?_⟩
      have hwithin := (List.getElem?_eq_some_iff.1 hother).1
      omega
    · next hkey =>
      obtain ⟨place, made, hmade, hmadeKey, hclient, hlater⟩ := h
      have hplace := (List.getElem?_eq_some_iff.1 hmade).1
      refine ⟨place, made, (hbefore hplace).trans hmade, hmadeKey, hclient,
        fun later other hgt hother => ?_⟩
      have hwithin := (List.getElem?_eq_some_iff.1 hother).1
      rw [hlength] at hwithin
      rcases Nat.lt_succ_iff_lt_or_eq.1 hwithin with hlt | rfl
      · exact hlater later other hgt ((hbefore hlt).symm.trans hother)
      · obtain rfl := Option.some.inj (List.getElem?_concat_length.symm.trans hother)
        exact hkey

/-- **What is found under a key is what was registered last for it.** -/
theorem find?_after : (after calls).find? key = some c ↔ LastFor calls key c := by
  induction calls using List.reverseRecOn with
  | nil =>
    rw [after, List.foldl_nil, find?_empty]
    refine ⟨nofun, ?_⟩
    rintro ⟨place, call, hcall, -⟩
    cases hcall
  | append_singleton calls call ih =>
    rw [after_concat, find?_apply, lastFor_concat]
    split
    · exact Option.some_inj
    · exact ih

theorem exists_lastFor : (∃ c, LastFor calls key c) ↔ ∃ call ∈ calls, call.key = key := by
  induction calls using List.reverseRecOn with
  | nil =>
    constructor
    · rintro ⟨c, place, call, hcall, -⟩
      cases hcall
    · rintro ⟨call, hmem, -⟩
      cases hmem
  | append_singleton calls call ih =>
    simp only [lastFor_concat, List.mem_append, List.mem_singleton]
    by_cases hkey : call.key = key
    · simp only [if_pos hkey]
      exact ⟨fun _ => ⟨call, .inr rfl, hkey⟩, fun _ => ⟨call.client, rfl⟩⟩
    · simp only [if_neg hkey, ih]
      constructor
      · exact fun ⟨made, hmem, hmade⟩ => ⟨made, .inl hmem, hmade⟩
      · rintro ⟨made, hmem | rfl, hmade⟩
        · exact ⟨made, hmem, hmade⟩
        · exact absurd hmade hkey

theorem find?_after_eq_none :
    (after calls).find? key = none ↔ ∀ call ∈ calls, call.key ≠ key := by
  rw [Option.eq_none_iff_forall_ne_some]
  simp only [ne_eq, find?_after]
  rw [← not_exists, exists_lastFor]
  simp only [not_exists, not_and]

theorem LastFor.provider (h : LastFor calls key c) : c.provider = key.2 := by
  obtain ⟨place, call, -, rfl, rfl, -⟩ := h
  exact call.key_provider.symm

/-- What is found after more registrations depends on what was found before only. -/
theorem find?_foldl {r s : Registry γ} (h : ∀ key, r.find? key = s.find? key)
    (calls : List (Call γ)) (key : Key) :
    (calls.foldl Call.apply r).find? key = (calls.foldl Call.apply s).find? key := by
  induction calls generalizing r s with
  | nil => exact h key
  | cons call rest ih => exact ih fun key => by rw [find?_apply, find?_apply, h]

theorem find?_after_swap {a b : Call γ} (h : a.key ≠ b.key) (first last : List (Call γ)) (key : Key) :
    (after (first ++ a :: b :: last)).find? key = (after (first ++ b :: a :: last)).find? key := by
  rw [after_append, after_append]
  refine find?_foldl (fun key => ?_) last key
  simp only [find?_apply]
  by_cases ha : a.key = key
  · rw [if_pos ha, if_neg fun hb => h (ha.trans hb.symm), if_pos ha]
  · rw [if_neg ha, if_neg ha]

/-! ## For one tenant -/

variable {r s : Registry γ} {tenant : String} {p : Provider}

/-- The client to use is the tenant's own one, or the default one if the tenant has none. -/
theorem resolve_eq_ok : r.resolve tenant p = .ok c ↔
    r.find? (some tenant, p) = some c ∨
      r.find? (some tenant, p) = none ∧ r.find? (none, p) = some c := by
  show _ ↔ r.own? tenant p = some c ∨ r.own? tenant p = none ∧ r.default? p = some c
  unfold resolve
  cases r.own? tenant p <;> cases r.default? p <;> simp

theorem resolve_eq_error {e : GatewayError} : r.resolve tenant p = .error e ↔
    e = .notConfigured tenant p ∧ r.find? (some tenant, p) = none ∧ r.find? (none, p) = none := by
  show _ ↔ e = .notConfigured tenant p ∧ r.own? tenant p = none ∧ r.default? p = none
  unfold resolve
  cases r.own? tenant p <;> cases r.default? p <;> simp [eq_comm]

theorem resolve_congr (h : ∀ key, r.find? key = s.find? key) :
    r.resolve tenant p = s.resolve tenant p := by
  have hown : r.own? tenant p = s.own? tenant p := h (some tenant, p)
  have hdefault : r.default? p = s.default? p := h (none, p)
  rw [resolve, resolve, hown, hdefault]

theorem configured_congr (h : ∀ key, r.find? key = s.find? key) : r.configured = s.configured := by
  have hdefault : ∀ p, r.default? p = s.default? p := fun p => h (none, p)
  simp only [configured, hdefault]

theorem mem_configured : p ∈ r.configured ↔ ∃ c, r.find? (none, p) = some c := by
  have hall : p ∈ Provider.all := by cases p <;> decide
  simp only [configured, List.mem_filter, hall, true_and, Option.isSome_iff_exists]
  rfl

end Paydesk.Registry
