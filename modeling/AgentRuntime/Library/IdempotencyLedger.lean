import Mathlib.Data.List.Basic
import Mathlib.Logic.Function.Basic

/-!
# Ledgers of idempotency keys

A service that honours idempotency keys remembers, for each key, the fingerprint of the request that
it granted and the receipt it gave. `ServesKey` is one request: a new key is granted and
remembered, a known key with the same fingerprint gets its receipt again, one with another
fingerprint is a conflict, and a request may be refused for reasons of its own. `KeyHistory ledger
history` says that a sequence of requests led to a ledger. From the two lemmas about one request,
`ServesKey.grows` and `ServesKey.origin`, follows what a client may rely on for ever: the ledger
holds exactly what was granted, and a key that met a conflict stands for another fingerprint.
-/

set_option autoImplicit false
set_option relaxedAutoImplicit false

namespace AgentRuntime.Library

/-- What a service remembers of each key: the fingerprint and the receipt. -/
abbrev IdempotencyLedger (κ φ ρ : Type) : Type := κ → Option (φ × ρ)

/-- What a request gets. -/
inductive KeyReply (ρ : Type) where
  | granted (receipt : ρ)
  | conflict
  | refused

/-- A request with its reply. -/
structure ServedRequest (κ φ ρ : Type) where
  key : κ
  fingerprint : φ
  reply : KeyReply ρ

section Ledger

variable {κ φ ρ : Type} [DecidableEq κ]

/-- One request. -/
inductive ServesKey (before : IdempotencyLedger κ φ ρ) :
    ServedRequest κ φ ρ → IdempotencyLedger κ φ ρ → Prop where
  | grant (key : κ) (fingerprint : φ) (receipt : ρ) (hnew : before key = none) :
    ServesKey before ⟨key, fingerprint, .granted receipt⟩
      (Function.update before key (some (fingerprint, receipt)))
  | replay (key : κ) (fingerprint : φ) (receipt : ρ)
    (hknown : before key = some (fingerprint, receipt)) :
    ServesKey before ⟨key, fingerprint, .granted receipt⟩ before
  | conflict (key : κ) (fingerprint other : φ) (receipt : ρ)
    (hknown : before key = some (other, receipt)) (hother : other ≠ fingerprint) :
    ServesKey before ⟨key, fingerprint, .conflict⟩ before
  | refuse (key : κ) (fingerprint : φ) : ServesKey before ⟨key, fingerprint, .refused⟩ before

variable {before after : IdempotencyLedger κ φ ρ} {served : ServedRequest κ φ ρ}

/-- Nothing that a ledger remembers is lost or changed. -/
theorem ServesKey.grows (hserves : ServesKey before served after) {key : κ} {entry : φ × ρ}
    (hentry : before key = some entry) : after key = some entry := by
  cases hserves with
  | grant other fingerprint receipt hnew =>
    have hne : key ≠ other := by
      rintro rfl
      rw [hnew] at hentry
      cases hentry
    rw [Function.update_of_ne hne, hentry]
  | replay | conflict | refuse => exact hentry

/-- A granted request is what the ledger remembers afterwards. -/
theorem ServesKey.granted (hserves : ServesKey before served after) {receipt : ρ}
    (hreply : served.reply = .granted receipt) :
    after served.key = some (served.fingerprint, receipt) := by
  cases hserves with
  | grant key fingerprint given hnew =>
    obtain rfl : given = receipt := KeyReply.granted.inj hreply
    exact Function.update_self ..
  | replay key fingerprint given hknown =>
    obtain rfl : given = receipt := KeyReply.granted.inj hreply
    exact hknown
  | conflict | refuse => cases hreply

/-- What a ledger remembers was there before, or was granted just now. -/
theorem ServesKey.origin (hserves : ServesKey before served after) {key : κ} {fingerprint : φ}
    {receipt : ρ} (hentry : after key = some (fingerprint, receipt)) :
    before key = some (fingerprint, receipt) ∨ served = ⟨key, fingerprint, .granted receipt⟩ := by
  cases hserves with
  | grant other shown given hnew =>
    by_cases hkey : key = other
    · subst hkey
      rw [Function.update_self] at hentry
      obtain ⟨rfl, rfl⟩ := Prod.mk.inj (Option.some.inj hentry)
      exact .inr rfl
    · rw [Function.update_of_ne hkey] at hentry
      exact .inl hentry
  | replay | conflict | refuse => exact .inl hentry

/-- A sequence of requests that led from nothing to this ledger. -/
inductive KeyHistory : IdempotencyLedger κ φ ρ → List (ServedRequest κ φ ρ) → Prop where
  | start : KeyHistory (fun _ ↦ none) []
  | serve {ledger next : IdempotencyLedger κ φ ρ} {history : List (ServedRequest κ φ ρ)}
    {served : ServedRequest κ φ ρ} (hhistory : KeyHistory ledger history)
    (hserves : ServesKey ledger served next) : KeyHistory next (history ++ [served])

/-- The ledger remembers exactly what was granted. -/
theorem KeyHistory.iff_granted {ledger : IdempotencyLedger κ φ ρ}
    {history : List (ServedRequest κ φ ρ)} (hhistory : KeyHistory ledger history) (key : κ)
    (fingerprint : φ) (receipt : ρ) :
    ledger key = some (fingerprint, receipt) ↔
      ⟨key, fingerprint, .granted receipt⟩ ∈ history := by
  induction hhistory with
  | start => simp
  | serve hhistory hserves ih =>
    constructor
    · intro hentry
      rcases hserves.origin hentry with hbefore | hserved
      · exact List.mem_append_left _ (ih.mp hbefore)
      · exact List.mem_append_right _ (hserved ▸ List.mem_singleton_self _)
    · intro hmem
      rcases List.mem_append.mp hmem with hbefore | hlast
      · exact hserves.grows (ih.mpr hbefore)
      · obtain rfl := List.mem_singleton.mp hlast
        exact hserves.granted rfl

/-- A key that met a conflict stands for another fingerprint. -/
theorem KeyHistory.of_conflict {ledger : IdempotencyLedger κ φ ρ}
    {history : List (ServedRequest κ φ ρ)} (hhistory : KeyHistory ledger history) {key : κ}
    {fingerprint : φ} (hmem : ⟨key, fingerprint, .conflict⟩ ∈ history) :
    ∃ other receipt, ledger key = some (other, receipt) ∧ other ≠ fingerprint := by
  induction hhistory with
  | start => cases hmem
  | serve hhistory hserves ih =>
    rcases List.mem_append.mp hmem with hbefore | hlast
    · obtain ⟨other, receipt, hentry, hother⟩ := ih hbefore
      exact ⟨other, receipt, hserves.grows hentry, hother⟩
    · obtain rfl := List.mem_singleton.mp hlast
      cases hserves with
      | conflict _ _ other receipt hknown hother => exact ⟨other, receipt, hknown, hother⟩

end Ledger

end AgentRuntime.Library
