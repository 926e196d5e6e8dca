import AgentRuntime.Library.IdempotencyLedger
import AgentRuntime.Library.Machine
import AgentRuntime.Execution.Coordinator

/-!
# `SQLiteTripHoldProvider`

The provider behind `create_trip_hold` keeps its holds in a database of its own. `execute` is one
transaction: it checks the tool and the arguments, replays the hold of a known idempotency key, and
otherwise inserts a hold whose reference is drawn from the key. `TripHolds` carries the two
uniqueness constraints of the table.

Any number of provider instances and processes share the table, and `BEGIN IMMEDIATE` serializes
their transactions, so a list of requests is any interleaving of theirs. `execute_serves` says that
a transaction is one request of an idempotency ledger, and the results about ledgers say the rest.
-/

set_option autoImplicit false
set_option relaxedAutoImplicit false

namespace AgentRuntime.Providers

open Library Execution

/-! ### The table -/

/-- A row of `synthetic_trip_holds`, next to its key. -/
structure TripHoldRow where
  payloadHash : String
  payloadJson : Json
  providerReference : String
  resultJson : Json
  deriving DecidableEq

/-- `synthetic_trip_holds`: `idempotency_key` is its primary key and `provider_reference` is
unique. -/
structure TripHolds where
  table : Table String TripHoldRow
  unique : (table.rows.map fun entry ↦ entry.2.providerReference).Nodup

namespace TripHolds

/-- The table as `_initialize` creates it. -/
def empty : TripHolds := ⟨.empty, List.nodup_nil⟩

/-- The hold of a key. -/
def find (holds : TripHolds) (key : String) : Option TripHoldRow := holds.table.find key

/-- `count_holds`. -/
def countHolds (holds : TripHolds) : Nat := holds.table.rows.length

/-- `INSERT`, which fails when it would violate a constraint. -/
def insert (holds : TripHolds) (key : String) (row : TripHoldRow) : Option TripHolds :=
  if hfree : holds.table.find key = none ∧
      row.providerReference ∉ holds.table.rows.map fun entry ↦ entry.2.providerReference then
    some
      { table := holds.table.insert key row
        unique := by
          rw [Table.rows_insert_of_fresh _ _ _ hfree.1, List.map_append, List.map_singleton,
            ← List.concat_eq_append]
          exact (List.nodup_concat _ _).mpr ⟨hfree.2, holds.unique⟩ }
  else none

theorem find_insert {holds next : TripHolds} {key : String} {row : TripHoldRow}
    (hinsert : holds.insert key row = some next) (other : String) :
    holds.find key = none ∧
      next.find other = if other = key then some row else holds.find other := by
  unfold insert at hinsert
  split_ifs at hinsert with hfree
  obtain rfl := Option.some.inj hinsert
  exact ⟨hfree.1, Table.find_insert_of_fresh _ _ _ _ hfree.1⟩

/-- Holds of different keys have different references. -/
theorem key_of_reference (holds : TripHolds) {key other : String} {row hold : TripHoldRow}
    (hrow : holds.find key = some row) (hhold : holds.find other = some hold)
    (hreference : row.providerReference = hold.providerReference) : key = other := by
  have hmem : (key, row) ∈ holds.table.rows := (Table.mem_rows_iff ..).mpr hrow
  have hother : (other, hold) ∈ holds.table.rows := (Table.mem_rows_iff ..).mpr hhold
  have heq := List.inj_on_of_nodup_map holds.unique hmem hother hreference
  exact congrArg Prod.fst heq

end TripHolds

/-! ### `execute` -/

/-- The exceptions of `execute`. -/
inductive TripHoldFailure where
  | definitive (message : String)
  | runtimeError (message : String)
  | integrityError (constraint : String)
  deriving DecidableEq

/-- `SQLiteTripHoldProvider`: `inputModel` is `CreateTripHoldInput.model_validate(…).model_dump()`,
`sha256` hashes the canonical JSON text of a value and `sha256Text` a text. -/
structure SQLiteTripHoldProvider where
  inputModel : Payload → Option Payload
  sha256 : Json → String
  sha256Text : String → String

/-- `{**payload, **fields}`. -/
def spread (payload fields : Payload) : Payload :=
  fields.foldl (fun result field ↦ result.set field.1 field.2) payload

/-- The result of a hold. -/
def heldResult (providerReference : String) (arguments : Payload) : Payload :=
  spread [("status", .str "held"), ("provider_reference", .str providerReference)] arguments

namespace SQLiteTripHoldProvider

variable (provider : SQLiteTripHoldProvider)

/-- The reference of a key. -/
def referenceOf (key : String) : String :=
  "hold_" ++ String.ofList ((provider.sha256Text key).toList.take 16)

/-- The row that a new hold is stored as. -/
def holdRow (key : String) (arguments : Payload) : TripHoldRow where
  payloadHash := provider.sha256 (canonicalJson arguments)
  payloadJson := canonicalJson arguments
  providerReference := provider.referenceOf key
  resultJson := canonicalJson (heldResult (provider.referenceOf key) arguments)

/-- The arguments that the provider reads off a request. -/
def validate (request : ExternalActionRequest) : Except TripHoldFailure Payload :=
  if request.toolName ≠ "create_trip_hold" then
    .error (.definitive "Trip hold provider received an unsupported tool")
  else
    match provider.inputModel request.arguments with
    | none => .error (.definitive "Trip hold provider received invalid arguments")
    | some arguments => .ok arguments

/-- The failure of a key that was used with other arguments. -/
def keyReused : TripHoldFailure :=
  .definitive "Trip hold idempotency key was reused with different arguments"

/-- The answer from a stored hold. -/
def replayHold (existing : TripHoldRow) (payloadHash : String) :
    Except TripHoldFailure ProviderResult :=
  if existing.payloadHash ≠ payloadHash then .error keyReused
  else
    match existing.resultJson with
    | .obj result => .ok ⟨existing.providerReference, result⟩
    | _ => .error (.runtimeError "Stored trip hold result is invalid")

/-- `execute`: the result and the holds after it. -/
def execute (holds : TripHolds) (request : ExternalActionRequest) :
    Except TripHoldFailure ProviderResult × TripHolds :=
  match provider.validate request with
  | .error failure => (.error failure, holds)
  | .ok arguments =>
    match holds.find request.idempotencyKey with
    | some existing => (replayHold existing (provider.sha256 (canonicalJson arguments)), holds)
    | none =>
      match holds.insert request.idempotencyKey
          (provider.holdRow request.idempotencyKey arguments) with
      | none => (.error (.integrityError "synthetic_trip_holds.provider_reference"), holds)
      | some next =>
        let providerReference := provider.referenceOf request.idempotencyKey
        (.ok ⟨providerReference, heldResult providerReference arguments⟩, next)

/-- The provider, driven by requests in any order. -/
def machine : Machine TripHolds ExternalActionRequest where
  init := .empty
  next := fun holds request ↦ (provider.execute holds request).2

/-! ### What a transaction can do -/

theorem validate_ne_keyReused {request : ExternalActionRequest} {failure : TripHoldFailure}
    (hvalidate : provider.validate request = .error failure) : failure ≠ keyReused := by
  unfold validate at hvalidate
  split_ifs at hvalidate
  · rw [← Except.error.inj hvalidate]
    decide
  · split at hvalidate
    · rw [← Except.error.inj hvalidate]
      decide
    · cases hvalidate

/-- The transaction is refused, meets its key in use for other arguments, replays a hold, or inserts
one. -/
theorem execute_cases (holds : TripHolds) (request : ExternalActionRequest) :
    (∃ failure, failure ≠ keyReused ∧
      (∀ message, failure = .definitive message → provider.validate request = .error failure) ∧
      provider.execute holds request = (.error failure, holds)) ∨
    (∃ arguments existing, provider.validate request = .ok arguments ∧
      holds.find request.idempotencyKey = some existing ∧
      existing.payloadHash ≠ provider.sha256 (canonicalJson arguments) ∧
      provider.execute holds request = (.error keyReused, holds)) ∨
    (∃ arguments existing result, provider.validate request = .ok arguments ∧
      holds.find request.idempotencyKey = some existing ∧
      existing.payloadHash = provider.sha256 (canonicalJson arguments) ∧
      existing.resultJson = .obj result ∧
      provider.execute holds request = (.ok ⟨existing.providerReference, result⟩, holds)) ∨
    ∃ arguments next, provider.validate request = .ok arguments ∧
      holds.insert request.idempotencyKey
        (provider.holdRow request.idempotencyKey arguments) = some next ∧
      provider.execute holds request = (.ok ⟨provider.referenceOf request.idempotencyKey,
        heldResult (provider.referenceOf request.idempotencyKey) arguments⟩, next) := by
  cases hvalidate : provider.validate request with
  | error failure =>
    refine .inl ⟨failure, provider.validate_ne_keyReused hvalidate, fun _ _ ↦ rfl, ?_⟩
    simp only [execute, hvalidate]
  | ok arguments =>
    cases hfind : holds.find request.idempotencyKey with
    | some existing =>
      have hexecute : provider.execute holds request =
          (replayHold existing (provider.sha256 (canonicalJson arguments)), holds) := by
        simp only [execute, hvalidate, hfind]
      by_cases hhash : existing.payloadHash = provider.sha256 (canonicalJson arguments)
      · cases hresult : existing.resultJson with
        | obj result =>
          refine .inr (.inr (.inl ⟨arguments, existing, result, rfl, rfl, hhash, hresult, ?_⟩))
          rw [hexecute, replayHold, if_neg (not_not.mpr hhash)]
          simp only [hresult]
        | _ =>
          refine .inl ⟨.runtimeError "Stored trip hold result is invalid", by decide, by simp, ?_⟩
          rw [hexecute, replayHold, if_neg (not_not.mpr hhash)]
          simp only [hresult]
      · refine .inr (.inl ⟨arguments, existing, rfl, rfl, hhash, ?_⟩)
        rw [hexecute, replayHold, if_pos hhash]
    | none =>
      cases hinsert : holds.insert request.idempotencyKey
          (provider.holdRow request.idempotencyKey arguments) with
      | none =>
        refine .inl
          ⟨.integrityError "synthetic_trip_holds.provider_reference", by decide, by simp, ?_⟩
        simp only [execute, hvalidate, hfind, hinsert]
      | some next =>
        refine .inr (.inr (.inr ⟨arguments, next, rfl, hinsert, ?_⟩))
        simp only [execute, hvalidate, hfind, hinsert]

/-- A hold is what a transaction wrote for its key. -/
def Wrote (holds : TripHolds) : Prop :=
  ∀ key row, holds.find key = some row → ∃ arguments, row = provider.holdRow key arguments

theorem wrote_empty : provider.Wrote .empty := by
  intro key row hfind
  cases hfind

theorem wrote_execute {holds : TripHolds} (hwrote : provider.Wrote holds)
    (request : ExternalActionRequest) : provider.Wrote (provider.execute holds request).2 := by
  obtain ⟨failure, -, -, hexecute⟩ | ⟨arguments, existing, -, -, -, hexecute⟩ |
    ⟨arguments, existing, result, -, -, -, -, hexecute⟩ | ⟨arguments, next, -, hinsert, hexecute⟩ :=
      provider.execute_cases holds request
  · rw [hexecute]
    exact hwrote
  · rw [hexecute]
    exact hwrote
  · rw [hexecute]
    exact hwrote
  · rw [hexecute]
    intro key row hfind
    obtain ⟨-, hnext⟩ := TripHolds.find_insert hinsert key
    rw [hnext] at hfind
    split_ifs at hfind with hkey
    · exact ⟨arguments, by rw [← Option.some.inj hfind, hkey]⟩
    · exact hwrote key row hfind

/-! ### The holds as an idempotency ledger -/

/-- What the table remembers of each key: the hash of the payload, and the receipt. -/
def ledger (holds : TripHolds) : IdempotencyLedger String String (String × Json) := fun key ↦
  (holds.find key).map fun row ↦ (row.payloadHash, row.providerReference, row.resultJson)

/-- What a client learns; the fields of a result have no order. -/
def keyReply : Except TripHoldFailure ProviderResult → KeyReply (String × Json)
  | .ok result => .granted (result.providerReference, canonicalJson result.result)
  | .error failure => if failure = keyReused then .conflict else .refused

/-- The hash of the arguments of a request. -/
def fingerprint (request : ExternalActionRequest) : String :=
  match provider.validate request with
  | .ok arguments => provider.sha256 (canonicalJson arguments)
  | .error _ => ""

/-- The request as the ledger sees it. -/
def served (holds : TripHolds) (request : ExternalActionRequest) :
    ServedRequest String String (String × Json) :=
  ⟨request.idempotencyKey, provider.fingerprint request,
    keyReply (provider.execute holds request).1⟩

theorem ledger_insert {holds next : TripHolds} {key : String} {arguments : Payload}
    (hinsert : holds.insert key (provider.holdRow key arguments) = some next) :
    ledger next = Function.update (ledger holds) key
      (some (provider.sha256 (canonicalJson arguments), provider.referenceOf key,
        canonicalJson (heldResult (provider.referenceOf key) arguments))) := by
  funext other
  obtain ⟨-, hnext⟩ := TripHolds.find_insert hinsert other
  unfold ledger
  rw [hnext]
  by_cases hkey : other = key
  · subst hkey
    rw [if_pos rfl, Function.update_self]
    rfl
  · rw [if_neg hkey, Function.update_of_ne hkey]

/-- A transaction is one request of the ledger. -/
theorem execute_serves {holds : TripHolds} (hwrote : provider.Wrote holds)
    (request : ExternalActionRequest) :
    ServesKey (ledger holds) (provider.served holds request)
      (ledger (provider.execute holds request).2) := by
  unfold served
  obtain ⟨failure, hother, -, hexecute⟩ | ⟨arguments, existing, hvalidate, hfind, hhash, hexecute⟩ |
    ⟨arguments, existing, result, hvalidate, hfind, hhash, hresult, hexecute⟩ |
    ⟨arguments, next, hvalidate, hinsert, hexecute⟩ := provider.execute_cases holds request
  · rw [hexecute]
    simp only [keyReply, if_neg hother]
    exact .refuse _ _
  · rw [hexecute]
    simp only [keyReply, if_true, fingerprint, hvalidate]
    exact .conflict _ _ existing.payloadHash (existing.providerReference, existing.resultJson)
      (by simp only [ledger, hfind, Option.map_some]) hhash
  · -- The stored result is canonical, so the replayed one reads the same.
    obtain ⟨shown, hrow⟩ := hwrote _ existing hfind
    have hcanonical : canonicalJson result = existing.resultJson := by
      have hstored : existing.resultJson.sortKeys = existing.resultJson := by
        rw [hrow]
        exact Json.sortKeys_sortKeys _
      rw [hresult] at hstored
      rw [hresult]
      exact hstored
    rw [hexecute]
    simp only [keyReply, fingerprint, hvalidate, hcanonical, ← hhash]
    exact .replay _ _ _ (by simp only [ledger, hfind, Option.map_some])
  · obtain ⟨hnew, -⟩ := TripHolds.find_insert hinsert request.idempotencyKey
    rw [hexecute]
    simp only [keyReply, fingerprint, hvalidate, provider.ledger_insert hinsert]
    exact .grant _ _ _ (by simp only [ledger, hnew, Option.map_none])

/-- Every sequence of requests leaves the ledger of what was granted. -/
theorem keyHistory_run (requests : List ExternalActionRequest) :
    KeyHistory (ledger (provider.machine.run .empty requests))
      (provider.machine.log (fun holds request ↦ [provider.served holds request]) .empty
        requests) := by
  have hrun : provider.Wrote (provider.machine.run .empty requests) ∧
      KeyHistory (ledger (provider.machine.run .empty requests))
        ([] ++ provider.machine.log (fun holds request ↦ [provider.served holds request]) .empty
          requests) :=
    provider.machine.invariant_log
      (fun holds served ↦ provider.Wrote holds ∧ KeyHistory (ledger holds) served)
      (fun _ _ request hinv _ ↦ ⟨provider.wrote_execute hinv.1 request,
        hinv.2.serve (provider.execute_serves hinv.1 request)⟩)
      ⟨provider.wrote_empty, KeyHistory.start⟩ (provider.machine.admits_true .empty requests)
  exact hrun.2

/-- The requests of a history that got a reply of the ledger's. -/
theorem mem_served_iff {requests : List ExternalActionRequest}
    {entry : ServedRequest String String (String × Json)} :
    entry ∈ provider.machine.log (fun holds request ↦ [provider.served holds request]) .empty
        requests ↔
      ∃ earlier request later, requests = earlier ++ request :: later ∧
        provider.served (provider.machine.run .empty earlier) request = entry := by
  rw [Machine.mem_log_iff]
  constructor
  · rintro ⟨earlier, request, later, hrequests, hentry⟩
    exact ⟨earlier, request, later, hrequests, (List.mem_singleton.mp hentry).symm⟩
  · rintro ⟨earlier, request, later, hrequests, hentry⟩
    exact ⟨earlier, request, later, hrequests, List.mem_singleton.mpr hentry.symm⟩

/-- Only valid arguments are granted a hold or meet another one. -/
theorem validate_of_execute {holds : TripHolds} {request : ExternalActionRequest}
    {answer : Except TripHoldFailure ProviderResult}
    (hexecute : (provider.execute holds request).1 = answer)
    (hanswer : answer = .error keyReused ∨ ∃ result, answer = .ok result) :
    ∃ arguments, provider.validate request = .ok arguments ∧
      provider.fingerprint request = provider.sha256 (canonicalJson arguments) := by
  cases hvalidate : provider.validate request with
  | ok arguments => exact ⟨arguments, rfl, by simp only [fingerprint, hvalidate]⟩
  | error failure =>
    have hfailed : answer = .error failure := by
      rw [← hexecute]
      simp only [execute, hvalidate]
    rcases hanswer with hreused | ⟨result, hok⟩
    · obtain rfl := Except.error.inj (hfailed.symm.trans hreused)
      exact absurd rfl (provider.validate_ne_keyReused hvalidate)
    · cases hfailed.symm.trans hok

/-- The holds are what was granted. Whatever requests arrive in whatever order, a hold stands at the
end exactly if some request of its key was answered with it: with its reference, with its result up
to the order of keys, and for arguments of its hash. So all answers to a key agree, also those after
the table grew. A request that was refused because its key is in use names a key whose hold stands
for arguments of another hash. Holds of different keys have different references. -/
theorem trip_holds_are_what_was_granted (requests : List ExternalActionRequest) :
    let holds := provider.machine.run .empty requests
    (∀ key payloadHash reference resultJson,
      (∃ hold, holds.find key = some hold ∧ hold.payloadHash = payloadHash ∧
        hold.providerReference = reference ∧ hold.resultJson = resultJson) ↔
      ∃ earlier request later arguments result, requests = earlier ++ request :: later ∧
        request.idempotencyKey = key ∧ provider.validate request = .ok arguments ∧
        provider.sha256 (canonicalJson arguments) = payloadHash ∧
        (provider.execute (provider.machine.run .empty earlier) request).1 = .ok result ∧
        result.providerReference = reference ∧ canonicalJson result.result = resultJson) ∧
    (∀ earlier request later, requests = earlier ++ request :: later →
      (provider.execute (provider.machine.run .empty earlier) request).1 = .error keyReused →
      ∃ arguments hold, provider.validate request = .ok arguments ∧
        holds.find request.idempotencyKey = some hold ∧
        hold.payloadHash ≠ provider.sha256 (canonicalJson arguments)) ∧
    ∀ key other row hold, holds.find key = some row → holds.find other = some hold →
      row.providerReference = hold.providerReference → key = other := by
  intro holds
  have hhistory := provider.keyHistory_run requests
  refine ⟨fun key payloadHash reference resultJson ↦ ⟨?_, ?_⟩, ?_, fun _ _ _ _ hrow hhold ↦
    holds.key_of_reference hrow hhold⟩
  · rintro ⟨hold, hfind, rfl, rfl, rfl⟩
    have hentry : ledger holds key =
        some (hold.payloadHash, hold.providerReference, hold.resultJson) := by
      simp only [ledger, hfind, Option.map_some]
    have hgranted := (hhistory.iff_granted _ _ _).mp hentry
    obtain ⟨earlier, request, later, hrequests, hserved⟩ := provider.mem_served_iff.mp hgranted
    obtain ⟨hkey, hprint, hreply⟩ := ServedRequest.mk.inj hserved
    cases hexecute : (provider.execute (provider.machine.run .empty earlier) request).1 with
    | error failure =>
      rw [hexecute, keyReply] at hreply
      split_ifs at hreply
    | ok result =>
      rw [hexecute, keyReply] at hreply
      obtain ⟨hreference, hresult⟩ := Prod.mk.inj (KeyReply.granted.inj hreply)
      obtain ⟨arguments, hvalidate, hhash⟩ :=
        provider.validate_of_execute hexecute (.inr ⟨result, rfl⟩)
      exact ⟨earlier, request, later, arguments, result, hrequests, hkey, hvalidate,
        hhash.symm.trans hprint, hexecute, hreference, hresult⟩
  · rintro ⟨earlier, request, later, arguments, result, hrequests, rfl, hvalidate, rfl, hexecute,
      rfl, rfl⟩
    have hserved : provider.served (provider.machine.run .empty earlier) request =
        ⟨request.idempotencyKey, provider.sha256 (canonicalJson arguments),
          .granted (result.providerReference, canonicalJson result.result)⟩ := by
      simp only [served, fingerprint, hvalidate, hexecute, keyReply]
    have hgranted := provider.mem_served_iff.mpr ⟨earlier, request, later, hrequests, hserved⟩
    have hentry := (hhistory.iff_granted _ _ _).mpr hgranted
    obtain ⟨hold, hfind, hcolumns⟩ := Option.map_eq_some_iff.mp hentry
    obtain ⟨hhash, hreceipt⟩ := Prod.mk.inj hcolumns
    obtain ⟨hreference, hresult⟩ := Prod.mk.inj hreceipt
    exact ⟨hold, hfind, hhash, hreference, hresult⟩
  · intro earlier request later hrequests hexecute
    obtain ⟨arguments, hvalidate, hhash⟩ := provider.validate_of_execute hexecute (.inl rfl)
    have hserved : provider.served (provider.machine.run .empty earlier) request =
        ⟨request.idempotencyKey, provider.sha256 (canonicalJson arguments), .conflict⟩ := by
      simp only [served, hhash, hexecute, keyReply, if_true]
    have hconflict := provider.mem_served_iff.mpr ⟨earlier, request, later, hrequests, hserved⟩
    obtain ⟨other, receipt, hentry, hother⟩ := hhistory.of_conflict hconflict
    obtain ⟨hold, hfind, hcolumns⟩ := Option.map_eq_some_iff.mp hentry
    refine ⟨arguments, hold, hvalidate, hfind, ?_⟩
    rw [(Prod.mk.inj hcolumns).1]
    exact hother

end SQLiteTripHoldProvider

end AgentRuntime.Providers
