import Mathlib.Data.List.Infix
import AgentRuntime.Library.PyText
import AgentRuntime.Execution.Effects

/-!
# `HttpExternalActionProvider`

The adapter posts an external action to a configured endpoint and classifies what comes back. The
constructor leaves a provider whose status codes and limits satisfy its checks. `execute` follows
the source: the exchange with its `except` clauses, the bounded read of the body, decoding, and the
scan for the bearer token.

What `httpx` does with a request is an `Exchange`, and `json.loads` is a parameter, since how deep a
text it accepts depends on the stack. A decoded text is its list of code points: an escape in a JSON
text can denote a lone surrogate, which no character is.
-/

set_option autoImplicit false
set_option relaxedAutoImplicit false

namespace AgentRuntime.Providers

open Library Execution

/-! ### Decoded values -/

/-- A Python text: its code points. -/
abbrev PyText : Type := List Nat

/-- The code points of a text without surrogates. -/
def codePoints (text : String) : PyText := text.toList.map Char.toNat

/-- What `json.loads` returns. A number with a fraction or an exponent is its IEEE bits. -/
inductive Decoded where
  | null
  | bool (value : Bool)
  | int (value : Int)
  | float (bits : UInt64)
  | str (text : PyText)
  | list (items : List Decoded)
  | dict (fields : List (PyText × Decoded))

/-- How `json.loads` rejects a text. -/
inductive LoadsFailure where
  | jsonDecodeError
  | valueError
  | recursionError

/-- `ExternalActionProviderResult`. -/
structure ExternalActionProviderResult where
  providerReference : PyText
  result : List (PyText × Decoded)

/-- The text encodes in UTF-8, which pydantic asks of a text it validates. -/
def isEncodable (text : PyText) : Bool := text.all fun code ↦ !(0xd800 ≤ code && code ≤ 0xdfff)

/-- The value of a key. -/
def fieldOf (fields : List (PyText × Decoded)) (key : String) : Option Decoded :=
  (fields.find? fun field ↦ field.1 == codePoints key).map Prod.snd

/-- `ExternalActionProviderResult.model_validate` of a dictionary: exactly two fields, a reference
of 1 to 500 characters and a dictionary. -/
def modelValidate (fields : List (PyText × Decoded)) : Option ExternalActionProviderResult :=
  match fields.length, fieldOf fields "provider_reference", fieldOf fields "result" with
  | 2, some (.str reference), some (.dict result) =>
    if isEncodable reference && 1 ≤ reference.length && reference.length ≤ 500 &&
        result.all fun field ↦ isEncodable field.1 then
      some ⟨reference, result⟩
    else none
  | _, _, _ => none

/-! ### Providers -/

/-- What the constructor reads of an `httpx.URL`. -/
structure Url where
  scheme : String
  host : String
  userinfo : String

/-- The keyword arguments of the constructor. -/
structure Configuration where
  endpoint : String
  providerIdentity : String
  bearerToken : Option String
  allowInsecureLocalhost : Bool
  supportsIdempotency : Bool
  definitiveStatusCodes : List Int
  timeoutSeconds : Rat
  maxResponseBytes : Int

/-- `_INSECURE_LOOPBACK_HOSTS`. -/
def insecureLoopbackHosts : List String := ["127.0.0.1", "::1", "localhost"]

/-- `HttpExternalActionProvider`, as its constructor leaves it. -/
structure HttpExternalActionProvider where
  endpoint : Url
  providerIdentity : String
  bearerToken : Option String
  supportsIdempotency : Bool
  definitiveStatusCodes : List Int
  timeoutSeconds : Rat
  maxResponseBytes : Int
  token_ne_empty : bearerToken ≠ some ""
  codes_client : ∀ code ∈ definitiveStatusCodes, 400 ≤ code ∧ code < 500
  bytes_bounded : 256 ≤ maxResponseBytes ∧ maxResponseBytes ≤ 1048576

/-- How `httpx.URL` rejects a text. `httpx.InvalidURL` is not a `ValueError`. -/
inductive UrlFailure where
  | invalidUrl (message : String)
  | valueError

/-- How the constructor fails. -/
inductive ConstructionFailure where
  | invalidUrl (message : String)
  | valueError (message : String)

/-- The constructor, with the texts of its `ValueError`s; `parse` is `httpx.URL`. It catches only
`TypeError` and `ValueError` of that, so an `httpx.InvalidURL` escapes as it is. -/
def HttpExternalActionProvider.create (parse : String → Except UrlFailure Url)
    (configuration : Configuration) : Except ConstructionFailure HttpExternalActionProvider :=
  match parse configuration.endpoint with
  | .error (.invalidUrl message) => .error (.invalidUrl message)
  | .error .valueError => .error (.valueError "endpoint must be an absolute HTTP(S) URL")
  | .ok endpoint =>
    if (endpoint.scheme ≠ "http" ∧ endpoint.scheme ≠ "https") ∨ endpoint.host = "" ∨
        endpoint.userinfo ≠ "" then
      .error (.valueError "endpoint must be an absolute HTTP(S) URL without credentials")
    else if htoken : configuration.bearerToken = some "" then
      .error (.valueError "bearer_token must be non-empty when configured")
    else if endpoint.scheme = "http" ∧ ¬ (configuration.allowInsecureLocalhost = true ∧
        endpoint.host.toLower ∈ insecureLoopbackHosts) then
      .error (.valueError
        "HTTP providers require an explicitly enabled loopback development endpoint")
    else if configuration.providerIdentity = "" ∨ 200 < configuration.providerIdentity.length ∨
        configuration.providerIdentity ≠ strip configuration.providerIdentity then
      .error (.valueError "provider_identity must be a non-empty string of at most 200 characters")
    else if hcodes : ¬ ∀ code ∈ configuration.definitiveStatusCodes, 400 ≤ code ∧ code < 500 then
      .error (.valueError "definitive_status_codes must contain only 4xx codes")
    else if ¬ (0 < configuration.timeoutSeconds ∧ configuration.timeoutSeconds ≤ 60) then
      .error (.valueError "timeout_seconds must be greater than zero and at most 60")
    else if hbytes : ¬ (256 ≤ configuration.maxResponseBytes ∧
        configuration.maxResponseBytes ≤ 1048576) then
      .error (.valueError "max_response_bytes must be between 256 and 1048576 bytes")
    else
      .ok
        { endpoint := endpoint
          providerIdentity := configuration.providerIdentity
          bearerToken := configuration.bearerToken
          supportsIdempotency := configuration.supportsIdempotency
          definitiveStatusCodes := configuration.definitiveStatusCodes
          timeoutSeconds := configuration.timeoutSeconds
          maxResponseBytes := configuration.maxResponseBytes
          token_ne_empty := htoken
          codes_client := not_not.mp hcodes
          bytes_bounded := not_not.mp hbytes }

/-! ### Exchanges -/

/-- An `httpx.Response`: its body arrives in chunks, after which the connection may break. -/
structure HttpResponse where
  statusCode : Int
  headers : List (String × String)
  chunks : List ByteArray
  broken : Bool

/-- `response.headers.get`: names are compared without case, repeated values are joined. -/
def HttpResponse.header (response : HttpResponse) (name : String) : Option String :=
  match (response.headers.filter fun field ↦ field.1.toLower == name.toLower).map Prod.snd with
  | [] => none
  | values => some (", ".intercalate values)

/-- The bytes of the body. -/
def HttpResponse.body (response : HttpResponse) : ByteArray :=
  response.chunks.foldl (· ++ ·) ByteArray.empty

/-- What `client.stream` makes of a request: an exception before a response arrived, or the
response. -/
inductive Exchange where
  | httpError
  | typeError
  | valueError
  | answered (response : HttpResponse)

/-- The exceptions of `execute`. -/
inductive ProviderFailure where
  | definitive
  | ambiguous
  | httpError
  | typeError
  | valueError
  | recursionError
  deriving DecidableEq

/-- The headers of a request. -/
def HttpExternalActionProvider.requestHeaders (provider : HttpExternalActionProvider)
    (request : ExternalActionRequest) : List (String × String) :=
  [("Accept", "application/json"), ("Accept-Encoding", "identity"),
    ("Idempotency-Key", request.idempotencyKey)] ++
    match provider.bearerToken with
    | some token => [("Authorization", "Bearer " ++ token)]
    | none => []

/-! ### Reading a response -/

/-- The media type of a response: the only letters that Python lowers to one of `application/json`
are ASCII. -/
def HttpResponse.mediaType (response : HttpResponse) : String :=
  (strip (String.ofList
    (((response.header "Content-Type").getD "").toList.takeWhile fun char ↦ char ≠ ';'))).toLower

/-- The check of the declared length. -/
def HttpResponse.checkLength (response : HttpResponse) (limit : Int) :
    Except ProviderFailure Unit :=
  match response.header "Content-Length" with
  | none => .ok ()
  | some contentLength =>
    match pyInt contentLength with
    | none => .error .ambiguous
    | some declaredLength =>
      if declaredLength < 0 ∨ limit < declaredLength then .error .ambiguous else .ok ()

/-- The loop over the chunks. -/
def readChunks (limit : Int) (broken : Bool) :
    List ByteArray → ByteArray → Except ProviderFailure ByteArray
  | [], payload => if broken then .error .httpError else .ok payload
  | chunk :: rest, payload =>
    if limit < payload.size + chunk.size then .error .ambiguous
    else readChunks limit broken rest (payload ++ chunk)

/-- The result of a block whose `httpx.HTTPError` is collapsed to an ambiguous failure. -/
def collapseHttpError {α : Type} : Except ProviderFailure α → Except ProviderFailure α
  | .error .httpError => .error .ambiguous
  | result => result

/-- The result of a block whose `TypeError` and `ValueError` are collapsed too. -/
def collapseLocalError {α : Type} : Except ProviderFailure α → Except ProviderFailure α
  | .error .typeError => .error .ambiguous
  | .error .valueError => .error .ambiguous
  | result => collapseHttpError result

/-- `_read_bounded_response`. -/
def HttpExternalActionProvider.readBoundedResponse (provider : HttpExternalActionProvider)
    (response : HttpResponse) : Except ProviderFailure ByteArray :=
  if response.mediaType ≠ "application/json" then .error .ambiguous
  else
    match response.checkLength provider.maxResponseBytes with
    | .error failure => .error failure
    | .ok () =>
      collapseHttpError
        (readChunks provider.maxResponseBytes response.broken response.chunks ByteArray.empty)

/-- `_decode_success`. -/
def decodeSuccess (loads : String → Except LoadsFailure Decoded) (payload : ByteArray) :
    Except ProviderFailure ExternalActionProviderResult :=
  match String.fromUTF8? payload with
  | none => .error .ambiguous
  | some text =>
    match loads text with
    | .error .jsonDecodeError => .error .ambiguous
    | .error .valueError => .error .valueError
    | .error .recursionError => .error .recursionError
    | .ok (.dict fields) =>
      match modelValidate fields with
      | some result => .ok result
      | none => .error .ambiguous
    | .ok _ => .error .ambiguous

/-! ### The scan for the bearer token -/

mutual

/-- The number of values inside a value. -/
def Decoded.size : Decoded → Nat
  | .list items => itemsSize items + 1
  | .dict fields => fieldsSize fields + 1
  | _ => 1

/-- The size of all items. -/
def itemsSize : List Decoded → Nat
  | [] => 0
  | item :: rest => item.size + itemsSize rest

/-- The size of all keys and values. -/
def fieldsSize : List (PyText × Decoded) → Nat
  | [] => 0
  | field :: rest => field.2.size + 1 + fieldsSize rest

end

/-- `fields.keys()`. -/
def keys (fields : List (PyText × Decoded)) : List Decoded := fields.map fun field ↦ .str field.1

/-- `fields.values()`. -/
def values (fields : List (PyText × Decoded)) : List Decoded := fields.map Prod.snd

/-- `pending.extend(items)`; the list is kept with its end first. -/
def extend (pending items : List Decoded) : List Decoded := items.reverse ++ pending

theorem itemsSize_append (left right : List Decoded) :
    itemsSize (left ++ right) = itemsSize left + itemsSize right := by
  induction left with
  | nil => simp [itemsSize]
  | cons item rest ih =>
    simp only [List.cons_append, itemsSize, ih]
    omega

theorem itemsSize_extend (pending items : List Decoded) :
    itemsSize (extend pending items) = itemsSize items + itemsSize pending := by
  have hreverse : itemsSize items.reverse = itemsSize items := by
    induction items with
    | nil => rfl
    | cons item rest ih =>
      simp only [List.reverse_cons, itemsSize_append, itemsSize, ih]
      omega
  rw [extend, itemsSize_append, hreverse]

theorem itemsSize_fields (fields : List (PyText × Decoded)) :
    itemsSize (keys fields) + itemsSize (values fields) = fieldsSize fields := by
  induction fields with
  | nil => rfl
  | cons field rest ih =>
    simp only [keys, values, List.map_cons, itemsSize, fieldsSize, Decoded.size] at ih ⊢
    omega

/-- The loop of `_contains_string`. -/
def containsString (needle : PyText) : List Decoded → Bool
  | [] => false
  | .str text :: pending => decide (needle <:+: text) || containsString needle pending
  | .dict fields :: pending =>
    containsString needle (extend (extend pending (keys fields)) (values fields))
  | .list items :: pending => containsString needle (extend pending items)
  | .null :: pending | .bool _ :: pending | .int _ :: pending | .float _ :: pending =>
    containsString needle pending
  termination_by pending => itemsSize pending
  decreasing_by
    · simp only [itemsSize, Decoded.size]
      omega
    · have hfields := itemsSize_fields fields
      simp only [itemsSize, itemsSize_extend, Decoded.size]
      omega
    all_goals
      simp only [itemsSize, itemsSize_extend, Decoded.size]
      omega

/-! ### `execute` -/

namespace HttpExternalActionProvider

variable (provider : HttpExternalActionProvider)

/-- The block inside the two `with` statements. -/
def readExchange : Exchange → Except ProviderFailure ByteArray
  | .httpError => .error .httpError
  | .typeError => .error .typeError
  | .valueError => .error .valueError
  | .answered response =>
    if response.statusCode = 200 ∨ response.statusCode = 201 then
      provider.readBoundedResponse response
    else if response.statusCode ∈ provider.definitiveStatusCodes then .error .definitive
    else .error .ambiguous

/-- `execute`; `stream` is what becomes of the request with its headers. -/
def execute (loads : String → Except LoadsFailure Decoded)
    (stream : List (String × String) → ExternalActionRequest → Exchange)
    (request : ExternalActionRequest) : Except ProviderFailure ExternalActionProviderResult :=
  match collapseLocalError
      (provider.readExchange (stream (provider.requestHeaders request) request)) with
  | .error failure => .error failure
  | .ok payload =>
    match decodeSuccess loads payload with
    | .error failure => .error failure
    | .ok result =>
      match provider.bearerToken with
      | none => .ok result
      | some token =>
        if containsString (codePoints token)
            [.list [.str result.providerReference, .dict result.result]] then
          .error .ambiguous
        else .ok result

end HttpExternalActionProvider

end AgentRuntime.Providers
