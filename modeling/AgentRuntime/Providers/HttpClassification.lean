import Mathlib.Algebra.GroupWithZero.Nat
import AgentRuntime.Providers.HttpExternalAction

/-!
# How a provider response is classified

`Classified` says what `execute` may do with an exchange: return a result that the response really
carries, raise the definitive error exactly on a definitive status, and otherwise raise the
ambiguous one. `execute_classified_iff` says when it does so: unless a body that passed every check
of the read is a text on which `json.loads` raises something other than a `JSONDecodeError`, which
`_decode_success` does not catch.

The body is read in chunks under a limit; `readChunks_eq` says what any split of it amounts to. The
scan for the token keeps a list of pending values, and `containsString_iff` says that it finds
exactly the occurrences inside the value.
-/

set_option autoImplicit false
set_option relaxedAutoImplicit false

namespace AgentRuntime.Providers

open Library Execution

/-! ### Occurrences of a text -/

/-- The text occurs in a string or a key of the value. -/
inductive Occurs (needle : PyText) : Decoded → Prop
  | text {text : PyText} (hinside : needle <:+: text) : Occurs needle (.str text)
  | item {items : List Decoded} {value : Decoded} (hmem : value ∈ items)
    (hoccurs : Occurs needle value) : Occurs needle (.list items)
  | key {fields : List (PyText × Decoded)} {field : PyText × Decoded} (hmem : field ∈ fields)
    (hinside : needle <:+: field.1) : Occurs needle (.dict fields)
  | value {fields : List (PyText × Decoded)} {field : PyText × Decoded} (hmem : field ∈ fields)
    (hoccurs : Occurs needle field.2) : Occurs needle (.dict fields)

variable {needle : PyText}

theorem occurs_str {text : PyText} : Occurs needle (.str text) ↔ needle <:+: text := by
  constructor
  · rintro ⟨hinside⟩
    exact hinside
  · exact .text

theorem occurs_list {items : List Decoded} :
    Occurs needle (.list items) ↔ ∃ value ∈ items, Occurs needle value := by
  constructor
  · rintro (_ | ⟨hmem, hoccurs⟩)
    exact ⟨_, hmem, hoccurs⟩
  · rintro ⟨value, hmem, hoccurs⟩
    exact .item hmem hoccurs

theorem occurs_dict {fields : List (PyText × Decoded)} :
    Occurs needle (.dict fields) ↔
      (∃ value ∈ values fields, Occurs needle value) ∨ ∃ key ∈ keys fields, Occurs needle key := by
  constructor
  · rintro (_ | _ | ⟨hmem, hinside⟩ | ⟨hmem, hoccurs⟩)
    · exact .inr ⟨_, List.mem_map_of_mem hmem, .text hinside⟩
    · exact .inl ⟨_, List.mem_map_of_mem hmem, hoccurs⟩
  · rintro (⟨value, hvalue, hoccurs⟩ | ⟨key, hkey, hoccurs⟩)
    · obtain ⟨field, hmem, rfl⟩ := List.mem_map.mp hvalue
      exact .value hmem hoccurs
    · obtain ⟨field, hmem, rfl⟩ := List.mem_map.mp hkey
      exact .key hmem (occurs_str.mp hoccurs)

theorem exists_mem_extend {pending items : List Decoded} :
    (∃ value ∈ extend pending items, Occurs needle value) ↔
      (∃ value ∈ items, Occurs needle value) ∨ ∃ value ∈ pending, Occurs needle value := by
  simp only [extend, List.mem_append, List.mem_reverse, or_and_right, exists_or]

/-- The scan finds exactly the occurrences inside the pending values. -/
theorem containsString_iff (pending : List Decoded) :
    containsString needle pending = true ↔ ∃ value ∈ pending, Occurs needle value := by
  induction pending using containsString.induct with
  | case1 => simp [containsString]
  | case2 text pending ih =>
    simp only [containsString, Bool.or_eq_true, decide_eq_true_eq, ih, List.mem_cons,
      exists_eq_or_imp, occurs_str]
  | case3 fields pending ih =>
    rw [containsString, ih, exists_mem_extend, exists_mem_extend]
    simp only [List.mem_cons, exists_eq_or_imp, occurs_dict, or_assoc]
  | case4 items pending ih =>
    rw [containsString, ih, exists_mem_extend]
    simp only [List.mem_cons, exists_eq_or_imp, occurs_list]
  | case5 pending ih =>
    have hnone : ¬ Occurs needle .null := by rintro ⟨⟩
    simp [containsString, ih, hnone]
  | case6 value pending ih =>
    have hnone : ¬ Occurs needle (.bool value) := by rintro ⟨⟩
    simp [containsString, ih, hnone]
  | case7 value pending ih =>
    have hnone : ¬ Occurs needle (.int value) := by rintro ⟨⟩
    simp [containsString, ih, hnone]
  | case8 bits pending ih =>
    have hnone : ¬ Occurs needle (.float bits) := by rintro ⟨⟩
    simp [containsString, ih, hnone]

/-! ### Reading in chunks -/

/-- The number of bytes in the chunks. -/
def chunksSize (chunks : List ByteArray) : Nat := (chunks.map ByteArray.size).sum

/-- However the body is split, it is read in full when it fits, and not otherwise. -/
theorem readChunks_eq {limit : Int} (broken : Bool) (chunks : List ByteArray) (payload : ByteArray)
    (hpayload : payload.size ≤ limit) :
    readChunks limit broken chunks payload =
      if limit < payload.size + chunksSize chunks then .error .ambiguous
      else if broken then .error .httpError
      else .ok (chunks.foldl (· ++ ·) payload) := by
  induction chunks generalizing payload with
  | nil =>
    have hfits : ¬ limit < payload.size + chunksSize [] := by simp [chunksSize, hpayload]
    simp only [readChunks, if_neg hfits, List.foldl_nil]
  | cons chunk rest ih =>
    have hsum : chunksSize (chunk :: rest) = chunk.size + chunksSize rest := by simp [chunksSize]
    by_cases hlong : limit < payload.size + chunk.size
    · have hover : limit < payload.size + chunksSize (chunk :: rest) := by
        rw [hsum]
        push_cast
        omega
      simp only [readChunks, if_pos hlong, if_pos hover]
    · have hnext : ((payload ++ chunk).size : Int) ≤ limit := by
        rw [ByteArray.size_append]
        push_cast
        omega
      have hsize : ((payload ++ chunk).size : Int) + chunksSize rest =
          payload.size + chunksSize (chunk :: rest) := by
        rw [ByteArray.size_append, hsum]
        push_cast
        omega
      simp only [readChunks, if_neg hlong, ih _ hnext, hsize, List.foldl_cons]

theorem size_body (chunks : List ByteArray) (payload : ByteArray) :
    (chunks.foldl (· ++ ·) payload).size = payload.size + chunksSize chunks := by
  induction chunks generalizing payload with
  | nil => simp [chunksSize]
  | cons chunk rest ih =>
    rw [List.foldl_cons, ih, ByteArray.size_append]
    simp only [chunksSize, List.map_cons, List.sum_cons, add_assoc]

/-! ### The classification -/

/-- The declared length, if any, is a number within the limit. -/
def LengthAllowed (response : HttpResponse) (limit : Int) : Prop :=
  ∀ contentLength, response.header "Content-Length" = some contentLength →
    ∃ declaredLength, pyInt contentLength = some declaredLength ∧ 0 ≤ declaredLength ∧
      declaredLength ≤ limit

theorem checkLength_eq_ok {response : HttpResponse} {limit : Int} :
    response.checkLength limit = .ok () ↔ LengthAllowed response limit := by
  unfold HttpResponse.checkLength LengthAllowed
  cases response.header "Content-Length" with
  | none => simp
  | some contentLength =>
    cases hint : pyInt contentLength with
    | none => simp [hint]
    | some declaredLength => simp [hint, not_or]

theorem checkLength_eq_error {response : HttpResponse} {limit : Int} {failure : ProviderFailure}
    (herror : response.checkLength limit = .error failure) : failure = .ambiguous := by
  unfold HttpResponse.checkLength at herror
  split at herror
  · cases herror
  · split at herror
    · exact (Except.error.inj herror).symm
    · split_ifs at herror
      exact (Except.error.inj herror).symm

/-- The response is a success whose body passes every check of the bounded read. -/
structure Readable (provider : HttpExternalActionProvider) (response : HttpResponse) : Prop where
  status : response.statusCode = 200 ∨ response.statusCode = 201
  mediaType : response.mediaType = "application/json"
  length : LengthAllowed response provider.maxResponseBytes
  whole : response.broken = false
  size : response.body.size ≤ provider.maxResponseBytes

theorem size_response (response : HttpResponse) :
    response.body.size = chunksSize response.chunks := by
  rw [HttpResponse.body, size_body]
  simp

/-- The bounded read of a success: the whole body, or an ambiguous failure. -/
theorem readBoundedResponse_cases (provider : HttpExternalActionProvider) {response : HttpResponse}
    (hstatus : response.statusCode = 200 ∨ response.statusCode = 201) :
    (Readable provider response ∧ provider.readBoundedResponse response = .ok response.body) ∨
      (¬ Readable provider response ∧
        provider.readBoundedResponse response = .error .ambiguous) := by
  unfold HttpExternalActionProvider.readBoundedResponse
  by_cases hmedia : response.mediaType = "application/json"
  · rw [if_neg (not_not.mpr hmedia)]
    cases hlength : response.checkLength provider.maxResponseBytes with
    | error failure =>
      refine .inr ⟨fun hreadable ↦ ?_, by rw [checkLength_eq_error hlength]⟩
      rw [checkLength_eq_ok.mpr hreadable.length] at hlength
      cases hlength
    | ok value =>
      have hallowed : LengthAllowed response provider.maxResponseBytes :=
        checkLength_eq_ok.mp hlength
      have hempty : (ByteArray.empty.size : Int) ≤ provider.maxResponseBytes := by
        have hbounds := provider.bytes_bounded
        simp only [ByteArray.size_empty]
        omega
      have htotal : ((ByteArray.empty.size : Nat) : Int) + chunksSize response.chunks =
          response.body.size := by
        rw [size_response]
        simp
      dsimp only
      rw [readChunks_eq _ _ _ hempty, htotal]
      by_cases hsize : provider.maxResponseBytes < response.body.size
      · refine .inr ⟨fun hreadable ↦ absurd hreadable.size (not_le.mpr hsize), ?_⟩
        rw [if_pos hsize]
        rfl
      · rw [if_neg hsize]
        cases hbroken : response.broken with
        | false =>
          exact .inl ⟨⟨hstatus, hmedia, hallowed, hbroken, not_lt.mp hsize⟩, rfl⟩
        | true =>
          refine .inr ⟨fun hreadable ↦ ?_, rfl⟩
          rw [hreadable.whole] at hbroken
          cases hbroken
  · rw [if_pos hmedia]
    exact .inr ⟨fun hreadable ↦ hmedia hreadable.mediaType, rfl⟩

/-- The exchange yields the body of a readable response, or an ambiguous failure, or the definitive
one when the status says so. -/
theorem readExchange_cases (provider : HttpExternalActionProvider) (exchange : Exchange) :
    (∃ response, exchange = .answered response ∧ Readable provider response ∧
      collapseLocalError (provider.readExchange exchange) = .ok response.body) ∨
    (∃ response, exchange = .answered response ∧
      response.statusCode ∈ provider.definitiveStatusCodes ∧
      collapseLocalError (provider.readExchange exchange) = .error .definitive) ∨
    ((∀ response, exchange = .answered response → ¬ Readable provider response ∧
      response.statusCode ∉ provider.definitiveStatusCodes) ∧
      collapseLocalError (provider.readExchange exchange) = .error .ambiguous) := by
  cases exchange with
  | httpError => exact .inr (.inr ⟨by simp, rfl⟩)
  | typeError => exact .inr (.inr ⟨by simp, rfl⟩)
  | valueError => exact .inr (.inr ⟨by simp, rfl⟩)
  | answered response =>
    by_cases hstatus : response.statusCode = 200 ∨ response.statusCode = 201
    · -- a success status is no client error, so it is not a definitive one
      have hcode : response.statusCode ∉ provider.definitiveStatusCodes := by
        intro hmem
        have hclient := provider.codes_client _ hmem
        omega
      have hread : provider.readExchange (.answered response) =
          provider.readBoundedResponse response := if_pos hstatus
      rcases readBoundedResponse_cases provider hstatus with ⟨hreadable, hok⟩ | ⟨hrefused, herror⟩
      · refine .inl ⟨response, rfl, hreadable, ?_⟩
        rw [hread, hok]
        rfl
      · refine .inr (.inr ⟨fun other hother ↦ ?_, ?_⟩)
        · cases hother
          exact ⟨hrefused, hcode⟩
        · rw [hread, herror]
          rfl
    · by_cases hcode : response.statusCode ∈ provider.definitiveStatusCodes
      · refine .inr (.inl ⟨response, rfl, hcode, ?_⟩)
        simp [HttpExternalActionProvider.readExchange, if_neg hstatus, if_pos hcode,
          collapseLocalError, collapseHttpError]
      · refine .inr (.inr ⟨fun other hother ↦ ?_, ?_⟩)
        · cases hother
          exact ⟨fun hreadable ↦ hstatus hreadable.status, hcode⟩
        · simp [HttpExternalActionProvider.readExchange, if_neg hstatus, if_neg hcode,
            collapseLocalError, collapseHttpError]

/-- The body decodes to a dictionary that is the result. -/
def Carries (loads : String → Except LoadsFailure Decoded) (body : ByteArray)
    (result : ExternalActionProviderResult) : Prop :=
  ∃ text fields, String.fromUTF8? body = some text ∧ loads text = .ok (.dict fields) ∧
    modelValidate fields = some result

/-- The token occurs in no string or key of the result. -/
def Clean (token : String) (result : ExternalActionProviderResult) : Prop :=
  ¬ Occurs (codePoints token) (.str result.providerReference) ∧
    ¬ Occurs (codePoints token) (.dict result.result)

/-- What `execute` may do with an exchange. -/
structure Classified (provider : HttpExternalActionProvider)
    (loads : String → Except LoadsFailure Decoded) (exchange : Exchange)
    (outcome : Except ProviderFailure ExternalActionProviderResult) : Prop where
  returned : ∀ result, outcome = .ok result → ∃ response, exchange = .answered response ∧
    Readable provider response ∧ Carries loads response.body result ∧
    ∀ token, provider.bearerToken = some token → Clean token result
  definitive : outcome = .error .definitive ↔ ∃ response, exchange = .answered response ∧
    response.statusCode ∈ provider.definitiveStatusCodes
  ambiguous : ∀ failure, outcome = .error failure → failure ≠ .definitive → failure = .ambiguous

/-- A readable body is a text on which `json.loads` raises something other than a
`JSONDecodeError`. -/
def LoadsEscapes (provider : HttpExternalActionProvider)
    (loads : String → Except LoadsFailure Decoded) (exchange : Exchange) : Prop :=
  ∃ response text, exchange = .answered response ∧ Readable provider response ∧
    String.fromUTF8? response.body = some text ∧
    (loads text = .error .valueError ∨ loads text = .error .recursionError)

/-- Decoding returns what the body carries, fails ambiguously, or lets an exception escape. -/
theorem decodeSuccess_cases (loads : String → Except LoadsFailure Decoded) (body : ByteArray) :
    (∃ result, decodeSuccess loads body = .ok result ∧ Carries loads body result) ∨
      (decodeSuccess loads body = .error .ambiguous ∧
        ∀ text, String.fromUTF8? body = some text → loads text ≠ .error .valueError ∧
          loads text ≠ .error .recursionError) ∨
      ∃ text failure, String.fromUTF8? body = some text ∧
        (loads text = .error .valueError ∨ loads text = .error .recursionError) ∧
        decodeSuccess loads body = .error failure ∧ failure ≠ .definitive ∧
        failure ≠ .ambiguous := by
  unfold decodeSuccess
  cases htext : String.fromUTF8? body with
  | none => exact .inr (.inl ⟨rfl, by simp⟩)
  | some text =>
    dsimp only
    cases hloads : loads text with
    | error failure =>
      cases failure with
      | jsonDecodeError => exact .inr (.inl ⟨rfl, by simp [hloads]⟩)
      | valueError => exact .inr (.inr ⟨text, .valueError, rfl, .inl hloads, rfl, by simp, by simp⟩)
      | recursionError =>
        exact .inr (.inr ⟨text, .recursionError, rfl, .inr hloads, rfl, by simp, by simp⟩)
    | ok value =>
      have hquiet : ∀ other, some text = some other → loads other ≠ .error .valueError ∧
          loads other ≠ .error .recursionError := by
        rintro other hother
        rw [← Option.some.inj hother, hloads]
        simp
      cases value with
      | dict fields =>
        dsimp only
        cases hvalid : modelValidate fields with
        | some result => exact .inl ⟨result, rfl, text, fields, htext, hloads, hvalid⟩
        | none => exact .inr (.inl ⟨rfl, hquiet⟩)
      | null => exact .inr (.inl ⟨rfl, hquiet⟩)
      | bool value => exact .inr (.inl ⟨rfl, hquiet⟩)
      | int value => exact .inr (.inl ⟨rfl, hquiet⟩)
      | float bits => exact .inr (.inl ⟨rfl, hquiet⟩)
      | str text => exact .inr (.inl ⟨rfl, hquiet⟩)
      | list items => exact .inr (.inl ⟨rfl, hquiet⟩)

theorem clean_iff (token : String) (result : ExternalActionProviderResult) :
    containsString (codePoints token)
      [.list [.str result.providerReference, .dict result.result]] = false ↔
        Clean token result := by
  rw [← Bool.not_eq_true, containsString_iff]
  simp only [exists_eq_left, occurs_list, List.mem_cons, List.not_mem_nil,
    or_false, exists_eq_or_imp, not_or, Clean]

namespace HttpExternalActionProvider

variable (provider : HttpExternalActionProvider) (loads : String → Except LoadsFailure Decoded)
  (stream : List (String × String) → ExternalActionRequest → Exchange)
  (request : ExternalActionRequest)

theorem execute_of_error {failure : ProviderFailure}
    (herror : collapseLocalError
      (provider.readExchange (stream (provider.requestHeaders request) request)) =
        .error failure) : provider.execute loads stream request = .error failure := by
  unfold execute
  rw [herror]

theorem execute_of_decode_error {body : ByteArray} {failure : ProviderFailure}
    (hok : collapseLocalError
      (provider.readExchange (stream (provider.requestHeaders request) request)) = .ok body)
    (herror : decodeSuccess loads body = .error failure) :
    provider.execute loads stream request = .error failure := by
  unfold execute
  rw [hok]
  dsimp only
  rw [herror]

/-- A decoded result is returned when it is clean, and else refused. -/
theorem execute_of_decoded {body : ByteArray} {result : ExternalActionProviderResult}
    (hok : collapseLocalError
      (provider.readExchange (stream (provider.requestHeaders request) request)) = .ok body)
    (hresult : decodeSuccess loads body = .ok result) :
    (provider.execute loads stream request = .ok result ∧
      ∀ token, provider.bearerToken = some token → Clean token result) ∨
      provider.execute loads stream request = .error .ambiguous := by
  unfold execute
  rw [hok]
  dsimp only
  rw [hresult]
  cases htoken : provider.bearerToken with
  | none => exact .inl ⟨rfl, by simp⟩
  | some token =>
    dsimp only
    split_ifs with hfound
    · exact .inr rfl
    · refine .inl ⟨rfl, fun other hother ↦ ?_⟩
      rw [← Option.some.inj hother]
      exact (clean_iff token result).mp (Bool.eq_false_iff.mpr hfound)

end HttpExternalActionProvider

section Classification

variable {provider : HttpExternalActionProvider} {loads : String → Except LoadsFailure Decoded}
  {exchange : Exchange}

/-- An ambiguous failure is in order unless the status is definitive. -/
theorem classified_ambiguous
    (hcode : ∀ response, exchange = .answered response →
      response.statusCode ∉ provider.definitiveStatusCodes) :
    Classified provider loads exchange (.error .ambiguous) where
  returned := by simp
  definitive := by
    constructor
    · intro heq
      cases heq
    · rintro ⟨response, hresponse, hmem⟩
      exact absurd hmem (hcode response hresponse)
  ambiguous failure heq _ := (Except.error.inj heq).symm

/-- A readable response has no definitive status. -/
theorem Readable.not_definitive {response : HttpResponse} (hreadable : Readable provider response) :
    response.statusCode ∉ provider.definitiveStatusCodes := by
  intro hmem
  have hclient := provider.codes_client _ hmem
  have hstatus := hreadable.status
  omega

end Classification

/-- `execute` classifies an exchange exactly when no readable body makes `json.loads` raise anything
but a `JSONDecodeError`. -/
theorem execute_classified_iff (provider : HttpExternalActionProvider)
    (loads : String → Except LoadsFailure Decoded)
    (stream : List (String × String) → ExternalActionRequest → Exchange)
    (request : ExternalActionRequest) :
    Classified provider loads (stream (provider.requestHeaders request) request)
        (provider.execute loads stream request) ↔
      ¬ LoadsEscapes provider loads (stream (provider.requestHeaders request) request) := by
  generalize hexchange : stream (provider.requestHeaders request) request = exchange
  rcases readExchange_cases provider exchange with
    ⟨response, rfl, hreadable, hok⟩ | ⟨response, rfl, hcode, herror⟩ | ⟨hother, herror⟩
  · -- a body was read: what becomes of it is up to the decoder and the scan
    rw [← hexchange] at hok
    have hcode : ∀ other, Exchange.answered response = .answered other →
        other.statusCode ∉ provider.definitiveStatusCodes := by
      rintro other ⟨⟩
      exact hreadable.not_definitive
    rcases decodeSuccess_cases loads response.body with
      ⟨result, hresult, hcarries⟩ | ⟨hrefused, hquiet⟩ |
        ⟨text, failure, htext, hloads, hescaped, hdefinitive, hambiguous⟩
    · have hnone : ¬ LoadsEscapes provider loads (.answered response) := by
        rintro ⟨other, text, ⟨⟩, -, htext, hloads⟩
        obtain ⟨decoded, fields, hdecoded, hfields, -⟩ := hcarries
        rw [htext] at hdecoded
        cases hdecoded
        rw [hfields] at hloads
        simp at hloads
      refine iff_of_true ?_ hnone
      rcases provider.execute_of_decoded loads stream request hok hresult with
        ⟨hreturned, hclean⟩ | hrefused
      · rw [hreturned]
        refine ⟨fun other hother ↦ ?_, ?_, fun failure hfailure ↦ by cases hfailure⟩
        · cases hother
          exact ⟨response, rfl, hreadable, hcarries, hclean⟩
        · constructor
          · intro heq
            cases heq
          · rintro ⟨other, hanswered, hmem⟩
            exact absurd hmem (hcode other hanswered)
      · rw [hrefused]
        exact classified_ambiguous hcode
    · have hnone : ¬ LoadsEscapes provider loads (.answered response) := by
        rintro ⟨other, text, ⟨⟩, -, htext, hloads⟩
        rcases hloads with hvalue | hrecursion
        · exact (hquiet text htext).1 hvalue
        · exact (hquiet text htext).2 hrecursion
      refine iff_of_true ?_ hnone
      rw [provider.execute_of_decode_error loads stream request hok hrefused]
      exact classified_ambiguous hcode
    · refine iff_of_false (fun hclassified ↦ ?_) (not_not.mpr ?_)
      · rw [provider.execute_of_decode_error loads stream request hok hescaped] at hclassified
        exact hambiguous (hclassified.ambiguous failure rfl hdefinitive)
      · exact ⟨response, text, rfl, hreadable, htext, hloads⟩
  · rw [← hexchange] at herror
    have hnone : ¬ LoadsEscapes provider loads (.answered response) := by
      rintro ⟨other, text, ⟨⟩, hreadable, -, -⟩
      exact hreadable.not_definitive hcode
    refine iff_of_true ?_ hnone
    rw [provider.execute_of_error loads stream request herror]
    refine ⟨fun result hresult ↦ ?_, iff_of_true rfl ⟨response, rfl, hcode⟩,
      fun failure hfailure hne ↦ ?_⟩
    · cases hresult
    · exact absurd (Except.error.inj hfailure).symm hne
  · rw [← hexchange] at herror
    have hnone : ¬ LoadsEscapes provider loads exchange := by
      rintro ⟨response, text, hanswered, hreadable, -, -⟩
      exact (hother response hanswered).1 hreadable
    refine iff_of_true ?_ hnone
    rw [provider.execute_of_error loads stream request herror]
    exact classified_ambiguous fun response hresponse ↦ (hother response hresponse).2

/-! ### A number with too many digits -/

/-- A provider without a token. -/
def sampleProvider : HttpExternalActionProvider where
  endpoint := ⟨"https", "actions.test", ""⟩
  providerIdentity := "provider-account"
  bearerToken := none
  supportsIdempotency := true
  definitiveStatusCodes := [400, 409]
  timeoutSeconds := 5
  maxResponseBytes := 65536
  token_ne_empty := by decide
  codes_client := by decide
  bytes_bounded := by decide

def sampleRequest : ExternalActionRequest where
  actionId := "action-1"
  runId := "run-1"
  stepId := "call-0001"
  tenantId := "tenant-a"
  subjectId := "subject-a"
  workflowType := "generic-external-action:1.0.0"
  toolName := "create_record"
  arguments := []
  idempotencyKey := "idem-run-1-call-0001"

/-- One digit more than Python converts. -/
def longNumber : List Char := List.replicate (maxStrDigits + 1) '1'

def longBodyStart : String :=
  "\x7b\"provider_reference\": \"ref-1\", \"result\": \x7b\"count\": "

def longBodyEnd : String := "\x7d\x7d"

/-- A success that counts with that number. -/
def longBody : String := longBodyStart ++ (String.ofList longNumber ++ longBodyEnd)

/-- `json.loads` as far as the body needs it: a number that is too long is a `ValueError`. -/
def sampleLoads (text : String) : Except LoadsFailure Decoded :=
  if longNumber <:+: text.toList then .error .valueError else .error .jsonDecodeError

/-- The response with that body in one chunk. -/
def longResponse : HttpResponse :=
  ⟨200, [("Content-Type", "application/json")], [longBody.toByteArray], false⟩

def sampleStream (_ : List (String × String)) (_ : ExternalActionRequest) : Exchange :=
  .answered longResponse

theorem size_digits (count : Nat) : (List.replicate count '1').utf8Encode.size = count := by
  induction count with
  | zero => rfl
  | succ count ih =>
    have hone : (['1'].utf8Encode).size = 1 := by decide
    rw [List.replicate_succ, List.utf8Encode_cons, ByteArray.size_append, ih, hone]
    omega

theorem size_longBody : longBody.toByteArray.size = 4355 := by
  have hstart : longBodyStart.toByteArray.size = 52 := by decide +kernel
  have hend : longBodyEnd.toByteArray.size = 2 := by decide +kernel
  have hdigits : (String.ofList longNumber).toByteArray.size = maxStrDigits + 1 := by
    rw [String.toByteArray_ofList, longNumber, size_digits]
  rw [longBody, String.toByteArray_append, String.toByteArray_append, ByteArray.size_append,
    ByteArray.size_append, hstart, hend, hdigits]
  rfl

theorem body_longResponse : longResponse.body = longBody.toByteArray := by
  simp [HttpResponse.body, longResponse]

theorem readable_longResponse : Readable sampleProvider longResponse where
  status := .inl rfl
  mediaType := by decide +kernel
  length := by
    have hheader : longResponse.header "Content-Length" = none := by decide +kernel
    intro contentLength hlength
    rw [hheader] at hlength
    cases hlength
  whole := rfl
  size := by
    rw [body_longResponse, size_longBody]
    decide

theorem sampleLoads_longBody : sampleLoads longBody = .error .valueError := by
  refine if_pos ⟨longBodyStart.toList, longBodyEnd.toList, ?_⟩
  simp [longBody]

theorem fromUTF8?_toByteArray (text : String) : String.fromUTF8? text.toByteArray = some text :=
  dif_pos text.isValidUTF8

/-- Decoding lets what `json.loads` raises escape. -/
theorem decodeSuccess_of_valueError {loads : String → Except LoadsFailure Decoded} {text : String}
    (hloads : loads text = .error .valueError) :
    decodeSuccess loads text.toByteArray = .error .valueError := by
  unfold decodeSuccess
  rw [fromUTF8?_toByteArray]
  dsimp only
  rw [hloads]

/-- A success with a number of 4301 digits lets a `ValueError` escape. -/
theorem longNumber_escapes :
    sampleProvider.execute sampleLoads sampleStream sampleRequest = .error .valueError ∧
      ¬ Classified sampleProvider sampleLoads
        (sampleStream (sampleProvider.requestHeaders sampleRequest) sampleRequest)
        (sampleProvider.execute sampleLoads sampleStream sampleRequest) := by
  have hread : collapseLocalError (sampleProvider.readExchange
      (sampleStream (sampleProvider.requestHeaders sampleRequest) sampleRequest)) =
        .ok longBody.toByteArray := by
    rcases readExchange_cases sampleProvider (.answered longResponse) with
      ⟨response, ⟨⟩, -, hok⟩ | ⟨response, ⟨⟩, hcode, -⟩ | ⟨hother, -⟩
    · rw [← body_longResponse]
      exact hok
    · exact absurd hcode readable_longResponse.not_definitive
    · exact absurd readable_longResponse (hother longResponse rfl).1
  have hdecode : decodeSuccess sampleLoads longBody.toByteArray = .error .valueError :=
    decodeSuccess_of_valueError sampleLoads_longBody
  have hescaped : sampleProvider.execute sampleLoads sampleStream sampleRequest =
      .error .valueError :=
    sampleProvider.execute_of_decode_error sampleLoads sampleStream sampleRequest hread hdecode
  refine ⟨hescaped, fun hclassified ↦ ?_⟩
  have hambiguous := hclassified.ambiguous .valueError hescaped (by decide)
  cases hambiguous

end AgentRuntime.Providers
