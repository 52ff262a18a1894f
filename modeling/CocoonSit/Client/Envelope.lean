import CocoonSit.Prompts.Renderer

/-!
# The response envelope

`ApiEnvelopeMiddleware` puts every JSON answer under the API prefix into an object with the keys
`code`, `msg` and `data`, and the clients take it out again.  Both ends know an envelope by its
keys: an answer that has them is taken for an envelope that a route has built.  Bodies are JSON
values here; the text they travel as is left out.
-/

namespace CocoonSit.Client

/-- A JSON value in an answer. -/
abbrev JsonBody := PromptValue

/-- An HTTP response: `none` is an empty body. -/
structure Response where
  status : ℕ
  isJson : Bool := true
  body : Option JsonBody

/-! ## Envelopes -/

def successCodes : List (ℕ × String × String) :=
  [(200, "OK", "ok"), (201, "CREATED", "created"), (202, "ACCEPTED", "accepted"),
    (204, "NO_CONTENT", "no content")]

def fallbackErrorCodes : List (ℕ × String) :=
  [(400, "BAD_REQUEST"), (401, "UNAUTHORIZED"), (403, "FORBIDDEN"), (404, "NOT_FOUND"),
    (409, "CONFLICT"), (422, "VALIDATION_ERROR"), (500, "INTERNAL_SERVER_ERROR"),
    (502, "BAD_GATEWAY"), (503, "SERVICE_UNAVAILABLE")]

def errorCodeOverrides : List (String × String) :=
  [("Missing bearer token", "AUTH_MISSING_BEARER"),
    ("Invalid credentials", "AUTH_INVALID_CREDENTIALS"),
    ("Invalid refresh token", "AUTH_INVALID_REFRESH_TOKEN"),
    ("Unknown refresh token", "AUTH_UNKNOWN_REFRESH_TOKEN"),
    ("Invalid token", "AUTH_INVALID_TOKEN"),
    ("Inactive user", "AUTH_INACTIVE_USER"),
    ("User account is inactive", "AUTH_USER_INACTIVE"),
    ("Registration is unavailable", "AUTH_REGISTRATION_UNAVAILABLE"),
    ("Registration is disabled", "AUTH_REGISTRATION_DISABLED"),
    ("Invite quota exceeded", "INVITE_QUOTA_EXCEEDED")]

def envelope (code msg : String) (data : JsonBody) : JsonBody :=
  .dict [("code", .str code), ("msg", .str msg), ("data", data)]

def buildSuccessEnvelope (statusCode : ℕ) (data : JsonBody) : JsonBody :=
  let (code, msg) := (successCodes.lookup statusCode).getD ("OK", "ok")
  envelope code msg data

/-- `is_api_envelope`, and `isApiEnvelope` of the SDK. -/
def isApiEnvelope : JsonBody → Bool
  | .dict items => ["code", "msg", "data"].all fun key => (items.lookup key).isSome
  | _ => false

/-! ## Errors -/

section Errors

-- `str.upper`, and `str` of what is not a string
variable (upper : String → String) (pyStr : JsonBody → String)

/-- `a or b`. -/
def orValue (a b : JsonBody) : JsonBody := if a.truthy then a else b

lemma sizeOf_lookupItem_lt (items : List (String × PromptValue)) (key : String) :
    sizeOf (lookupItem items key) < sizeOf (PromptValue.dict items) := by
  rw [PromptValue.dict.sizeOf_spec, lookupItem]
  induction items with
  | nil => simp
  | cons item items ih =>
    obtain ⟨k, v⟩ := item
    rw [List.lookup_cons, List.cons.sizeOf_spec, Prod.mk.sizeOf_spec]
    split
    · simp only [Option.getD_some]
      omega
    · omega

lemma sizeOf_orValue_lt {a b : JsonBody} {n : ℕ} (ha : sizeOf a < n) (hb : sizeOf b < n) :
    sizeOf (orValue a b) < n := by
  unfold orValue
  split
  · exact ha
  · exact hb

def messageFromDetail (detail : JsonBody) : Option String :=
  match detail with
  | .str text => some text
  | .dict items =>
    messageFromDetail (orValue (orValue (lookupItem items "msg") (lookupItem items "message"))
      (lookupItem items "detail"))
  | .list _ => none
  | .null => none
  | value => some (pyStr value)
termination_by sizeOf detail
decreasing_by
  exact sizeOf_orValue_lt (sizeOf_orValue_lt (sizeOf_lookupItem_lt _ _) (sizeOf_lookupItem_lt _ _))
    (sizeOf_lookupItem_lt _ _)

/-- `re.sub(r"[^A-Z0-9]+", "_", …)`; the flag says that an underscore stands for what is left
out. -/
def squeeze : Bool → List Char → List Char
  | _, [] => []
  | open_, c :: cs =>
    if c.isUpper ∨ c.isDigit then c :: squeeze false cs
    else if open_ then squeeze true cs
    else '_' :: squeeze true cs

def normalizeCodeToken (message : String) : String :=
  let token := squeeze false (upper message).toList
  String.ofList (((token.dropWhile (· = '_')).rdropWhile (· = '_')).take 96)

example : normalizeCodeToken id "INVITE  NOT FOUND!" = "INVITE_NOT_FOUND" := by decide +kernel

/-- `str.title` on letters and spaces. -/
def titleFrom : Bool → List Char → List Char
  | _, [] => []
  | inWord, c :: cs =>
    (if inWord then c.toLower else c.toUpper) :: titleFrom c.isAlpha cs

/-- `_FALLBACK_ERROR_CODES.get(status_code, "INTERNAL_SERVER_ERROR")`. -/
def fallbackErrorCode (statusCode : ℕ) : String :=
  (fallbackErrorCodes.lookup statusCode).getD "INTERNAL_SERVER_ERROR"

def defaultErrorMessage (statusCode : ℕ) : String :=
  let words := (fallbackErrorCode statusCode).toList.map fun c => if c = '_' then ' ' else c
  String.ofList (titleFrom false words)

example : defaultErrorMessage 404 = "Not Found" := by decide +kernel

def codeFromDetail (statusCode : ℕ) (detail : JsonBody) (message : String) : String :=
  let derived :=
    let token := normalizeCodeToken upper message
    if token = "" then fallbackErrorCode statusCode else token
  match detail with
  | .list _ => "VALIDATION_ERROR"
  | .str text => (errorCodeOverrides.lookup text).getD derived
  | _ => derived

/-- `build_error_envelope(status_code, detail=detail)`. -/
def buildErrorEnvelope (statusCode : ℕ) (detail : JsonBody) : JsonBody :=
  let msg := ((messageFromDetail pyStr detail).filter (· ≠ "")).getD
    (defaultErrorMessage statusCode)
  envelope (codeFromDetail upper statusCode detail msg) msg .null

def extractDetail (payload : JsonBody) : JsonBody :=
  match payload with
  | .dict items => (items.lookup "detail").getD payload
  | _ => payload

/-! ## The middleware -/

/-- `ApiEnvelopeMiddleware.dispatch`, after `call_next`. -/
def dispatch (isApiRequest : Bool) (response : Response) : Response :=
  if isApiRequest && response.isJson then
    let payload := response.body.getD .null
    if isApiEnvelope payload then { response with body := some payload }
    else if 400 ≤ response.status then
      { response with
        body := some (buildErrorEnvelope upper pyStr response.status (extractDetail payload)) }
    else { response with body := some (buildSuccessEnvelope response.status payload) }
  else response

end Errors

/-! ## The clients -/

/-- `data.data`. -/
def dataOf : JsonBody → JsonBody
  | .dict items => lookupItem items "data"
  | _ => .null

def Response.ok (response : Response) : Bool := 200 ≤ response.status && response.status < 300

/-- `CocoonApiClient.request`; `none` is an `ApiError`. -/
def sdkRequest (response : Response) : Option JsonBody :=
  let data := response.body.getD .null
  if !response.ok then none
  else some (if isApiEnvelope data then dataOf data else data)

/-- The test of `apiJson`. -/
def hasEnvelopeKeys : JsonBody → Bool
  | .dict items =>
    (items.lookup "data").isSome && (items.lookup "code").isSome && (items.lookup "msg").isSome
  | _ => false

/-- `apiJson`; `none` is an error. -/
def apiJson (response : Response) : Option JsonBody :=
  let payload := response.body.getD .null
  if !response.ok then none
  else if hasEnvelopeKeys payload then some (dataOf payload)
  else some payload

/-! ## What comes through -/

/-- What a route answers with a value, with or without an envelope of its own. -/
def routeResponse (status : ℕ) (enveloped : Bool) (value : JsonBody) : Response where
  status := status
  body := some (if enveloped then buildSuccessEnvelope status value else value)

section Received

variable {upper : String → String} {pyStr : JsonBody → String} {status : ℕ} {value : JsonBody}
  {response : Response}

@[simp] lemma isApiEnvelope_envelope (code msg : String) (data : JsonBody) :
    isApiEnvelope (envelope code msg data) = true := by
  rfl

@[simp] lemma dataOf_envelope (code msg : String) (data : JsonBody) :
    dataOf (envelope code msg data) = data := by
  rfl

lemma hasEnvelopeKeys_eq (value : JsonBody) : hasEnvelopeKeys value = isApiEnvelope value := by
  cases value with
  | dict items =>
    simp only [hasEnvelopeKeys, isApiEnvelope, List.all_cons, List.all_nil, Bool.and_true]
    rw [Bool.and_assoc, Bool.and_comm, Bool.and_assoc]
  | _ => rfl

lemma apiJson_eq_sdkRequest (response : Response) : apiJson response = sdkRequest response := by
  simp only [apiJson, sdkRequest, hasEnvelopeKeys_eq, apply_ite some]

lemma dataOf_ne (h : isApiEnvelope value = true) : dataOf value ≠ value := by
  cases value with
  | dict items =>
    intro heq
    have hlt := sizeOf_lookupItem_lt items "data"
    rw [dataOf] at heq
    rw [heq] at hlt
    exact lt_irrefl _ hlt
  | _ => cases h

lemma ok_dispatch (upper : String → String) (pyStr : JsonBody → String) (response : Response) :
    (dispatch upper pyStr true response).ok = response.ok := by
  unfold dispatch
  split
  · dsimp only
    split
    · rfl
    · split <;> rfl
  · rfl

lemma body_dispatch_of_ok (upper : String → String) (pyStr : JsonBody → String)
    (hjson : response.isJson = true) (hok : response.ok = true) :
    (dispatch upper pyStr true response).body =
      some (if isApiEnvelope (response.body.getD .null) then response.body.getD .null
        else buildSuccessEnvelope response.status (response.body.getD .null)) := by
  have hstatus : ¬ 400 ≤ response.status := by
    simp only [Response.ok, Bool.and_eq_true, decide_eq_true_eq] at hok
    omega
  simp only [dispatch, hjson, Bool.and_true, if_true, if_neg hstatus]
  split <;> rfl

lemma sdkRequest_routeResponse (upper : String → String) (pyStr : JsonBody → String)
    (hok : 200 ≤ status ∧ status < 300) (enveloped : Bool) (value : JsonBody) :
    sdkRequest (dispatch upper pyStr true (routeResponse status enveloped value)) =
      some (if enveloped || !isApiEnvelope value then value else dataOf value) := by
  have hresponse : (routeResponse status enveloped value).ok = true := by
    simp [Response.ok, routeResponse, hok]
  have hdispatch := ok_dispatch upper pyStr (routeResponse status enveloped value)
  rw [hresponse] at hdispatch
  rw [sdkRequest, hdispatch, body_dispatch_of_ok upper pyStr rfl hresponse]
  cases enveloped <;> cases henv : isApiEnvelope value <;>
    simp [routeResponse, henv, buildSuccessEnvelope]

/-- Both clients receive what a route returns with a success, in an envelope of the route's or in
the middleware's, unless it is a body with the keys of an envelope that the route has not put into
one: of that they receive the `data`, which is something else. -/
theorem received_of_success (upper : String → String) (pyStr : JsonBody → String) (status : ℕ)
    (hok : 200 ≤ status ∧ status < 300) (enveloped : Bool) (value : JsonBody) :
    let response := dispatch upper pyStr true (routeResponse status enveloped value)
    apiJson response = sdkRequest response ∧
      (enveloped = true ∨ isApiEnvelope value = false → sdkRequest response = some value) ∧
      (enveloped = false → isApiEnvelope value = true →
        sdkRequest response = some (dataOf value) ∧ dataOf value ≠ value) := by
  have hreceived := sdkRequest_routeResponse upper pyStr hok enveloped value
  refine ⟨apiJson_eq_sdkRequest _, ?_, ?_⟩
  · rintro (rfl | hbare)
    · rw [hreceived, Bool.true_or, if_pos rfl]
    · rw [hreceived, hbare, Bool.not_false, Bool.or_true, if_pos rfl]
  · rintro rfl henv
    refine ⟨?_, dataOf_ne henv⟩
    rw [hreceived, henv]
    rfl

/-- A body with an object in it. -/
theorem received_of_success_ok :
    sdkRequest (dispatch id (fun _ => "") true
      (routeResponse 200 false (.dict [("value", .int 1)]))) = some (.dict [("value", .int 1)]) :=
  (received_of_success id (fun _ => "") 200 ⟨by decide, by decide⟩ false
    (.dict [("value", .int 1)])).2.1 (.inr rfl)

/-- Of a body that looks like an envelope the clients receive a part. -/
theorem lookalike_not_received :
    ¬ ∀ (upper : String → String) (pyStr : JsonBody → String) (status : ℕ) (enveloped : Bool)
      (value : JsonBody), 200 ≤ status ∧ status < 300 →
      sdkRequest (dispatch upper pyStr true (routeResponse status enveloped value)) =
        some value := by
  intro h
  have hbody := h id (fun _ => "") 200 false (envelope "E1" "sensor" (.int 7))
    ⟨by decide, by decide⟩
  rw [sdkRequest_routeResponse id _ ⟨by decide, by decide⟩] at hbody
  cases hbody

end Received

end CocoonSit.Client
