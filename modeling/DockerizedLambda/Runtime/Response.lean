import DockerizedLambda.Runtime.Handler

/-! The header fields of the responses that the runtime builds: what the handler's header map
adds to the metadata, and when the metadata is left alone. -/

namespace DockerizedLambda

open Multimap

theorem CustomHeader.plainName_asRef (header : CustomHeader) : plainName header.asRef := by
  cases header <;> decide +kernel

theorem CustomHeader.lowercase_asRef (header : CustomHeader) :
    asciiLowercase header.asRef = header.asRef := by
  cases header <;> decide +kernel

def LambdaResponse.fields (r : LambdaResponse) : List (String × String) :=
  match r.headers with
  | some headers => pairs headers
  | none => []

def LambdaResponse.storedFields (r : LambdaResponse) : List (String × String) :=
  r.fields.map storedField

namespace LambdaHandler

def metadata (c : Crates) (r : LambdaResponse) : List (String × String) :=
  [(CustomHeader.lambdaRequestId.asRef, c.uuidToString r.requestId),
    (CustomHeader.lambdaExecutionTimeMs.asRef, toString (asMillis r.executionTimeMs))]

def iterated (c : Crates) (r : LambdaResponse) : List (String × String) :=
  match r.headers with
  | some headers => c.intoIter headers
  | none => []

def hasContentType (c : Crates) (fields : List (String × String)) : Bool :=
  fields.any fun field => c.unicode.toLowercase field.1 = contentType

def sentFields (c : Crates) (r : LambdaResponse) : List (String × String) :=
  metadata c r ++ iterated c r ++
    if hasContentType c (iterated c r) then [] else [(contentType, "application/json")]

def defaultContentType (r : LambdaResponse) : List (String × String) :=
  if valuesAt contentType r.storedFields = [] then [(contentType, "application/json")] else []

variable {c : Crates} {r : LambdaResponse} {response : Response}
variable {fields : List (String × String)}

theorem hasContentType_cons (field : String × String) : hasContentType c (field :: fields) =
    (decide (c.unicode.toLowercase field.1 = contentType) || hasContentType c fields) := rfl

theorem addHeader_flag (state : Builder × Bool) (field : String × String) :
    (addHeader c state field).2 =
      (state.2 || decide (c.unicode.toLowercase field.1 = contentType)) := by
  unfold addHeader
  by_cases hname : c.unicode.toLowercase field.1 = contentType
  · rw [if_pos hname, decide_eq_true hname, Bool.or_true]
  · rw [if_neg hname, decide_eq_false hname, Bool.or_false]

theorem foldl_addHeader (state : Builder × Bool) (fields : List (String × String)) :
    fields.foldl (addHeader c) state =
      (state.1.headers c.http fields, state.2 || hasContentType c fields) := by
  induction fields generalizing state with
  | nil => exact Prod.ext rfl (Bool.or_false _).symm
  | cons field fields ih =>
    rw [List.foldl_cons, ih, addHeader_flag, hasContentType_cons, Bool.or_assoc]
    rfl

theorem status_eq (code : StatusCode) : Builder.new.status code.code = .ok ⟨code.code, []⟩ := by
  show (if 100 ≤ code.code ∧ code.code < 1000 then _ else _) = _
  rw [if_pos code.inRange]

theorem addHeaders_eq (builder : Builder) : addHeaders c builder r.headers =
    (builder.headers c.http (iterated c r), hasContentType c (iterated c r)) := by
  unfold iterated
  cases r.headers with
  | none => rfl
  | some headers => exact (foldl_addHeader _ _).trans (Prod.ext rfl (Bool.false_or _))

theorem default_headers (builder : Builder) :
    (if hasContentType c fields then builder
      else builder.header c.http contentType "application/json") =
    builder.headers c.http
      (if hasContentType c fields then [] else [(contentType, "application/json")]) := by
  split <;> rfl

theorem buildHttpResponse_eq : buildHttpResponse c r =
    ((Builder.headers c.http (.ok ⟨r.statusCode.code, []⟩) (sentFields c r)).body
      (Utf8.encode r.body)).mapError fun e =>
        .responseBuilding ("Failed to build response: " ++ c.http.display e) := by
  unfold buildHttpResponse
  dsimp only
  rw [status_eq, addHeaders_eq]
  dsimp only
  rw [default_headers, sentFields, Builder.headers_append, Builder.headers_append]
  have hmetadata : Builder.header c.http (Builder.header c.http (.ok ⟨r.statusCode.code, []⟩)
      CustomHeader.lambdaRequestId.asRef (c.uuidToString r.requestId))
      CustomHeader.lambdaExecutionTimeMs.asRef (toString (asMillis r.executionTimeMs)) =
    Builder.headers c.http (.ok ⟨r.statusCode.code, []⟩) (metadata c r) := rfl
  rw [hmetadata]
  cases (((Builder.headers c.http (.ok ⟨r.statusCode.code, []⟩) (metadata c r)).headers
    c.http (iterated c r)).headers c.http (if hasContentType c (iterated c r) then [] else
      [(contentType, "application/json")])).body (Utf8.encode r.body) <;> rfl

theorem buildHttpResponse_eq_ok (h : buildHttpResponse c r = .ok response) :
    (∀ field ∈ sentFields c r, c.http.accepts field) ∧
      response = ⟨⟨r.statusCode.code, (sentFields c r).map storedField⟩, Utf8.encode r.body⟩ := by
  rw [buildHttpResponse_eq] at h
  cases hparts : Builder.headers c.http (.ok ⟨r.statusCode.code, []⟩) (sentFields c r) with
  | error e =>
    rw [hparts] at h
    exact absurd h nofun
  | ok parts =>
    obtain ⟨haccepts, rfl⟩ := Builder.headers_eq_ok hparts
    rw [hparts] at h
    exact ⟨haccepts, (Except.ok.inj h).symm⟩

theorem buildHttpResponse_accepted (hc : c.http.Lawful)
    (ha : ∀ field ∈ sentFields c r, c.http.accepts field)
    (hroom : (sentFields c r).length ≤ c.http.maxFields) : buildHttpResponse c r =
      .ok ⟨⟨r.statusCode.code, (sentFields c r).map storedField⟩, Utf8.encode r.body⟩ := by
  rw [buildHttpResponse_eq, Builder.headers_accepted hc ha]
  · rfl
  · rw [List.length_nil, Nat.zero_add]
    exact hroom

/-! ### Against the handler's header map -/

theorem iterated_perm (hc : c.Lawful) : (iterated c r).Perm r.fields := by
  unfold iterated LambdaResponse.fields
  cases r.headers with
  | none => rfl
  | some headers => exact hc.intoIter_perm headers

theorem visibleText_toString (n : Nat) : visibleText (toString n) := by
  apply List.all_eq_true.mpr
  intro ch hch
  have hdigit : ch.isDigit := Nat.isDigit_of_mem_toDigits (by decide) (by decide)
    (Nat.toList_repr ▸ hch)
  obtain ⟨hlow, hhigh⟩ := (Bool.and_eq_true _ _).mp hdigit
  have hlow' : ' ' ≤ ch := le_trans (by decide : ' ' ≤ '0') (of_decide_eq_true hlow)
  have hhigh' : ch ≤ '~' := le_trans (of_decide_eq_true hhigh) (by decide : '9' ≤ '~')
  exact (Bool.and_eq_true _ _).mpr ⟨decide_eq_true hlow', decide_eq_true hhigh'⟩

theorem accepts_of_plain (hc : c.http.Lawful) {name value : String} (hname : plainName name)
    (hvalue : visibleText value) : c.http.accepts (name, value) :=
  (Bool.and_eq_true _ _).mpr ⟨hc.validName_of_plain _ hname, hc.validValue_of_visible _ hvalue⟩

theorem accepts_metadata (hc : c.Lawful) : ∀ field ∈ metadata c r, c.http.accepts field := by
  intro field hfield
  rcases List.mem_cons.mp hfield with rfl | hfield
  · exact accepts_of_plain hc.http (CustomHeader.plainName_asRef _) (hc.uuid_visible _)
  · rw [List.mem_singleton.mp hfield]
    exact accepts_of_plain hc.http (CustomHeader.plainName_asRef _) (visibleText_toString _)

theorem accepts_json (hc : c.Lawful) : c.http.accepts (contentType, "application/json") :=
  accepts_of_plain hc.http (by decide +kernel) (by decide +kernel)

theorem accepts_sentFields (hc : c.Lawful) :
    (∀ field ∈ sentFields c r, c.http.accepts field) ↔
      ∀ field ∈ r.fields, c.http.accepts field := by
  constructor
  · intro h field hfield
    have hmem : field ∈ iterated c r := (iterated_perm hc).mem_iff.mpr hfield
    exact h field (List.mem_append_left _ (List.mem_append_right _ hmem))
  · intro h field hfield
    rcases List.mem_append.mp hfield with hfield | hfield
    · rcases List.mem_append.mp hfield with hfield | hfield
      · exact accepts_metadata hc field hfield
      · exact h field ((iterated_perm hc).mem_iff.mp hfield)
    · split at hfield
      · exact absurd hfield List.not_mem_nil
      · rw [List.mem_singleton.mp hfield]
        exact accepts_json hc

theorem hasContentType_iff (hascii : ∀ field ∈ fields, IsAscii field.1) :
    hasContentType c fields ↔ valuesAt contentType (fields.map storedField) ≠ [] := by
  -- the comparison of the loop is the one of the header map: the names are ASCII
  rw [Ne, valuesAt_eq_nil, List.forall_mem_map, hasContentType, List.any_eq_true]
  push Not
  constructor
  · rintro ⟨field, hfield, hname⟩
    refine ⟨field, hfield, ?_⟩
    rw [← of_decide_eq_true hname, UnicodeTables.toLowercase_ascii (hascii field hfield)]
    rfl
  · rintro ⟨field, hfield, hname⟩
    refine ⟨field, hfield, decide_eq_true ?_⟩
    rw [UnicodeTables.toLowercase_ascii (hascii field hfield)]
    exact hname

theorem storedFields_perm (hc : c.Lawful) :
    ((iterated c r).map storedField).Perm r.storedFields := (iterated_perm hc).map storedField

theorem hasContentType_iterated (hc : c.Lawful)
    (ha : ∀ field ∈ r.fields, c.http.accepts field) :
    hasContentType c (iterated c r) ↔ valuesAt contentType r.storedFields ≠ [] := by
  have hascii : ∀ field ∈ iterated c r, IsAscii field.1 := by
    intro field hfield
    have haccepts := ha field ((iterated_perm hc).mem_iff.mp hfield)
    exact hc.http.ascii_of_validName _ ((Bool.and_eq_true _ _).mp haccepts).1
  have hperm := valuesAt_perm contentType (storedFields_perm (r := r) hc)
  rw [hasContentType_iff hascii, Ne, Ne, ← List.length_eq_zero_iff, ← List.length_eq_zero_iff,
    hperm.length_eq]

theorem sentFields_perm (hc : c.Lawful) (ha : ∀ field ∈ r.fields, c.http.accepts field) :
    ((sentFields c r).map storedField).Perm
      (metadata c r ++ r.storedFields ++ defaultContentType r) := by
  have hmetadata : (metadata c r).map storedField = metadata c r := by
    simp only [metadata, List.map_cons, List.map_nil, storedField, CustomHeader.lowercase_asRef]
  have hdefault : (if hasContentType c (iterated c r) then []
      else [(contentType, "application/json")]).map storedField = defaultContentType r := by
    unfold defaultContentType
    by_cases h : hasContentType c (iterated c r)
    · rw [if_pos h, if_neg ((hasContentType_iterated hc ha).mp h)]
      rfl
    · rw [if_neg h, if_pos (not_not.mp fun hne => h ((hasContentType_iterated hc ha).mpr hne))]
      decide +kernel
  rw [sentFields, List.map_append, List.map_append, hmetadata, hdefault]
  exact ((storedFields_perm hc).append_left _).append_right _

/-! ### Crates that are lawful -/

def hyphenated (id : Uuid) : String :=
  String.ofList ((List.range 32).flatMap fun i =>
    (if i = 8 ∨ i = 12 ∨ i = 16 ∨ i = 20 then ['-'] else []) ++
      [Nat.digitChar (id.toNat / 16 ^ (31 - i) % 16)])

def invokeRequest : LambdaRequest where
  requestId := 7
  method := "GET"
  path := "/"
  queryParameters := ∅
  headers := ∅
  body := ""
  remoteAddr := none
  timestamp := 0

def invokeJson : String :=
  "\x7b\"request_id\":\"00000000-0000-0000-0000-000000000007\",\"method\":\"GET\"," ++
  "\"path\":\"/\",\"query_parameters\":\x7b\x7d,\"headers\":\x7b\x7d," ++
  "\"body\":\"\",\"remote_addr\":null,\"timestamp\":\"1970-01-01T00:00:00Z\"\x7d"

/-- The crates on ASCII names, a single request and texts that need no escapes. -/
def plainCrates : Crates where
  http := HttpCrate.tokens
  unicode := ⟨fun ch => [ch], fun _ => false, Char.isAlpha⟩
  uuidToString := hyphenated
  intoIter := pairs
  utf8Error _ := "invalid utf-8 sequence of 1 bytes from index 0"
  fromStr text := if text = invokeJson then .ok invokeRequest else .error "expected value"
  jsonString text := "\"" ++ text ++ "\""

theorem visibleText_hyphenated (id : Uuid) : visibleText (hyphenated id) := by
  have hdigits : ∀ n < 16, ' ' ≤ Nat.digitChar n ∧ Nat.digitChar n ≤ '~' := by decide
  apply List.all_eq_true.mpr
  intro ch hch
  rw [hyphenated, String.toList_ofList] at hch
  obtain ⟨i, -, hch⟩ := List.mem_flatMap.mp hch
  rcases List.mem_append.mp hch with hch | hch
  · split at hch
    · rw [List.mem_singleton.mp hch]
      decide
    · exact absurd hch List.not_mem_nil
  · obtain ⟨hlow, hhigh⟩ := hdigits _ (Nat.mod_lt (id.toNat / 16 ^ (31 - i)) (by decide))
    rw [List.mem_singleton.mp hch]
    exact (Bool.and_eq_true _ _).mpr ⟨decide_eq_true hlow, decide_eq_true hhigh⟩

theorem plainCrates_lawful : plainCrates.Lawful where
  http := HttpCrate.tokens_lawful
  uuid_visible := visibleText_hyphenated
  intoIter_perm _ := List.Perm.refl _

theorem parseRequest_invokeJson :
    parseRequest plainCrates (.ok (Utf8.encode invokeJson)) = .ok invokeRequest := by
  have hfrom : plainCrates.fromStr invokeJson = .ok invokeRequest := by
    unfold plainCrates
    dsimp only
    rw [if_pos rfl]
  unfold parseRequest
  dsimp only
  rw [Utf8.decode_encode]
  dsimp only
  rw [hfrom]

def plainResponse : LambdaResponse where
  statusCode := ⟨200, by decide⟩
  headers := some (collect [("Content-Type", "text/plain"), ("Cache-Control", "no-store")])
  body := "ok"
  requestId := 7
  executionTimeMs := 5000000

def refusedResponse : LambdaResponse :=
  { plainResponse with headers := some (collect [("bad name", "x"), ("x-tag", "a")]) }

/-! ### What the runtime answers -/

theorem sentFields_length (hc : c.Lawful) : (sentFields c r).length ≤ r.fields.length + 3 := by
  rw [sentFields, List.length_append, List.length_append, (iterated_perm hc).length_eq]
  have hdefault : (if hasContentType c (iterated c r) then []
      else [(contentType, "application/json")]).length ≤ 1 := by
    split
    · exact Nat.zero_le 1
    · exact le_refl 1
  have hmetadata : (metadata c r).length = 2 := rfl
  omega

theorem buildHttpResponse_refused (hc : c.Lawful) {taken rest : List (String × String)}
    {field : String × String} (hsplit : iterated c r = taken ++ field :: rest)
    (htaken : ∀ before ∈ taken, c.http.accepts before) (hrefused : ¬ c.http.accepts field)
    (hroom : (sentFields c r).length ≤ c.http.maxFields) : buildHttpResponse c r =
      .error (.responseBuilding
        ("Failed to build response: " ++ c.http.display (c.http.refusal field))) := by
  -- the metadata is taken, so the first refused field is one of the handler's
  have hsent : sentFields c r = (metadata c r ++ taken) ++ field :: (rest ++
      if hasContentType c (iterated c r) then [] else [(contentType, "application/json")]) := by
    unfold sentFields
    generalize (if hasContentType c (iterated c r) then [] else
      [(contentType, "application/json")]) = default
    rw [hsplit, List.append_assoc, List.append_assoc, List.cons_append, List.append_assoc]
  rw [hsent, List.length_append] at hroom
  have hbefore : ∀ before ∈ metadata c r ++ taken, c.http.accepts before :=
    List.forall_mem_append.mpr ⟨accepts_metadata hc, htaken⟩
  rw [buildHttpResponse_eq, hsent, Builder.headers_refused hc.http hbefore hrefused]
  · rfl
  · rw [List.length_nil, Nat.zero_add]
    exact (Nat.le_add_right _ _).trans hroom

theorem processInvoke_eq {handler : LambdaHandler} {body : Except String Bytes}
    {handlerDuration : Nat} {request : LambdaRequest}
    (hrequest : parseRequest c body = .ok request) : processInvoke c handler body handlerDuration =
      buildHttpResponse c { handler.userHandler request with
        executionTimeMs := handlerDuration
        requestId := request.requestId } := by
  rw [processInvoke, hrequest]

theorem errorBody_responseBuilding (message : String) :
    errorBody c (.responseBuilding message) =
      "\x7b\"error\":" ++ c.jsonString ("Response building error: " ++ message) ++ "\x7d" := rfl

theorem errorResponse_eq (hc : c.Lawful) (hroom : 0 < c.http.maxFields) (error : RuntimeError) :
    errorResponse c error =
      .ok ⟨⟨500, [(contentType, "application/json")]⟩, Utf8.encode (errorBody c error)⟩ := by
  have hstored : storedField (contentType, "application/json") =
      (contentType, "application/json") := by decide +kernel
  have hheader : Builder.header c.http (.ok ⟨500, []⟩) contentType "application/json" =
      .ok ⟨500, [storedField (contentType, "application/json")]⟩ :=
    Builder.header_accepted hc.http (accepts_json hc) hroom
  show (Builder.header c.http (.ok ⟨500, []⟩) contentType "application/json").body _ = _
  rw [hheader, hstored]
  rfl

theorem handleInvoke_error (hc : c.Lawful) (hroom : 0 < c.http.maxFields) {handler : LambdaHandler}
    {body : Except String Bytes} {handlerDuration : Nat} {error : RuntimeError}
    (h : processInvoke c handler body handlerDuration = .error error) :
    handleInvoke c handler body handlerDuration =
      .ok ⟨⟨500, [(contentType, "application/json")]⟩, Utf8.encode (errorBody c error)⟩ := by
  rw [handleInvoke, h]
  exact errorResponse_eq hc hroom error

theorem response_exact (hc : c.Lawful) (r : LambdaResponse)
    (hcount : r.fields.length + 3 ≤ c.http.maxFields) :
    ((∃ response, buildHttpResponse c r = .ok response) ↔
      ∀ field ∈ r.fields, c.http.accepts field) ∧
    (∀ response, buildHttpResponse c r = .ok response →
      response.parts.status = r.statusCode.code ∧ response.body = Utf8.encode r.body ∧
      response.parts.headers.Perm (metadata c r ++ r.storedFields ++ defaultContentType r)) ∧
    ((¬ ∀ field ∈ r.fields, c.http.accepts field) → ∃ taken field rest,
      iterated c r = taken ++ field :: rest ∧ (∀ before ∈ taken, c.http.accepts before) ∧
      ¬ c.http.accepts field ∧ ∃ e : HttpError,
      e = (if c.http.validName field.1 then .invalidHeaderValue else .invalidHeaderName) ∧
      buildHttpResponse c r =
        .error (.responseBuilding ("Failed to build response: " ++ c.http.display e)) ∧
      ∀ (handler : LambdaHandler) body handlerDuration request,
        parseRequest c body = .ok request →
        { handler.userHandler request with
          executionTimeMs := handlerDuration
          requestId := request.requestId } = r →
        handleInvoke c handler body handlerDuration =
          .ok ⟨⟨500, [("content-type", "application/json")]⟩,
            Utf8.encode ("\x7b\"error\":" ++ c.jsonString
              ("Response building error: " ++
                ("Failed to build response: " ++ c.http.display e)) ++ "\x7d")⟩) := by
  have haccepted : (∃ response, buildHttpResponse c r = .ok response) ↔
      ∀ field ∈ r.fields, c.http.accepts field := by
    rw [← accepts_sentFields hc]
    constructor
    · rintro ⟨response, hresponse⟩
      exact (buildHttpResponse_eq_ok hresponse).1
    · intro ha
      exact ⟨_, buildHttpResponse_accepted hc.http ha ((sentFields_length hc).trans hcount)⟩
  refine ⟨haccepted, ?_, ?_⟩
  · intro response hresponse
    have ha := haccepted.mp ⟨response, hresponse⟩
    obtain ⟨-, rfl⟩ := buildHttpResponse_eq_ok hresponse
    exact ⟨rfl, rfl, sentFields_perm hc ha⟩
  · intro hrefused
    have hiterated : ¬ ∀ field ∈ iterated c r, c.http.accepts field := fun ha =>
      hrefused fun field hfield => ha field ((iterated_perm hc).mem_iff.mpr hfield)
    obtain ⟨taken, field, rest, hsplit, htaken, hfield⟩ :=
      HttpCrate.exists_first_refused hiterated
    have herror := buildHttpResponse_refused hc hsplit htaken hfield
      ((sentFields_length hc).trans hcount)
    refine ⟨taken, field, rest, hsplit, htaken, hfield, c.http.refusal field, rfl, herror, ?_⟩
    rintro handler body handlerDuration request hrequest rfl
    have hanswer := handleInvoke_error hc (by omega) ((processInvoke_eq hrequest).trans herror)
    rw [errorBody_responseBuilding] at hanswer
    exact hanswer

theorem response_exact_on_plain_and_refused :
    (∃ response, buildHttpResponse plainCrates plainResponse = .ok response ∧
      response.parts.headers.Perm (metadata plainCrates plainResponse ++
        [("content-type", "text/plain"), ("cache-control", "no-store")])) ∧
    handleInvoke plainCrates ⟨fun _ => refusedResponse⟩ (.ok (Utf8.encode invokeJson)) 5000000 =
      .ok ⟨⟨500, [("content-type", "application/json")]⟩, Utf8.encode
        ("\x7b\"error\":\"Response building error: Failed to build response: " ++
          "invalid HTTP header name\"\x7d")⟩ := by
  obtain ⟨hok, hbuilt, -⟩ := response_exact plainCrates_lawful plainResponse (by decide +kernel)
  obtain ⟨-, -, hrefused⟩ := response_exact plainCrates_lawful refusedResponse (by decide +kernel)
  constructor
  · obtain ⟨response, hresponse⟩ := hok.mpr (by decide +kernel)
    refine ⟨response, hresponse, (hbuilt response hresponse).2.2.trans ?_⟩
    decide +kernel
  · obtain ⟨taken, field, rest, hsplit, -, hfield, e, he, -, hanswer⟩ :=
      hrefused (by decide +kernel)
    have honly : ∀ field ∈ iterated plainCrates refusedResponse,
        ¬ plainCrates.http.accepts field → field = ("bad name", "x") := by decide +kernel
    have hmem : field ∈ iterated plainCrates refusedResponse := by
      rw [hsplit]
      exact List.mem_append_right _ List.mem_cons_self
    obtain rfl := honly field hmem hfield
    obtain rfl : e = .invalidHeaderName := he.trans (by decide +kernel)
    rw [hanswer ⟨fun _ => refusedResponse⟩ _ 5000000 _ parseRequest_invokeJson rfl]
    decide +kernel

end LambdaHandler

end DockerizedLambda
