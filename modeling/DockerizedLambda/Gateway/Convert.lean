import DockerizedLambda.Lib.Multimap
import DockerizedLambda.Lib.Utf8
import DockerizedLambda.Models.Lambda
import DockerizedLambda.Http.Message
import DockerizedLambda.Gateway.Error

/-! `http_to_lambda_request`, and how much of the incoming request is left in its result. What
`form_urlencoded::parse` makes of a query string is a parameter. -/

namespace DockerizedLambda

open Multimap

def isVisibleAscii (b : UInt8) : Bool := (32 ≤ b && b < 127) || b == 9

/-- What the crate lets a header value consist of: everything but control characters. -/
def isValidByte (b : UInt8) : Bool := (32 ≤ b && b != 127) || b == 9

structure HeaderValue where
  bytes : Bytes
  isValid : bytes.all isValidByte

def HeaderValue.toStr (value : HeaderValue) : Option String :=
  if value.bytes.all isVisibleAscii then some (Utf8.asciiText value.bytes) else none

/-- The fields of the header map are as its iterator yields them, one item a field. The body
is what collecting it returns, and the address is the one in the extensions. -/
structure IncomingRequest where
  method : String
  path : String
  query : Option String
  headers : List (String × HeaderValue)
  body : Except String Bytes
  socketAddr : Option SocketAddr

section

variable (parse : Bytes → List (String × String)) (newV4 : Uuid) (now : Nat)

def httpToLambdaRequest (req : IncomingRequest) : Except ConvertError LambdaRequest :=
  let queryParameters := (req.query.map fun query => collect (parse (Utf8.encode query))).getD ∅
  let headers := collect (req.headers.filterMap fun (name, value) =>
    match value.toStr with
    | some valueStr => some (name, valueStr)
    | none => none)
  match req.body with
  | .error e => .error (.bodyRead e)
  | .ok bodyBytes =>
    match Utf8.decode bodyBytes with
    | none => .error .invalidUtf8
    | some body =>
      .ok ⟨newV4, req.method, req.path, queryParameters, headers, body,
        req.socketAddr.map SocketAddr.ip, now⟩

end

namespace IncomingRequest

def fieldsBy (read : HeaderValue → Option String) (req : IncomingRequest) :
    List (String × String) :=
  req.headers.filterMap fun field => (read field.2).map fun text => (field.1, text)

def textFields (req : IncomingRequest) : List (String × String) :=
  req.fieldsBy fun value => Utf8.decode value.bytes

def queryPairs (parse : Bytes → List (String × String)) (req : IncomingRequest) :
    List (String × String) :=
  match req.query with
  | some query => parse (Utf8.encode query)
  | none => []

structure LosesNothing (parse : Bytes → List (String × String)) (req : IncomingRequest)
    (r : LambdaRequest) : Prop where
  headers : ∀ field ∈ req.headers, ∀ text, Utf8.decode field.2.bytes = some text →
    r.headers.lookup field.1 = some text
  leftOut : ∀ field ∈ req.headers, field.1 ∉ r.headers → Utf8.decode field.2.bytes = none
  query : ∀ pair ∈ req.queryPairs parse, r.queryParameters.lookup pair.1 = some pair.2

structure Representable (parse : Bytes → List (String × String)) (req : IncomingRequest) :
    Prop where
  visible : ∀ field ∈ req.headers, (Utf8.decode field.2.bytes).isSome →
    field.2.bytes.all isVisibleAscii
  headers : SingleValued req.textFields
  query : SingleValued (req.queryPairs parse)

end IncomingRequest

theorem lt_of_isVisibleAscii {b : UInt8} (h : isVisibleAscii b = true) : b < 128 := by
  unfold isVisibleAscii at h
  rcases (Bool.or_eq_true _ _).mp h with hb | hb
  · exact UInt8.lt_trans (of_decide_eq_true ((Bool.and_eq_true _ _).mp hb).2) (by decide)
  · obtain rfl := eq_of_beq hb
    decide

theorem HeaderValue.decode_of_toStr {value : HeaderValue} {s : String}
    (h : value.toStr = some s) : Utf8.decode value.bytes = some s := by
  unfold HeaderValue.toStr at h
  split at h
  · rename_i hvisible
    rw [← h]
    exact Utf8.decode_ascii fun b hb => lt_of_isVisibleAscii (List.all_eq_true.mp hvisible b hb)
  · exact absurd h nofun

theorem HeaderValue.visible_of_toStr {value : HeaderValue} {s : String}
    (h : value.toStr = some s) : value.bytes.all isVisibleAscii := by
  unfold HeaderValue.toStr at h
  split at h
  · assumption
  · exact absurd h nofun

theorem HeaderValue.toStr_eq_decode {value : HeaderValue}
    (h : (Utf8.decode value.bytes).isSome → value.bytes.all isVisibleAscii) :
    value.toStr = Utf8.decode value.bytes := by
  cases htext : Utf8.decode value.bytes with
  | some text =>
    have hstr : value.toStr = some (Utf8.asciiText value.bytes) :=
      if_pos (h (Option.isSome_of_eq_some htext))
    rw [hstr, ← HeaderValue.decode_of_toStr hstr, htext]
  | none =>
    cases hstr : value.toStr with
    | none => rfl
    | some valueStr => exact absurd (htext.symm.trans (HeaderValue.decode_of_toStr hstr)) nofun

namespace IncomingRequest

variable {parse : Bytes → List (String × String)} {newV4 : Uuid} {now : Nat}
variable {req : IncomingRequest} {r : LambdaRequest} {name text : String}

theorem mem_fieldsBy {read : HeaderValue → Option String} :
    (name, text) ∈ req.fieldsBy read ↔
      ∃ value, (name, value) ∈ req.headers ∧ read value = some text := by
  simp only [fieldsBy, List.mem_filterMap, Option.map_eq_some_iff, Prod.mk.injEq]
  constructor
  · rintro ⟨⟨_, value⟩, hmem, _, htext, rfl, rfl⟩
    exact ⟨value, hmem, htext⟩
  · rintro ⟨value, hmem, htext⟩
    exact ⟨(name, value), hmem, text, htext, rfl, rfl⟩

theorem fieldsBy_toStr (h : ∀ field ∈ req.headers, (Utf8.decode field.2.bytes).isSome →
    field.2.bytes.all isVisibleAscii) : req.fieldsBy HeaderValue.toStr = req.textFields := by
  apply List.filterMap_congr
  intro field hfield
  rw [HeaderValue.toStr_eq_decode (h field hfield)]

theorem collect_query : (req.query.map fun query => collect (parse (Utf8.encode query))).getD ∅ =
    collect (req.queryPairs parse) := by
  unfold queryPairs
  cases req.query <;> rfl

theorem collect_headers : collect (req.headers.filterMap fun (name, value) =>
    match value.toStr with
    | some valueStr => some (name, valueStr)
    | none => none) = collect (req.fieldsBy HeaderValue.toStr) := by
  congr 1
  apply List.filterMap_congr
  rintro ⟨name, value⟩ _
  dsimp only
  cases value.toStr <;> rfl

theorem httpToLambdaRequest_eq_ok {bodyBytes : Bytes} {body : String}
    (hbody : req.body = .ok bodyBytes) (htext : Utf8.decode bodyBytes = some body) :
    httpToLambdaRequest parse newV4 now req =
      .ok ⟨newV4, req.method, req.path, collect (req.queryPairs parse),
        collect (req.fieldsBy HeaderValue.toStr), body, req.socketAddr.map SocketAddr.ip, now⟩ := by
  unfold httpToLambdaRequest
  rw [hbody, collect_query, collect_headers]
  show (match Utf8.decode bodyBytes with | none => _ | some body => _) = _
  rw [htext]

theorem visible_of_lookup {value : HeaderValue}
    (h : (collect (req.fieldsBy HeaderValue.toStr)).lookup name = some text)
    (htext : Utf8.decode value.bytes = some text) : value.bytes.all isVisibleAscii := by
  obtain ⟨value', -, hstr⟩ := mem_fieldsBy.mp (mem_of_lookup_collect h)
  have hbytes : value.bytes = value'.bytes :=
    Utf8.decode_inj htext (HeaderValue.decode_of_toStr hstr)
  rw [hbytes]
  exact HeaderValue.visible_of_toStr hstr

theorem representable_of_losesNothing (h : LosesNothing parse req r)
    (hheaders : r.headers = collect (req.fieldsBy HeaderValue.toStr))
    (hquery : r.queryParameters = collect (req.queryPairs parse)) : req.Representable parse := by
  have hvisible : ∀ field ∈ req.headers, (Utf8.decode field.2.bytes).isSome →
      field.2.bytes.all isVisibleAscii := by
    intro field hfield hsome
    obtain ⟨text, htext⟩ := Option.isSome_iff_exists.mp hsome
    exact visible_of_lookup (hheaders ▸ h.headers field hfield text htext) htext
  refine ⟨hvisible, ?_, ?_⟩
  · have hread := h.headers
    rw [hheaders, fieldsBy_toStr hvisible] at hread
    apply collect_keeps_iff.mp
    rintro ⟨name, text⟩ hmem
    obtain ⟨value, hfield, htext⟩ := mem_fieldsBy.mp hmem
    exact hread _ hfield text htext
  · exact collect_keeps_iff.mp fun pair hpair => hquery ▸ h.query pair hpair

theorem losesNothing_of_representable (h : req.Representable parse)
    (hheaders : r.headers = collect (req.fieldsBy HeaderValue.toStr))
    (hquery : r.queryParameters = collect (req.queryPairs parse)) : LosesNothing parse req r := by
  have hread : ∀ field ∈ req.headers, ∀ text, Utf8.decode field.2.bytes = some text →
      r.headers.lookup field.1 = some text := by
    intro field hfield text htext
    rw [hheaders, fieldsBy_toStr h.visible]
    exact collect_keeps_iff.mpr h.headers (field.1, text) (mem_fieldsBy.mpr ⟨_, hfield, htext⟩)
  refine ⟨hread, ?_, ?_⟩
  · intro field hfield hnot
    apply Option.eq_none_iff_forall_ne_some.mpr
    intro text htext
    exact hnot (Table.lookup_mem (hread field hfield text htext))
  · intro pair hpair
    rw [hquery]
    exact collect_keeps_iff.mpr h.query pair hpair

theorem conversion_lossless (parse : Bytes → List (String × String)) (newV4 : Uuid) (now : Nat)
    (req : IncomingRequest) {bodyBytes : Bytes} {body : String}
    (hbody : req.body = .ok bodyBytes) (htext : Utf8.decode bodyBytes = some body) :
    ∃ r, httpToLambdaRequest parse newV4 now req = .ok r ∧
      (LosesNothing parse req r ↔ req.Representable parse) := by
  refine ⟨_, httpToLambdaRequest_eq_ok hbody htext, ?_, ?_⟩
  · intro h
    exact representable_of_losesNothing h rfl rfl
  · intro h
    exact losesNothing_of_representable h rfl rfl

def plainPairs (query : Bytes) : List (String × String) :=
  ((query.splitOn 38).filter (· ≠ [])).map fun pair =>
    (Utf8.asciiText (pair.takeWhile (· ≠ 61)), Utf8.asciiText ((pair.dropWhile (· ≠ 61)).drop 1))

def plainRequest : IncomingRequest where
  method := "POST"
  path := "/api/users"
  query := some "limit=10&offset=20&limit=10"
  headers := [("accept", ⟨Utf8.encode "text/html", by decide +kernel⟩),
    ("accept", ⟨Utf8.encode "text/html", by decide +kernel⟩), ("x-raw", ⟨[255], by decide +kernel⟩)]
  body := .ok (Utf8.encode "é")
  socketAddr := none

theorem conversion_lossless_on_plain_request :
    ∃ r, httpToLambdaRequest plainPairs 7 0 plainRequest = .ok r ∧
      LosesNothing plainPairs plainRequest r := by
  obtain ⟨r, hr, hiff⟩ := conversion_lossless plainPairs 7 0 plainRequest rfl
    (Utf8.decode_encode "é")
  exact ⟨r, hr, hiff.mpr ⟨by decide +kernel, by decide +kernel, by decide +kernel⟩⟩

def taggedRequest : IncomingRequest where
  method := "GET"
  path := "/"
  query := none
  headers := [("x-tag", ⟨Utf8.encode "a", by decide +kernel⟩),
    ("x-tag", ⟨Utf8.encode "b", by decide +kernel⟩),
    ("x-name", ⟨Utf8.encode "é", by decide +kernel⟩)]
  body := .ok []
  socketAddr := none

theorem fields_lost :
    ∃ r, httpToLambdaRequest plainPairs 7 0 taggedRequest = .ok r ∧
      r.headers.lookup "x-tag" = some "b" ∧ r.headers.lookup "x-name" = none ∧
      ¬ LosesNothing plainPairs taggedRequest r := by
  refine ⟨_, httpToLambdaRequest_eq_ok rfl (Utf8.decode_encode ""), by decide +kernel,
    by decide +kernel, ?_⟩
  intro h
  have hname : "x-name" ∉ collect (taggedRequest.fieldsBy HeaderValue.toStr) := by decide +kernel
  have hnone := h.leftOut ("x-name", ⟨Utf8.encode "é", by decide +kernel⟩) (by simp [taggedRequest])
    hname
  exact absurd ((Utf8.decode_encode "é").symm.trans hnone) nofun

end IncomingRequest

end DockerizedLambda
