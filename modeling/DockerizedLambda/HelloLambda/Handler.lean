import DockerizedLambda.Runtime.Response
import DockerizedLambda.Runtime.Run
import Mathlib.Data.List.Sort

/-! `hello-lambda`: a function that echoes its request, and at times fails or panics instead.
What it puts into a response comes through the runtime unchanged. -/

namespace DockerizedLambda

open Multimap

/-- A `serde_json::Value`. None of those here has an array in it. -/
inductive Json
  | null
  | bool (value : Bool)
  | number (value : Nat)
  | string (value : String)
  | object (fields : List (String × Json))

/-- How a value is written, and the texts that `json!` has of an instant and of an address. -/
structure JsonCrate where
  toText : Json → String
  dateTime : Nat → String
  ipAddr : IpAddr → String

mutual

/-- As `serde_json` writes it, where no character needs an escape: the keys in order. -/
def Json.text : Json → String
  | .null => "null"
  | .bool value => toString value
  | .number value => toString value
  | .string value => "\"" ++ value ++ "\""
  | .object fields =>
    let sorted := (Json.fieldTexts fields).insertionSort fun f g => f.1 ≤ g.1
    "\x7b" ++ ",".intercalate (sorted.map fun f => "\"" ++ f.1 ++ "\":" ++ f.2) ++ "\x7d"

def Json.fieldTexts : List (String × Json) → List (String × String)
  | [] => []
  | field :: fields => Json.fieldText field :: Json.fieldTexts fields

def Json.fieldText : String × Json → String × String
  | (key, value) => (key, value.text)

end

namespace HelloLambda

def headerList (port : UInt16) (header : CustomHeader) (value : String) :
    List (String × String) :=
  [(contentType, "application/json"), (CustomHeader.functionName.asRef, "hello-lambda"),
    (CustomHeader.lambdaPort.asRef, toString port.toNat), (header.asRef, value),
    (CustomHeader.handlerVersion.asRef, "1.0.0")]

def errorBody (c : Crates) (json : JsonCrate) (now : Nat) (requestId : Uuid) (port : UInt16) :
    Json :=
  .object [("status", .string "error"),
    ("error", .object [("code", .string "INTERNAL_SERVER_ERROR"),
      ("message", .string "Simulated server error occurred"),
      ("details", .string "This is a randomly generated error for testing purposes"),
      ("request_id", .string (c.uuidToString requestId)),
      ("timestamp", .string (json.dateTime now))]),
    ("metadata", .object [("error_simulation", .bool true),
      ("handler_version", .string "1.0.0")]),
    ("server_info", .object [("function_name", .string "hello-lambda"),
      ("runtime", .string "custom-rust-runtime"), ("port", .number port.toNat)])]

variable {c : Crates} {json : JsonCrate} {env : List String} {port : UInt16}
  {header : CustomHeader} {value : String}

structure Shape (port : UInt16) (r : LambdaResponse) (header : CustomHeader) (value : String) :
    Prop where
  headers : r.headers = some (collect (headerList port header value))
  special : header = .processingDelayMs ∨ header = .errorType
  visible : visibleText value

theorem names_once (hspecial : header = .processingDelayMs ∨ header = .errorType) :
    (CustomHeader.lambdaRequestId.asRef :: CustomHeader.lambdaExecutionTimeMs.asRef ::
      (headerList port header value).map Prod.fst).Nodup := by
  have hnames : [CustomHeader.lambdaRequestId.asRef, CustomHeader.lambdaExecutionTimeMs.asRef,
      contentType, CustomHeader.functionName.asRef, CustomHeader.lambdaPort.asRef, header.asRef,
      CustomHeader.handlerVersion.asRef].Nodup := by
    rcases hspecial with rfl | rfl
    · decide +kernel
    · decide +kernel
  exact hnames

variable {r : LambdaResponse}

theorem Shape.fields (h : Shape port r header value) :
    r.fields.Perm (headerList port header value) := by
  have honce : ((headerList port header value).map Prod.fst).Nodup :=
    (List.nodup_cons.mp (List.nodup_cons.mp (names_once h.special)).2).2
  rw [LambdaResponse.fields, h.headers]
  exact pairs_collect honce

end HelloLambda

end DockerizedLambda
