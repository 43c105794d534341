import DockerizedLambda.Gateway.Error
import DockerizedLambda.Http.Builder
import DockerizedLambda.Lib.Utf8

/-! `GatewayServer::handle_request`: whatever `forward_to_lambda` returns, the client gets a
response. How `serde_json` writes a document is a parameter. -/

namespace DockerizedLambda

/-- The document under `"error"`. -/
structure ErrorDocument where
  status : Nat
  message : String
  timestamp : Nat
deriving DecidableEq, Repr

namespace GatewayServer

section

variable (http : HttpCrate) (toVec : ErrorDocument → Except String Bytes) (now : Nat)

def errorBytes (error : GatewayError) : Bytes :=
  match toVec ⟨error.statusCode, error.errorMessage, now⟩ with
  | .ok bytes => bytes
  | .error _ => Utf8.encode "Internal server error"

/-- An error here is the panic of the last `unwrap`. -/
def errorResponse (error : GatewayError) : Except HttpError Response :=
  match ((Builder.new.status error.statusCode).header http "content-type"
      "application/json").body (errorBytes toVec now error) with
  | .ok response => .ok response
  | .error _ => (Builder.new.status 500).body (Utf8.encode "Internal server error")

def handleRequest : Except GatewayError Response → Except HttpError Response
  | .ok response => .ok response
  | .error e => errorResponse http toVec now e

end

variable {http : HttpCrate} {toVec : ErrorDocument → Except String Bytes} {now : Nat}

theorem status_error_eq (e : GatewayError) :
    Builder.new.status e.statusCode = .ok ⟨e.statusCode, []⟩ := by
  have hrange : 100 ≤ e.statusCode ∧ e.statusCode < 1000 := by
    cases e <;> simp [GatewayError.statusCode]
  exact if_pos hrange

theorem errorResponse_eq (hc : http.Lawful) (hroom : 0 < http.maxFields) (e : GatewayError) :
    errorResponse http toVec now e =
      .ok ⟨⟨e.statusCode, [("content-type", "application/json")]⟩, errorBytes toVec now e⟩ := by
  have haccepts : http.accepts ("content-type", "application/json") :=
    (Bool.and_eq_true _ _).mpr ⟨hc.validName_of_plain _ (by decide +kernel),
      hc.validValue_of_visible _ (by decide +kernel)⟩
  have hstored : storedField ("content-type", "application/json") =
      ("content-type", "application/json") := by decide +kernel
  have hheader : Builder.header http (.ok ⟨e.statusCode, []⟩) "content-type" "application/json" =
      .ok ⟨e.statusCode, [storedField ("content-type", "application/json")]⟩ :=
    Builder.header_accepted hc haccepts hroom
  unfold errorResponse
  rw [status_error_eq, hheader, hstored]
  rfl

end GatewayServer

end DockerizedLambda
