import DockerizedLambda.Runtime.Response

/-! The metadata fields of the responses, against whatever header map a handler returns. -/

namespace DockerizedLambda

namespace LambdaHandler

open Multimap

variable {c : Crates} {r : LambdaResponse} {response : Response}

structure Authoritative (c : Crates) (request : LambdaRequest) (handlerDuration : Nat)
    (response : Response) : Prop where
  requestId : valuesAt CustomHeader.lambdaRequestId.asRef response.parts.headers =
    [c.uuidToString request.requestId]
  executionTime : valuesAt CustomHeader.lambdaExecutionTimeMs.asRef response.parts.headers =
    [toString (asMillis handlerDuration)]
  contentType : (valuesAt contentType response.parts.headers).length = 1

structure LeavesReserved (r : LambdaResponse) : Prop where
  requestId : valuesAt CustomHeader.lambdaRequestId.asRef r.storedFields = []
  executionTime : valuesAt CustomHeader.lambdaExecutionTimeMs.asRef r.storedFields = []
  contentType : (valuesAt contentType r.storedFields).length ≤ 1

theorem valuesAt_default {name : String} (h : name ≠ contentType) :
    valuesAt name (defaultContentType r) = [] := by
  unfold defaultContentType
  split
  · rw [valuesAt_cons, if_neg (Ne.symm h)]
    rfl
  · rfl

theorem valuesAt_built {fields : List (String × String)} {name value : String}
    (hperm : fields.Perm (metadata c r ++ r.storedFields ++ defaultContentType r))
    (hname : valuesAt name (metadata c r) = [value]) (hne : name ≠ contentType) :
    valuesAt name fields = [value] ↔ valuesAt name r.storedFields = [] := by
  have hvalues := valuesAt_perm name hperm
  rw [valuesAt_append, valuesAt_append, hname, valuesAt_default hne, List.append_nil,
    List.singleton_append] at hvalues
  constructor
  · intro h
    have hlength := hvalues.length_eq
    rw [h, List.length_cons, List.length_cons, List.length_nil] at hlength
    exact List.length_eq_zero_iff.mp (Nat.succ.inj hlength).symm
  · intro h
    rw [h] at hvalues
    exact List.perm_singleton.mp hvalues

theorem length_contentType {fields : List (String × String)}
    (hperm : fields.Perm (metadata c r ++ r.storedFields ++ defaultContentType r)) :
    (valuesAt contentType fields).length = 1 ↔
      (valuesAt contentType r.storedFields).length ≤ 1 := by
  have hlength := (valuesAt_perm contentType hperm).length_eq
  have hmetadata : valuesAt contentType (metadata c r) = [] := by
    simp [metadata, valuesAt_cons, CustomHeader.asRef, contentType]
  rw [valuesAt_append, valuesAt_append, hmetadata, List.nil_append, List.length_append] at hlength
  unfold defaultContentType at hlength
  split at hlength
  · rename_i hnone
    rw [hlength, hnone]
    decide +kernel
  · rename_i hsome
    have hpos := List.length_pos_iff.mpr hsome
    rw [valuesAt_nil, List.length_nil] at hlength
    omega

theorem valuesAt_requestId : valuesAt CustomHeader.lambdaRequestId.asRef (metadata c r) =
    [c.uuidToString r.requestId] := by
  simp [metadata, valuesAt_cons, CustomHeader.asRef]

theorem valuesAt_executionTime : valuesAt CustomHeader.lambdaExecutionTimeMs.asRef (metadata c r) =
    [toString (asMillis r.executionTimeMs)] := by
  simp [metadata, valuesAt_cons, CustomHeader.asRef]

theorem asRef_ne_contentType (header : CustomHeader) : header.asRef ≠ contentType := by
  cases header <;> decide +kernel

theorem metadata_authoritative (hc : c.Lawful) (handler : LambdaHandler)
    {body : Except String Bytes} {handlerDuration : Nat} {request : LambdaRequest}
    (hrequest : parseRequest c body = .ok request)
    (hresponse : processInvoke c handler body handlerDuration = .ok response) :
    Authoritative c request handlerDuration response ↔
      LeavesReserved (handler.userHandler request) := by
  rw [processInvoke_eq hrequest] at hresponse
  obtain ⟨haccepts, rfl⟩ := buildHttpResponse_eq_ok hresponse
  have hperm := sentFields_perm hc ((accepts_sentFields hc).mp haccepts)
  have hid := valuesAt_built hperm valuesAt_requestId (asRef_ne_contentType _)
  have htime := valuesAt_built hperm valuesAt_executionTime (asRef_ne_contentType _)
  have htype := length_contentType hperm
  constructor
  · intro h
    exact ⟨hid.mp h.requestId, htime.mp h.executionTime, htype.mp h.contentType⟩
  · intro h
    exact ⟨hid.mpr h.requestId, htime.mpr h.executionTime, htype.mpr h.contentType⟩

theorem metadata_authoritative_on_plain_response :
    ∃ response, processInvoke plainCrates ⟨fun _ => plainResponse⟩ (.ok (Utf8.encode invokeJson))
        5000000 = .ok response ∧
      Authoritative plainCrates invokeRequest 5000000 response := by
  have hbuild := buildHttpResponse_accepted (c := plainCrates) (r := plainResponse)
    plainCrates_lawful.http (by decide +kernel) (by decide +kernel)
  have hresponse : processInvoke plainCrates ⟨fun _ => plainResponse⟩
      (.ok (Utf8.encode invokeJson)) 5000000 = .ok _ :=
    (processInvoke_eq parseRequest_invokeJson).trans hbuild
  refine ⟨_, hresponse, (metadata_authoritative plainCrates_lawful _ parseRequest_invokeJson
    hresponse).mpr ?_⟩
  exact ⟨by decide +kernel, by decide +kernel, by decide +kernel⟩

def forgedResponse : LambdaResponse :=
  { plainResponse with
    headers := some (collect [("X-Lambda-Request-Id", "none"), ("Content-Type", "text/plain"),
      ("content-type", "text/html")]) }

theorem request_id_forged :
    ∃ response, processInvoke plainCrates ⟨fun _ => forgedResponse⟩
        (.ok (Utf8.encode invokeJson)) 5000000 = .ok response ∧
      valuesAt CustomHeader.lambdaRequestId.asRef response.parts.headers =
        ["00000000-0000-0000-0000-000000000007", "none"] ∧
      (valuesAt contentType response.parts.headers).length = 2 ∧
      ¬ Authoritative plainCrates invokeRequest 5000000 response := by
  have hbuild := buildHttpResponse_accepted (c := plainCrates) (r := forgedResponse)
    plainCrates_lawful.http (by decide +kernel) (by decide +kernel)
  refine ⟨_, (processInvoke_eq parseRequest_invokeJson).trans hbuild, by decide +kernel,
    by decide +kernel, ?_⟩
  intro h
  exact absurd h.requestId (by decide +kernel)

end LambdaHandler

end DockerizedLambda
