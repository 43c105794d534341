import DockerizedLambda.Http.Message
import DockerizedLambda.Lib.Lowercase

/-! `http::response::Builder`. Which names and values the crate takes, how many fields a header
map has room for and the texts of the errors are parameters. -/

namespace DockerizedLambda

inductive HttpError
  | invalidStatusCode
  | invalidHeaderName
  | invalidHeaderValue
  | maxSizeReached
deriving DecidableEq, Repr

structure HttpCrate where
  validName : String → Bool
  validValue : String → Bool
  /-- Whether `HeaderMap::try_append` finds room for one more field with the name. -/
  hasRoom : List (String × String) → String → Bool
  maxFields : Nat
  display : HttpError → String

def plainName (name : String) : Bool :=
  name.toList ≠ [] && name.toList.length < 65536 &&
    name.toList.all fun c => c.isLower || c.isDigit || c == '-'

def visibleText (text : String) : Bool := text.toList.all fun c => ' ' ≤ c && c ≤ '~'

/-- What is relied on of the crate: names are ASCII, plain names and visible values are taken,
and up to `maxFields` fields have room. -/
structure HttpCrate.Lawful (http : HttpCrate) : Prop where
  ascii_of_validName : ∀ name, http.validName name → IsAscii name
  validName_of_plain : ∀ name, plainName name → http.validName name
  validValue_of_visible : ∀ value, visibleText value → http.validValue value
  room_of_lt : ∀ fields name, fields.length < http.maxFields → http.hasRoom fields name

def tokenMarks : List Nat := [33, 35, 36, 37, 38, 39, 42, 43, 45, 46, 94, 95, 96, 124, 126]

def isTokenChar (c : Char) : Bool := c.isAlphanum || tokenMarks.contains c.toNat

/-- The crate's own rules. -/
def HttpCrate.tokens : HttpCrate where
  validName name :=
    name.toList ≠ [] && name.toList.length < 65536 && name.toList.all isTokenChar
  validValue value := value.toList.all fun c => (32 ≤ c.toNat && c.toNat ≠ 127) || c == '\t'
  hasRoom fields _ := fields.length < 24576
  maxFields := 24576
  display
    | .invalidStatusCode => "invalid status code"
    | .invalidHeaderName => "invalid HTTP header name"
    | .invalidHeaderValue => "failed to parse header value"
    | .maxSizeReached => "max size reached"

theorem isAlphanum_ascii {c : Char} (h : c.isAlphanum) : c.toNat < 128 := by
  have hlt : ∀ hi : UInt32, c.val ≤ hi → hi < 128 → c.toNat < 128 := fun hi hle hhi =>
    UInt32.lt_iff_toNat_lt.mp (UInt32.lt_of_le_of_lt hle hhi)
  rcases (Bool.or_eq_true _ _).mp h with halpha | hdigit
  · rcases (Bool.or_eq_true _ _).mp halpha with hupper | hlower
    · exact hlt 'Z'.val (of_decide_eq_true hupper).2 (by decide)
    · exact hlt 'z'.val (of_decide_eq_true ((Bool.and_eq_true _ _).mp hlower).2) (by decide)
  · exact hlt '9'.val (of_decide_eq_true ((Bool.and_eq_true _ _).mp hdigit).2) (by decide)

theorem isTokenChar_ascii {c : Char} (h : isTokenChar c) : c.toNat < 128 := by
  rcases (Bool.or_eq_true _ _).mp h with halnum | hmark
  · exact isAlphanum_ascii halnum
  · have hmarks : ∀ n ∈ tokenMarks, n < 128 := by decide
    exact hmarks c.toNat (List.contains_iff_mem.mp hmark)

theorem isTokenChar_of_plain {c : Char} (h : c.isLower || c.isDigit || c == '-') :
    isTokenChar c := by
  rcases (Bool.or_eq_true _ _).mp h with h | hhyphen
  · apply (Bool.or_eq_true _ _).mpr
    left
    rcases (Bool.or_eq_true _ _).mp h with hlower | hdigit
    · have halpha : c.isAlpha := (Bool.or_eq_true _ _).mpr (.inr hlower)
      exact (Bool.or_eq_true _ _).mpr (.inl halpha)
    · exact (Bool.or_eq_true _ _).mpr (.inr hdigit)
  · obtain rfl := eq_of_beq hhyphen
    decide

theorem HttpCrate.tokens_lawful : HttpCrate.tokens.Lawful where
  ascii_of_validName name h := by
    intro ch hch
    have hall := ((Bool.and_eq_true _ _).mp h).2
    exact isTokenChar_ascii (List.all_eq_true.mp hall ch hch)
  validName_of_plain name h := by
    obtain ⟨hlength, hall⟩ := (Bool.and_eq_true _ _).mp h
    refine (Bool.and_eq_true _ _).mpr ⟨hlength, List.all_eq_true.mpr ?_⟩
    intro ch hch
    exact isTokenChar_of_plain (List.all_eq_true.mp hall ch hch)
  validValue_of_visible value h := by
    apply List.all_eq_true.mpr
    intro ch hch
    obtain ⟨hlow, hhigh⟩ := (Bool.and_eq_true _ _).mp (List.all_eq_true.mp h ch hch)
    have hlow' : 32 ≤ ch.toNat := of_decide_eq_true hlow
    have hhigh' : ch.toNat ≤ 126 := of_decide_eq_true hhigh
    simp
    omega
  room_of_lt fields _ h := decide_eq_true h

/-- What has been set so far, or the first error. -/
abbrev Builder := Except HttpError ResponseParts

def storedField (field : String × String) : String × String := (asciiLowercase field.1, field.2)

def HttpCrate.accepts (http : HttpCrate) (field : String × String) : Bool :=
  http.validName field.1 && http.validValue field.2

/-- The name is converted before the value. -/
def HttpCrate.refusal (http : HttpCrate) (field : String × String) : HttpError :=
  if http.validName field.1 then .invalidHeaderValue else .invalidHeaderName

theorem HttpCrate.exists_first_refused {http : HttpCrate} {fields : List (String × String)}
    (h : ¬ ∀ field ∈ fields, http.accepts field) : ∃ taken field rest,
      fields = taken ++ field :: rest ∧ (∀ before ∈ taken, http.accepts before) ∧
      ¬ http.accepts field := by
  push Not at h
  obtain ⟨refused, hmem, hrefused⟩ := h
  have hfind : (fields.find? fun field => !http.accepts field).isSome := by
    apply List.find?_isSome.mpr
    exact ⟨refused, hmem, (Bool.not_eq_true' _).mpr (Bool.eq_false_iff.mpr hrefused)⟩
  obtain ⟨field, hfield⟩ := Option.isSome_iff_exists.mp hfind
  obtain ⟨hfield, taken, rest, hsplit, htaken⟩ := List.find?_eq_some_iff_append.mp hfield
  refine ⟨taken, field, rest, hsplit, ?_, ?_⟩
  · intro before hbefore
    have hnot := htaken before hbefore
    rwa [Bool.not_not] at hnot
  · exact Bool.eq_false_iff.mp ((Bool.not_eq_true' _).mp hfield)

namespace Builder

def new : Builder := .ok ⟨200, []⟩

def status (builder : Builder) (code : Nat) : Builder :=
  builder.bind fun parts =>
    if 100 ≤ code ∧ code < 1000 then .ok { parts with status := code }
    else .error .invalidStatusCode

def header (http : HttpCrate) (builder : Builder) (name value : String) : Builder :=
  builder.bind fun parts =>
    if http.validName name then
      if http.validValue value then
        if http.hasRoom parts.headers (asciiLowercase name) then
          .ok { parts with headers := parts.headers ++ [storedField (name, value)] }
        else .error .maxSizeReached
      else .error .invalidHeaderValue
    else .error .invalidHeaderName

def body (builder : Builder) (bytes : Bytes) : Except HttpError Response :=
  builder.map fun parts => ⟨parts, bytes⟩

def headers (http : HttpCrate) (builder : Builder) (fields : List (String × String)) : Builder :=
  fields.foldl (fun b field => b.header http field.1 field.2) builder

variable {http : HttpCrate} {parts parts' : ResponseParts} {fields : List (String × String)}
variable {name value : String}

theorem header_eq_ok (h : header http (.ok parts) name value = .ok parts') :
    http.accepts (name, value) ∧
      parts' = { parts with headers := parts.headers ++ [storedField (name, value)] } := by
  change (if http.validName name then _ else _) = _ at h
  split at h
  · rename_i hname
    split at h
    · rename_i hvalue
      split at h
      · exact ⟨(Bool.and_eq_true _ _).mpr ⟨hname, hvalue⟩, (Except.ok.inj h).symm⟩
      · exact absurd h nofun
    · exact absurd h nofun
  · exact absurd h nofun

theorem header_accepted (hc : http.Lawful) (ha : http.accepts (name, value))
    (hroom : parts.headers.length < http.maxFields) : header http (.ok parts) name value =
      .ok { parts with headers := parts.headers ++ [storedField (name, value)] } := by
  obtain ⟨hname, hvalue⟩ := (Bool.and_eq_true _ _).mp ha
  show (if http.validName name then _ else _) = _
  rw [if_pos hname, if_pos hvalue, if_pos (hc.room_of_lt _ _ hroom)]

theorem header_refused (h : ¬ http.accepts (name, value)) :
    header http (.ok parts) name value = .error (http.refusal (name, value)) := by
  show (if http.validName name then _ else _) = Except.error (if http.validName name then _ else _)
  by_cases hname : http.validName name
  · have hvalue : ¬ http.validValue value := fun hvalue =>
      h ((Bool.and_eq_true _ _).mpr ⟨hname, hvalue⟩)
    rw [if_pos hname, if_pos hname, if_neg hvalue]
  · rw [if_neg hname, if_neg hname]

theorem headers_error (e : HttpError) : headers http (.error e) fields = .error e := by
  induction fields with
  | nil => rfl
  | cons field fields ih => exact ih

theorem headers_append (builder : Builder) (fields fields' : List (String × String)) :
    headers http builder (fields ++ fields') = headers http (headers http builder fields) fields' :=
  List.foldl_append

theorem headers_eq_ok (h : headers http (.ok parts) fields = .ok parts') :
    (∀ field ∈ fields, http.accepts field) ∧
      parts' = { parts with headers := parts.headers ++ fields.map storedField } := by
  induction fields generalizing parts with
  | nil =>
    obtain rfl := Except.ok.inj h
    refine ⟨fun _ hmem => absurd hmem List.not_mem_nil, ?_⟩
    rw [List.map_nil, List.append_nil]
  | cons field fields ih =>
    change headers http (header http (.ok parts) field.1 field.2) fields = _ at h
    cases hfield : header http (.ok parts) field.1 field.2 with
    | error e =>
      rw [hfield, headers_error] at h
      exact absurd h nofun
    | ok next =>
      obtain ⟨haccepts, rfl⟩ := header_eq_ok hfield
      rw [hfield] at h
      obtain ⟨hrest, rfl⟩ := ih h
      refine ⟨List.forall_mem_cons.mpr ⟨haccepts, hrest⟩, ?_⟩
      rw [List.map_cons, List.append_assoc]
      rfl

theorem headers_accepted (hc : http.Lawful) (ha : ∀ field ∈ fields, http.accepts field)
    (hroom : parts.headers.length + fields.length ≤ http.maxFields) :
    headers http (.ok parts) fields =
      .ok { parts with headers := parts.headers ++ fields.map storedField } := by
  induction fields generalizing parts with
  | nil => rw [List.map_nil, List.append_nil]; rfl
  | cons field fields ih =>
    obtain ⟨hfield, hrest⟩ := List.forall_mem_cons.mp ha
    rw [List.length_cons] at hroom
    show headers http (header http (.ok parts) field.1 field.2) fields = _
    rw [header_accepted hc hfield (by omega), ih hrest, List.map_cons, List.append_assoc]
    · rfl
    · rw [List.length_append, List.length_singleton]
      omega

theorem headers_refused (hc : http.Lawful) {taken rest : List (String × String)}
    {field : String × String} (htaken : ∀ before ∈ taken, http.accepts before)
    (hrefused : ¬ http.accepts field)
    (hroom : parts.headers.length + taken.length ≤ http.maxFields) :
    headers http (.ok parts) (taken ++ field :: rest) = .error (http.refusal field) := by
  rw [headers_append, headers_accepted hc htaken hroom]
  show headers http (header http (.ok _) field.1 field.2) rest = _
  rw [header_refused hrefused, headers_error]

end Builder

end DockerizedLambda
