import ZigbeeBridge.Proofs.Gateway.Call

/-!
Which errors a call may end with. A gateway is said to report errors in an envelope that counts on
every body, whatever the status. The envelope is looked for in successful answers only, so the rule
holds exactly where no envelope comes with another status.
-/
namespace ZigbeeBridge.Gateway

open Data
open Dialogue (Attempt Behaviour Trace)

/-- An object with a member `error`. -/
def Carries (v error : Value) : Prop :=
  ∃ members, v = .object members ∧ Entries.get? members "error" = some error

/-- What a body reports: the error that it carries itself, or the first that an element of it
does, whatever else stands around it. -/
def Reports (body : String) (error : Value) : Prop :=
  ∃ v, Json.parse body = .ok v ∧
    (Carries v error ∨
      ∃ before item after, v = .array (before ++ item :: after) ∧
        Carries item error ∧ ∀ x ∈ before, ∀ e, ¬Carries x e)

/-- The description of an error is empty where there is no text. -/
def Describes (error : Value) (description : String) : Prop :=
  error.member? "description" = some (.string description) ∨
    description = "" ∧ ∀ s, error.member? "description" ≠ some (.string s)

/-- The code of an error is -1 where there is no signed integer of 64 bits. -/
def Codes (error : Value) (code : Int64) : Prop :=
  (∃ fits, error.member? "type" = some (.number (.integer code.toInt fits))) ∨
    code = -1 ∧ ∀ (n : Int64) fits, error.member? "type" ≠ some (.number (.integer n.toInt fits))

/-- The answer is a success, and its body a document that reports no error. -/
structure Accepted (answer : Answer) (body : String) (v : Value) : Prop where
  success : ∃ status, answer = .response status (some body) ∧ isSuccess status = true
  parsed : Json.parse body = .ok v
  quiet : ∀ error, ¬Reports body error

/-- How a call is said to end on a body, whatever the status that it comes with. -/
structure EnvelopeRule {α : Type} (status : UInt16) (body : String) (outcome : Except Error α) :
    Prop where
  reported : ∀ error, Reports body error →
    ∃ description code, outcome = .error (.rejected description code) ∧
      Describes error description ∧ Codes error code
  unauthorized : ∀ error, Reports body error → Codes error 1 →
    ∃ e, outcome = .error e ∧ e.isUnauthorized = true
  unreported : (∀ error, ¬Reports body error) →
    (∀ description code, outcome ≠ .error (.rejected description code)) ∧
      ((∃ code text, outcome = .error (.status code text)) ↔ isSuccess status = false)

section Envelopes

theorem member?_eq_some_iff (v error : Value) :
    v.member? "error" = some error ↔ Carries v error := by
  unfold Value.member? Carries
  cases v with
  | object members =>
    constructor
    · intro hget
      exact ⟨members, rfl, hget⟩
    · rintro ⟨_, hsame, hget⟩
      cases hsame
      exact hget
  | null | bool | number | string | array => simp [Value.members]

theorem member?_eq_none_iff (v : Value) :
    v.member? "error" = none ↔ ∀ error, ¬Carries v error := by
  rw [Option.eq_none_iff_forall_ne_some]
  simp only [ne_eq, member?_eq_some_iff]

/-- The search through a body finds what the body reports. -/
theorem reported?_eq_some_iff (v error : Value) :
    reported? v = some error ↔
      Carries v error ∨
        ∃ before item after, v = .array (before ++ item :: after) ∧
          Carries item error ∧ ∀ x ∈ before, ∀ e, ¬Carries x e := by
  cases v with
  | object members =>
    have hnone : ¬∃ before item after, Value.object members = .array (before ++ item :: after) ∧
        Carries item error ∧ ∀ x ∈ before, ∀ e, ¬Carries x e := by
      rintro ⟨before, item, after, hsame, -⟩
      cases hsame
    rw [or_iff_left hnone]
    exact member?_eq_some_iff (.object members) error
  | array items =>
    have hnone : ¬Carries (.array items) error := by
      rintro ⟨members, hsame, -⟩
      cases hsame
    rw [or_iff_right hnone]
    unfold reported?
    simp only [List.findSome?_eq_some_iff, member?_eq_some_iff, member?_eq_none_iff,
      Value.array.injEq]
  | null | bool | number | string => simp [reported?, Carries]

theorem reports_iff (body : String) (error : Value) :
    Reports body error ↔ ∃ v, Json.parse body = .ok v ∧ reported? v = some error := by
  unfold Reports
  simp only [reported?_eq_some_iff]

/-- A document reports no error when none is found in it. -/
theorem quiet_iff (body : String) (v : Value) (hparse : Json.parse body = .ok v) :
    (∀ error, ¬Reports body error) ↔ reported? v = none := by
  rw [Option.eq_none_iff_forall_ne_some]
  constructor
  · intro hquiet error hfound
    exact hquiet error ((reports_iff body error).mpr ⟨v, hparse, hfound⟩)
  · intro hnone error hreports
    obtain ⟨v', hparse', hfound⟩ := (reports_iff body error).mp hreports
    rw [hparse] at hparse'
    cases hparse'
    exact hnone error hfound

theorem describes_description (error : Value) : Describes error (description error) := by
  unfold Describes description
  split
  · rename_i s hs
    exact Or.inl hs
  · rename_i hnone
    exact Or.inr ⟨rfl, hnone⟩

/-- The code of an error is determined, and it is the one that is read. -/
theorem codes_iff (error : Value) (code : Int64) :
    Codes error code ↔ code = errorCode error := by
  unfold Codes errorCode
  split
  · rename_i n hfits htype
    rw [htype]
    simp only [ne_eq, Option.some.injEq, Value.number.injEq, Number.integer.injEq]
    by_cases hsmall : n < 0x8000000000000000
    · rw [if_pos hsmall]
      have hback : (Int64.ofInt n).toInt = n :=
        Int64.toInt_ofInt_of_le (by omega) (by omega)
      constructor
      · rintro (⟨-, hn⟩ | ⟨-, hnone⟩)
        · rw [hn, Int64.ofInt_toInt]
        · exact absurd hback.symm (hnone (Int64.ofInt n) (by rw [hback]; exact hfits))
      · rintro rfl
        exact Or.inl ⟨by rw [hback]; exact hfits, hback.symm⟩
    · rw [if_neg hsmall]
      have hlarge : ∀ m : Int64, n ≠ m.toInt := by
        intro m hm
        have hbound := Int64.toInt_lt m
        omega
      constructor
      · rintro (⟨-, hn⟩ | ⟨hcode, -⟩)
        · exact absurd hn (hlarge code)
        · exact hcode
      · rintro rfl
        exact Or.inr ⟨rfl, fun m _ => hlarge m⟩
  · rename_i hnone
    constructor
    · rintro (⟨hfits, htype⟩ | ⟨hcode, -⟩)
      · exact absurd htype (hnone _ _)
      · exact hcode
    · rintro rfl
      exact Or.inr ⟨rfl, fun m hfits => hnone _ _⟩

end Envelopes

section Acceptance

variable {α : Type}

theorem content_eq_ok_iff (answer : Answer) (body : String) :
    content answer = .ok body ↔
      ∃ status, answer = .response status (some body) ∧ isSuccess status = true := by
  cases answer with
  | none => simp [content]
  | timeout => simp [content]
  | response status text =>
    cases hstatus : isSuccess status with
    | false => simp [content, hstatus]
    | true =>
      cases text with
      | none => simp [content, hstatus]
      | some text =>
        simp only [content, hstatus, Bool.not_true, Bool.false_eq_true, if_false,
          Except.ok.injEq, Answer.response.injEq, Option.some.injEq]
        constructor
        · intro hsame
          exact ⟨status, ⟨rfl, hsame⟩, hstatus⟩
        · rintro ⟨-, ⟨-, hsame⟩, -⟩
          exact hsame

private theorem document_eq_ok_iff (body : String) (v : Value) :
    document body = .ok v ↔ Json.parse body = .ok v := by
  unfold document
  cases Json.parse body with
  | error flaw => simp
  | ok v' => simp

private theorem checkEnvelope_eq_ok_iff (v : Value) :
    checkEnvelope v = .ok () ↔ reported? v = none := by
  unfold checkEnvelope
  cases reported? v with
  | none => simp
  | some error => simp

theorem accept_eq_ok_iff (interpret : String → Value → Except Error α) (answer : Answer) (a : α) :
    accept interpret answer = .ok a ↔
      ∃ body v, Accepted answer body v ∧ interpret body v = .ok a := by
  constructor
  · intro haccept
    unfold accept at haccept
    cases hcontent : content answer with
    | error e =>
      rw [hcontent] at haccept
      cases haccept
    | ok body =>
      rw [hcontent] at haccept
      change (document body >>= fun v => checkEnvelope v >>= fun _ => interpret body v) = _
        at haccept
      cases hdocument : document body with
      | error e =>
        rw [hdocument] at haccept
        cases haccept
      | ok v =>
        rw [hdocument] at haccept
        change (checkEnvelope v >>= fun _ => interpret body v) = _ at haccept
        cases hcheck : checkEnvelope v with
        | error e =>
          rw [hcheck] at haccept
          cases haccept
        | ok u =>
          rw [hcheck] at haccept
          have hparse := (document_eq_ok_iff body v).mp hdocument
          refine ⟨body, v, ⟨(content_eq_ok_iff answer body).mp hcontent, hparse, ?_⟩, haccept⟩
          exact (quiet_iff body v hparse).mpr ((checkEnvelope_eq_ok_iff v).mp hcheck)
  · rintro ⟨body, v, haccepted, hinterpret⟩
    have hquiet := (quiet_iff body v haccepted.parsed).mp haccepted.quiet
    unfold accept
    rw [(content_eq_ok_iff answer body).mpr haccepted.success]
    change (document body >>= fun v => checkEnvelope v >>= fun _ => interpret body v) = _
    rw [(document_eq_ok_iff body v).mpr haccepted.parsed]
    change (checkEnvelope v >>= fun _ => interpret body v) = _
    rw [(checkEnvelope_eq_ok_iff v).mpr hquiet]
    exact hinterpret

end Acceptance

section Errors

variable {α β : Type}

/-- A result whose only errors are about decoding. -/
def Decoded (result : Except Error α) : Prop :=
  ∀ e, result = .error e → ∃ message body, e = .undecodable message body

theorem Decoded.ok (a : α) : Decoded (.ok a) := by
  intro e he
  cases he

theorem Decoded.bind {result : Except Error α} {next : α → Except Error β}
    (hresult : Decoded result) (hnext : ∀ a, Decoded (next a)) : Decoded (result >>= next) := by
  cases result with
  | error e =>
    intro e' he'
    cases he'
    exact hresult e rfl
  | ok a => exact hnext a

theorem Decoded.mapM {f : α → Except Error β} (hf : ∀ a, Decoded (f a)) (as : List α) :
    Decoded (as.mapM f) := by
  induction as with
  | nil => exact Decoded.ok []
  | cons a as ih =>
    rw [List.mapM_cons]
    exact (hf a).bind fun b => ih.bind fun bs => Decoded.ok (b :: bs)

theorem decoded_whole (decode : Value → Except DecodeError α) (body : String) (v : Value) :
    Decoded (whole decode body v) := by
  unfold whole
  intro e he
  cases hdecode : decode v with
  | ok a =>
    rw [hdecode] at he
    cases he
  | error flaw =>
    rw [hdecode] at he
    cases he
    exact ⟨_, _, rfl⟩

theorem decoded_record (shape : Shape) (v : Value) : Decoded (record shape v) := by
  unfold record
  intro e he
  cases hread : shape.read v with
  | ok members =>
    rw [hread] at he
    cases he
  | error flaw =>
    rw [hread] at he
    cases he
    exact ⟨_, _, rfl⟩

theorem decoded_reading (type : SensorType) (v : Value) : Decoded (Reading.decode type v) := by
  have hstate : Decoded (Reading.decode.state v) :=
    (decoded_record _ v).bind fun ms => Decoded.ok _
  cases type with
  | switch => exact Decoded.ok _
  | power | consumption | temperature =>
    exact hstate.bind fun state => (decoded_record _ state).bind fun ms => Decoded.ok _

theorem decoded_sensor (id : String) (v : Value) : Decoded (Sensor.decode id v) := by
  have hinfo : Decoded (SensorInfo.decode id v) := (decoded_record _ v).bind fun ms => Decoded.ok _
  refine hinfo.bind fun info => ?_
  cases info.sensorType? with
  | none => exact Decoded.ok _
  | some type => exact (decoded_reading type v).bind fun reading => Decoded.ok _

theorem decoded_decode (call : Call) (body : String) (v : Value) :
    Decoded (call.decode body v) := by
  cases call with
  | about => exact decoded_whole _ body v
  | lights | groups =>
    refine (decoded_whole _ body v).bind fun entries => ?_
    exact Decoded.mapM (fun entry => (decoded_record _ entry.2).bind fun ms => Decoded.ok _) entries
  | sensors =>
    refine (decoded_whole _ body v).bind fun entries => ?_
    exact Decoded.mapM (fun entry => (decoded_record _ entry.2).bind fun ms => Decoded.ok _) entries
  | light id =>
    refine (decoded_record _ v).bind fun ms => ?_
    exact ((decoded_record _ _).bind fun state => Decoded.ok _).bind fun state => Decoded.ok _
  | group id =>
    refine (decoded_record _ v).bind fun ms => ?_
    exact (decoded_record _ _).bind fun state => Decoded.ok _
  | setLight id change | setGroup id change => exact Decoded.ok _
  | sensorDetail id => exact Decoded.ok _
  | sensor id => exact decoded_sensor id v

end Errors

section Calls

variable (call : Call) (status : UInt16) (body : String)

theorem read_of_failure (hstatus : isSuccess status = false) :
    call.read (.response status (some body)) = .error (.status status (preview body)) := by
  have hcontent : content (.response status (some body)) =
      .error (.status status (preview body)) := by
    simp [content, hstatus]
  unfold Call.read accept
  rw [hcontent]
  rfl

private theorem read_of_success (hstatus : isSuccess status = true) :
    call.read (.response status (some body)) =
      document body >>= fun v => checkEnvelope v >>= fun _ => call.decode body v := by
  have hcontent : content (.response status (some body)) = .ok body := by
    simp [content, hstatus]
  unfold Call.read accept
  rw [hcontent]
  rfl

theorem read_of_reported (hstatus : isSuccess status = true) (error : Value)
    (hreports : Reports body error) :
    call.read (.response status (some body)) =
      .error (.rejected (description error) (errorCode error)) := by
  obtain ⟨v, hparse, hfound⟩ := (reports_iff body error).mp hreports
  rw [read_of_success call status body hstatus]
  have hcheck : checkEnvelope v = .error (.rejected (description error) (errorCode error)) := by
    unfold checkEnvelope
    rw [hfound]
  unfold document
  rw [hparse]
  change (checkEnvelope v >>= fun _ => call.decode body v) = _
  rw [hcheck]
  rfl

theorem read_of_unreported (hstatus : isSuccess status = true)
    (hnone : ∀ error, ¬Reports body error) :
    Decoded (call.read (.response status (some body))) := by
  rw [read_of_success call status body hstatus]
  unfold document
  cases hparse : Json.parse body with
  | error flaw =>
    intro e he
    cases he
    exact ⟨_, _, rfl⟩
  | ok v =>
    have hpassed : checkEnvelope v = .ok () :=
      (checkEnvelope_eq_ok_iff v).mpr ((quiet_iff body v hparse).mp hnone)
    change Decoded (checkEnvelope v >>= fun _ => call.decode body v)
    rw [hpassed]
    exact decoded_decode call body v

/-- A successful answer is read by the rule. -/
theorem envelopeRule_of_success (hstatus : isSuccess status = true) :
    EnvelopeRule status body (call.read (.response status (some body))) where
  reported := by
    intro error hreports
    refine ⟨description error, errorCode error, ?_, describes_description error, ?_⟩
    · exact read_of_reported call status body hstatus error hreports
    · exact (codes_iff error _).mpr rfl
  unauthorized := by
    intro error hreports hcode
    refine ⟨_, read_of_reported call status body hstatus error hreports, ?_⟩
    rw [← (codes_iff error 1).mp hcode]
    rfl
  unreported := by
    intro hnone
    have hdecoded := read_of_unreported call status body hstatus hnone
    refine ⟨?_, ?_, ?_⟩
    · intro description code he
      obtain ⟨message, text, hsame⟩ := hdecoded _ he
      cases hsame
    · rintro ⟨code, text, he⟩
      obtain ⟨message, text', hsame⟩ := hdecoded _ he
      cases hsame
    · intro hbad
      rw [hstatus] at hbad
      cases hbad

/-- Another answer is read by the rule when there is no envelope that it could miss. -/
theorem envelopeRule_of_failure_iff (hstatus : isSuccess status = false) :
    EnvelopeRule status body (call.read (.response status (some body))) ↔
      ∀ error, ¬Reports body error := by
  rw [read_of_failure call status body hstatus]
  constructor
  · intro hrule error hreports
    obtain ⟨description, code, hsame, -⟩ := hrule.reported error hreports
    cases hsame
  · intro hnone
    refine ⟨?_, ?_, ?_⟩
    · intro error hreports
      exact absurd hreports (hnone error)
    · intro error hreports
      exact absurd hreports (hnone error)
    · intro _
      refine ⟨?_, ?_⟩
      · intro description code he
        cases he
      · exact ⟨fun _ => hstatus, fun _ => ⟨_, _, rfl⟩⟩

end Calls

section Outcomes

variable (gateway : Behaviour) (t : Trace) (client : Client) (call : Call)
  (request : Request) (status : UInt16) (body : String)

private theorem outcome_of_answer (hrequest : call.request client = .ok request)
    (hanswer : gateway t.requests request = .response status (some body)) :
    (Attempt.outcome gateway (call.attempt client) t).1 =
      call.read (.response status (some body)) := by
  rw [outcome_attempt, hrequest, ← hanswer]
  rfl

/-- Every call ends on a body that was read in full as it is said to, if the status is a success or
the body reports no error. In any other case it ends with the status, and the error that the body
reports goes unnoticed. -/
theorem envelopeRule_iff (hrequest : call.request client = .ok request)
    (hanswer : gateway t.requests request = .response status (some body)) :
    (EnvelopeRule status body (Attempt.outcome gateway (call.attempt client) t).1 ↔
        isSuccess status = true ∨ ∀ error, ¬Reports body error) ∧
      (isSuccess status = false →
        (Attempt.outcome gateway (call.attempt client) t).1 =
          .error (.status status (preview body))) := by
  rw [outcome_of_answer gateway t client call request status body hrequest hanswer]
  cases hstatus : isSuccess status with
  | true =>
    refine ⟨?_, ?_⟩
    · exact ⟨fun _ => Or.inl rfl, fun _ => envelopeRule_of_success call status body hstatus⟩
    · intro hbad
      cases hbad
  | false =>
    refine ⟨?_, fun _ => read_of_failure call status body hstatus⟩
    rw [envelopeRule_of_failure_iff call status body hstatus]
    simp

def sampleRequest : Request :=
  ⟨.get, ⟨"http", "", "", some (.domain "gw"), none, .segments ["api", "T", "config"], none, none⟩,
    none⟩

def refusal : String :=
  "\x7b\"error\":\x7b\"type\":1,\"description\":\"unauthorized user\"\x7d\x7d"

def refusing : Behaviour := fun _ _ => .response 403 (some refusal)

private theorem sampleRequest_eq : Call.about.request sampleClient = .ok sampleRequest := by
  rfl

theorem envelopeRule_iff_refusing :
    (Call.about.request sampleClient = .ok sampleRequest ∧
        refusing Trace.empty.requests sampleRequest = .response 403 (some refusal)) ∧
      (EnvelopeRule 403 refusal
          (Attempt.outcome refusing (Call.about.attempt sampleClient) .empty).1 ↔
        isSuccess 403 = true ∨ ∀ error, ¬Reports refusal error) ∧
      (isSuccess 403 = false →
        (Attempt.outcome refusing (Call.about.attempt sampleClient) .empty).1 =
          .error (.status 403 (preview refusal))) :=
  ⟨⟨sampleRequest_eq, rfl⟩,
    envelopeRule_iff refusing .empty sampleClient .about sampleRequest 403 refusal
      sampleRequest_eq rfl⟩

/-- A refusal with the status 403 is not read by the rule. -/
theorem not_envelopeRule_refusing :
    ¬EnvelopeRule 403 refusal
      (Attempt.outcome refusing (Call.about.attempt sampleClient) .empty).1 := by
  have hreports : Reports refusal (.object [("type", .nat 1),
      ("description", .string "unauthorized user")]) := by
    rw [reports_iff]
    exact ⟨_, rfl, rfl⟩
  have houtcome := outcome_of_answer refusing .empty sampleClient .about sampleRequest 403 refusal
    sampleRequest_eq rfl
  rw [houtcome, envelopeRule_of_failure_iff .about 403 refusal rfl]
  intro hnone
  exact hnone _ hreports

end Outcomes

end ZigbeeBridge.Gateway
