import ZigbeeBridge.Proofs.Gateway.Envelope
import ZigbeeBridge.Proofs.Text.Utf8

/-!
What an error shows of a body. A body of at most 200 bytes is shown whole, a longer one up to the
last boundary between characters within them. Calls that fail with a status show the answer's text
in this way, and no other failure of a call is about the status.
-/
namespace ZigbeeBridge.Gateway

open Data Text
open Dialogue (Attempt Behaviour Trace)

/-- The text that came with an answer; empty where there is none that could be read. -/
def Answer.text : Answer → String
  | .response _ body => body.getD ""
  | .none | .timeout => ""

/-- An answer whose status is no success, and what an error shows of it. -/
structure Refused (answer : Answer) (code : UInt16) (shown : String) : Prop where
  answered : ∃ body, answer = .response code body
  unsuccessful : isSuccess code = false
  shows : shown = preview answer.text
  beginning : ∃ rest, answer.text = shown ++ rest
  settled : preview shown = shown

section Previews

theorem shortened_preview (body : String) : Shortened 200 body (preview body) :=
  shortened_takeBytesOf previewLength body

theorem preview_preview (body : String) : preview (preview body) = preview body :=
  takeBytesOf_of_fits (shortened_preview body).fits

theorem refused_response {code : UInt16} (body : Option String)
    (hcode : isSuccess code = false) :
    Refused (.response code body) code (preview (body.getD "")) where
  answered := ⟨body, rfl⟩
  unsuccessful := hcode
  shows := rfl
  beginning := (shortened_preview (body.getD "")).beginning
  settled := preview_preview (body.getD "")

end Previews

section Statuses

variable (call : Call) {answer : Answer} {code : UInt16} {shown : String}

theorem content_eq_status_iff :
    content answer = .error (.status code shown) ↔ Refused answer code shown := by
  constructor
  · intro hcontent
    cases answer with
    | none | timeout => cases hcontent
    | response status body =>
      cases hstatus : isSuccess status with
      | false =>
        simp only [content, hstatus, Bool.not_false, if_true, Except.error.injEq,
          Error.status.injEq] at hcontent
        obtain ⟨rfl, rfl⟩ := hcontent
        exact refused_response body hstatus
      | true =>
        cases body with
        | none => simp [content, hstatus] at hcontent
        | some body => simp [content, hstatus] at hcontent
  · intro hrefused
    obtain ⟨body, rfl⟩ := hrefused.answered
    rw [hrefused.shows]
    simp [content, hrefused.unsuccessful, Answer.text]

/-- Once there is a text to decode, a call does not fail with a status any more. -/
theorem read_ne_status_of_content {body : String} (hcontent : content answer = .ok body) :
    call.read answer ≠ .error (.status code shown) := by
  obtain ⟨status, rfl, hstatus⟩ := (content_eq_ok_iff answer body).mp hcontent
  intro hread
  by_cases hreports : ∃ error, Reports body error
  · obtain ⟨error, hreports⟩ := hreports
    rw [read_of_reported call status body hstatus error hreports] at hread
    cases hread
  · have hnone := not_exists.mp hreports
    obtain ⟨message, text, hsame⟩ := read_of_unreported call status body hstatus hnone _ hread
    cases hsame

theorem read_eq_status_iff :
    call.read answer = .error (.status code shown) ↔ Refused answer code shown := by
  rw [← content_eq_status_iff]
  cases hcontent : content answer with
  | ok body =>
    have hread : call.read answer ≠ .error (.status code shown) :=
      read_ne_status_of_content call hcontent
    simp [hread]
  | error e =>
    have hread : call.read answer = .error e := by
      unfold Call.read accept
      rw [hcontent]
      rfl
    rw [hread]
    simp

/-- A request that cannot be made is not refused by a gateway. -/
theorem request_ne_status (client : Client) :
    call.request client ≠ .error (.status code shown) := by
  unfold Call.request Client.request Client.url
  cases Url.parse s!"{dropSlashesEnd client.base.text}/api/{client.token}/{call.path}" with
  | error flaw =>
    intro hrequest
    cases hrequest
  | ok url =>
    cases hhttp : Client.isHttp url with
    | true => simp [Bind.bind, Except.bind, hhttp]
    | false => simp [Bind.bind, Except.bind, hhttp]

/-- The search for the place to cut a body at comes to an end, and the cut falls between characters.
What is left is the longest beginning of at most 200 bytes: all of a body that takes no more, and at
least 197 bytes of a longer one. A call fails with a status exactly when its answer has one that is
no success, and the error shows as much of the answer's text, from which nothing is cut again. -/
theorem preview_shortens (body : String) (gateway : Behaviour) (t : Trace) (client : Client) :
    Shortened 200 body (preview body) ∧ preview (preview body) = preview body ∧
      ∀ code shown,
        (Attempt.outcome gateway (call.attempt client) t).1 = .error (.status code shown) ↔
          ∃ request, call.request client = .ok request ∧
            Refused (gateway t.requests request) code shown := by
  refine ⟨shortened_preview body, preview_preview body, ?_⟩
  intro code shown
  rw [outcome_attempt]
  unfold exchange
  cases hrequest : call.request client with
  | error e =>
    have hother : e ≠ .status code shown := by
      rintro rfl
      exact request_ne_status call client hrequest
    simp [hother]
  | ok request =>
    simp only [Except.ok.injEq, exists_eq_left']
    exact read_eq_status_iff call

end Statuses

end ZigbeeBridge.Gateway
