import LinkedKeys.Proofs.Control.Filing
import LinkedKeys.Web.Fetch

namespace LinkedKeys.Web

open Control (Alert Outcome)

variable {name text : String} {url : Url} {reply : Reply} {status : Nat} {body : List UInt8}
  {complete : Bool}

-- The status of an answer, its body, and whether the body is all there. An answer of status 204 ends
-- with its head, so nothing of it can be missing.
def Reply.content? : Reply → Option (Nat × List UInt8 × Bool)
  | .response status body complete =>
      if status = 204 then some (204, [], true) else some (status, body, complete)
  | _ => none

-- A whole answer that says it is one, with something in it.
def Reply.Brings (reply : Reply) (body : List UInt8) : Prop :=
  ∃ status, reply.content? = some (status, body, true) ∧ isSuccess status = true ∧ body ≠ []

theorem replacing_empty (bytes : List UInt8) : Text.ofBytesReplacing bytes = "" ↔ bytes = [] := by
  cases bytes with
  | nil => exact ⟨fun _ => rfl, fun _ => rfl⟩
  | cons b rest => simp [Text.ofBytesReplacing, Text.replacing]

-- Each byte leaves something behind, whether it can be read or not.
theorem Reply.Brings.text_full (brings : reply.Brings body) : Text.ofBytesReplacing body ≠ "" := by
  obtain ⟨_, _, _, full⟩ := brings
  exact mt (replacing_empty body).mp full

theorem Reply.Brings.seen (brings : reply.Brings body) : reply.isSeen = true := by
  obtain ⟨status, answers, _⟩ := brings
  cases reply with
  | refused => cases answers
  | _ => rfl

-- What is told of any other answer.
inductive Told (name : String) : Reply → Alert → Prop where
  | refused (reason : String) : Told name .refused (.requestFailed reason)
  | closed (reason : String) : Told name .closed (.requestFailed reason)
  | silent : Told name .silent .timedOut
  | unknown {reply : Reply} {body : List UInt8} {complete : Bool}
      (answers : reply.content? = some (404, body, complete)) : Told name reply (.userNotFound name)
  | unsuccessful {reply : Reply} {status : Nat} {body : List UInt8} {complete : Bool}
      (answers : reply.content? = some (status, body, complete))
      (fails : isSuccess status = false) (other : status ≠ 404) (reason : String) :
      Told name reply (.requestFailed reason)
  | cut {reply : Reply} {status : Nat} {body : List UInt8}
      (answers : reply.content? = some (status, body, false)) (succeeds : isSuccess status = true)
      (reason : String) : Told name reply (.requestFailed reason)
  | empty {reply : Reply} {status : Nat}
      (answers : reply.content? = some (status, [], true)) (succeeds : isSuccess status = true) :
      Told name reply (.noKeys name)

theorem success_cases (succeeds : isSuccess status = true) :
    isFinal status = true ∧ status ≠ 404 ∧ (isBodyless status = true ↔ status = 204) := by
  simp only [isSuccess, decide_eq_true_eq] at succeeds
  simp only [isFinal, isBodyless, decide_eq_true_eq]
  omega

theorem judge_success (text : String) (url : Url)
    (answers : reply.content? = some (status, body, complete))
    (succeeds : isSuccess status = true) : judge text url reply =
      if complete then .fetched (Text.ofBytesReplacing body)
      else .failed "error decoding response body" := by
  cases reply with
  | response code bytes whole =>
      simp only [Reply.content?] at answers
      by_cases bodyless : code = 204
      · subst bodyless
        cases answers
        rfl
      · rw [if_neg bodyless] at answers
        cases answers
        obtain ⟨final, known, bare⟩ := success_cases succeeds
        simp [judge, final, known, succeeds, bare, bodyless]
  | refused => cases answers
  | closed => cases answers
  | silent => cases answers

theorem judge_failing (text : String) (url : Url) (body : List UInt8) (complete : Bool)
    (fails : isSuccess status = false) (other : status ≠ 404) :
    ∃ reason, judge text url (.response status body complete) = .failed reason := by
  by_cases final : isFinal status = true
  · exact ⟨_, by simp only [judge, final, fails, other]; rfl⟩
  · exact ⟨_, by simp only [judge, final]; rfl⟩

theorem content_response (status : Nat) (body : List UInt8) (complete : Bool) :
    ∃ body' complete', (Reply.response status body complete).content? = some (status, body', complete') := by
  simp only [Reply.content?]
  split
  · rename_i bodyless
    exact ⟨[], true, by rw [bodyless]⟩
  · exact ⟨body, complete, rfl⟩

theorem judge_told (name text : String) (url : Url) (fruitless : ¬∃ body, reply.Brings body) :
    ∃ alert, Told name reply alert ∧ (judge text url reply).alert? name = some alert := by
  cases reply with
  | refused => exact ⟨_, .refused _, rfl⟩
  | closed => exact ⟨_, .closed _, rfl⟩
  | silent => exact ⟨_, .silent, rfl⟩
  | response status body complete =>
      obtain ⟨content, whole, answers⟩ := content_response status body complete
      cases succeeds : isSuccess status with
      | false =>
          by_cases unknown : status = 404
          · subst unknown
            exact ⟨_, .unknown answers, rfl⟩
          · obtain ⟨reason, judged⟩ := judge_failing text url body
              complete succeeds unknown
            exact ⟨_, .unsuccessful answers succeeds unknown reason, by rw [judged]; rfl⟩
      | true =>
          have judged := judge_success text url answers succeeds
          cases whole with
          | false => exact ⟨_, .cut answers succeeds _, by rw [judged]; rfl⟩
          | true =>
              by_cases bare : content = []
              · subst bare
                exact ⟨_, .empty answers succeeds, by rw [judged]; rfl⟩
              · exact absurd ⟨content, status, answers, succeeds, bare⟩ fruitless

theorem judge_brings (brings : reply.Brings body) :
    judge text url reply = .fetched (Text.ofBytesReplacing body) := by
  obtain ⟨status, answers, succeeds, _⟩ := brings
  rw [judge_success text url answers succeeds]
  rfl

end LinkedKeys.Web
