import MachiningViewer.Job.Basic

/-!
# Why a fetch fails

The causes for which a job snapshot or the text of an artefact cannot be had.
-/

namespace MachiningViewer

/-- Why a snapshot or a text cannot be had. -/
inductive FetchError where
  | notFound (job : JobId)
  /-- The backend cannot be reached at all. -/
  | unavailable (cause : String)
  | rateLimited
  | queuePaused
  | forbidden
  /-- The backend answers with some other status, for which its answer gives the reason. -/
  | status (code : Nat) (reason : String)
  /-- The answer cannot be decoded. -/
  | decode (cause : String)
  deriving DecidableEq, Repr, Inhabited

namespace FetchError

/-- The error in words. -/
def message : FetchError → String
  | notFound job => "Job " ++ toString job ++ " not found"
  | unavailable cause => "Backend unavailable: " ++ cause
  | rateLimited => "Rate limit exceeded (429), try again later"
  | queuePaused => "Queue is paused (409), try again shortly"
  | forbidden => "Not authorized (403)"
  | status code reason => "Request failed with HTTP " ++ toString code ++ ": " ++ reason
  | decode cause => "Malformed response: " ++ cause

/-- Does the backend not know the job? -/
def isNotFound : FetchError → Bool
  | notFound _ => true
  | _ => false

/-- The error that a status stands for. Only a job that was asked for can be not found; an answer
without a body is given a reason. -/
def ofStatus (job : Option JobId) (code : Nat) (body : String) : FetchError :=
  match code, job with
  | 404, some id => notFound id
  | 429, _ => rateLimited
  | 409, _ => queuePaused
  | 403, _ => forbidden
  | _, _ => status code (if body.isEmpty then "request failed: " ++ toString code else body)

end FetchError

end MachiningViewer
