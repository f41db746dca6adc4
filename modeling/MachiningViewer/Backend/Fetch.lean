import MachiningViewer.Backend.FetchError
import MachiningViewer.Backend.Notices
import MachiningViewer.Http.Exchange
import MachiningViewer.Job.Decode
import MachiningViewer.Json.Record

/-!
# Fetching snapshots and texts

A backend serves the snapshot of a job at an address made from its own and the job's id, and the
text of an artefact at the artefact's locator. A fetch is one request; what it answers and reports
is decided by the answer alone.
-/

namespace MachiningViewer.Backend

/-- The result of a fetch, and what is reported meanwhile. -/
structure Fetched (α : Type) where
  result : Except FetchError α
  log : List Log.Record

/-- The address of a job's snapshot at a backend. -/
def jobAddress (base : String) (job : JobId) : String :=
  base ++ "/api/v1/jobs/" ++ toString job

/-- The error of an answer whose status is no success. A reason that does not arrive as a whole
counts as none. -/
def refusal (job : Option JobId) (r : Http.Response) : FetchError :=
  .ofStatus job r.status (r.text?.getD "")

/-- The text of a successful answer. -/
def wholeText (r : Http.Response) : Except FetchError String :=
  match r.text? with
  | some text => .ok text
  | none => .error (.decode Http.cutShort)

/-- What an answer to the request for a job's snapshot means. -/
def readJob (job : JobId) (r : Http.Response) : Fetched Job :=
  if r.isSuccess then
    let result := do
      let text ← wholeText r
      (Job.decode text).mapError fun fault => .decode (Json.faultMessage fault)
    ⟨result, (result.toOption.map (Notice.gotJob job)).toList⟩
  else ⟨.error (refusal (some job) r), [Notice.jobRefused job r.status]⟩

/-- What an answer to the request for an artefact's text means. -/
def readText (artefact : ArtefactRef) (r : Http.Response) : Fetched String :=
  if r.isSuccess then
    let result := wholeText r
    ⟨result, (result.toOption.map (Notice.gotText artefact)).toList⟩
  else ⟨.error (refusal none r), [Notice.textRefused artefact r.status]⟩

/-- What is fetched by a request that reports something before it is made. -/
def Fetched.after (first : Log.Record) (read : Http.Response → Fetched α)
    (answer : Except Http.RequestFault Http.Response) : Fetched α :=
  match answer with
  | .error fault => ⟨.error (.unavailable fault.message), [first]⟩
  | .ok r => ⟨(read r).result, first :: (read r).log⟩

/-- Fetches the snapshot of a job. -/
def fetchJob [Monad m] (send : Http.Request → m Http.Reply) (base : String) (job : JobId) :
    m (Fetched Job) := do
  let address := jobAddress base job
  let answer ← Http.exchange send address "*/*" true
  pure (.after (Notice.fetchingJob job address) (readJob job) answer)

/-- Fetches the text of an artefact. -/
def fetchText [Monad m] (send : Http.Request → m Http.Reply) (artefact : ArtefactRef) :
    m (Fetched String) := do
  let answer ← Http.exchange send artefact.locator "*/*" false
  pure (.after (Notice.fetchingText artefact) (readText artefact) answer)

end MachiningViewer.Backend
