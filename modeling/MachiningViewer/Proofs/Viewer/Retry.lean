import MachiningViewer.Proofs.Progress.Phases
import MachiningViewer.Proofs.Progress.Requests
import MachiningViewer.Proofs.Viewer.Client
import MachiningViewer.Proofs.Viewer.Mirror

/-!
# Trying a lost stream again

The stream of a session is opened once, and when it is lost it stays lost until the owner of the
viewer tries it again. A retry is for nothing else. Without a session, or while a stream is open or
about to be, it leaves no trace (`retry_of_idle`), and over a lost stream it makes the progress
client connect to the session's job again and moves nothing besides (`retry_of_disconnected`).

Both rest on what a session keeps over its whole course: the client is subscribed to the session's
job (`Mirrors.attached`), so this is the job that the client would connect to, and its phase is that
of the reader of the subscription (`Client.Coherent`), so the stream is lost if it is neither open
nor about to be.
-/

namespace MachiningViewer

namespace Progress.Client

variable {c : Client} {s : Subscription} {job : JobId}

/-- A client whose stream is not lost follows the job of its subscription. -/
theorem Coherent.follows (hc : c.Coherent) (hs : c.active = some s)
    (hphase : c.state.phase ≠ .disconnected) : c.follows s.job := by
  have hopen : c.state.phase.isOpen := by
    rw [hc.phase_eq s hs] at hphase ⊢
    cases hr : s.reader with
    | fresh => rfl
    | opening => rfl
    | reading stream => rfl
    | finished => exact absurd (congrArg Reader.phase hr) hphase
  rw [Client.follows, hs]
  exact Bool.and_eq_true_iff.2 ⟨beq_self_eq_true s.job, hopen⟩

theorem not_follows_of_disconnected (hphase : c.state.phase = .disconnected) :
    ¬ c.follows job := by
  intro hf
  have hopen := isOpen_of_follows hf
  rw [hphase] at hopen
  cases hopen

/-- A lost stream is held no more. -/
theorem Coherent.held_of_disconnected (hc : c.Coherent)
    (hphase : c.state.phase = .disconnected) : c.held = none := by
  cases hs : c.active with
  | none => exact held_of_none hs
  | some s =>
    rw [hc.phase_eq s hs] at hphase
    rw [held, hs]
    show s.stream? = none
    unfold Subscription.stream?
    cases hr : s.reader with
    | reading stream =>
      rw [hr] at hphase
      cases hphase
    | _ => rfl

/-- The first turn of the current reader asks for its stream. -/
theorem requests_turn (hs : c.active = some s) (hr : s.reader = .fresh) :
    c.requests (.happening (.turn s.generation)) = [(s.generation, s.job)] := by
  have ha : s.awaits (.turn s.generation) := by simp [Subscription.awaits, hr]
  rw [requests, react, step_of_awaits hs ha]
  rfl

/-- Happenings make no subscription. -/
theorem subscribed_of_happenings {is : List Input} (his : ∀ k, .call k ∉ is) :
    c.subscribed is = [] := by
  refine List.eq_nil_iff_forall_not_mem.2 fun p hp => ?_
  obtain ⟨pre, i, post, rfl, hi⟩ := mem_gather hp
  cases i with
  | call k => exact his k (List.mem_append_right _ List.mem_cons_self)
  | happening h => cases hi

end Progress.Client

namespace Viewer.Machine

variable {m : Machine} {s : Session} {is js : List Input}

/-- All that a run brings about outside the viewer, in order. -/
def effects (m : Machine) (is : List Input) : List Effect :=
  gather after (fun m i => (m.react i).2) m is

/-- The streams that the transport is asked for during a run, in order: for which subscription of
the progress client, and of which job. -/
def streamRequests (m : Machine) (is : List Input) : List (Nat × JobId) :=
  gather after (fun m i => (m.progressEffects i).filterMap Progress.Effect.request?) m is

/-- From one viewer to the other, the progress client has begun to connect to a job and has kept
what it knows of the progress, and nothing else has changed. -/
structure Connects (m m' : Machine) (job : JobId) : Prop where
  others_eq : m' = { m with client := m'.client }
  active_eq : m'.client.active = some ⟨job, m.client.state.generation + 1, .fresh⟩
  job_eq : m'.client.state.job = some job
  phase_eq : m'.client.state.phase = .connecting
  values_eq : m'.client.state.progress = m.client.state.progress ∧
    m'.client.state.message = m.client.state.message

/-! ### Requests for streams -/

/-- The requests of a viewer for streams are those of its progress client. -/
theorem streamRequests_run (pollInterval : Nat) (is js : List Input) :
    ((initial pollInterval).run is).streamRequests js =
      ((initial pollInterval).run is).client.requested
        (((initial pollInterval).run is).clientRun js) := by
  have hwhole (is : List Input) : (initial pollInterval).streamRequests is =
      Progress.Client.initial.requested ((initial pollInterval).clientRun is) := by
    refine gather_clientRun (fun m i hm => ?_) pollInterval is
    have heffects : m.progressEffects i = _ := congrArg Prod.snd (hm.progress_react i)
    rw [heffects]
    cases m.clientInput? i <;> rfl
  -- The whole run has the first part in common with its client's, so the rest is the same, too.
  have happend := hwhole (is ++ js)
  rw [clientRun_append, streamRequests, Progress.Client.requested, gather_append, gather_append]
    at happend
  rw [client_run]
  exact List.append_cancel_left ((congrArg (· ++ _) (hwhole is)).symm.trans happend)

/-- Without calls of the viewer there are none of its client. -/
theorem call_notMem_clientRun (m : Machine) (hjs : ∀ k, .call k ∉ js) (k : Progress.Call) :
    .call k ∉ m.clientRun js := by
  intro hk
  obtain ⟨pre, i, post, rfl, hi⟩ := mem_gather hk
  cases i with
  | call k' => exact hjs k' (List.mem_append_right _ List.mem_cons_self)
  | happening h => cases h <;> cases Option.mem_toList.1 hi

/-- No call asks for a stream there and then. -/
theorem streamRequests_call (pollInterval : Nat) (is : List Input) (k : Call) :
    ((initial pollInterval).run is).streamRequests [.call k] = [] := by
  rw [streamRequests_run, clientRun_singleton]
  cases hi : ((initial pollInterval).run is).clientInput? (.call k) with
  | none => rfl
  | some i =>
    obtain ⟨k', rfl⟩ : ∃ k', i = .call k' := by
      cases k with
      | retryStream =>
        obtain ⟨-, hi⟩ := Option.ite_none_right_eq_some.1 hi
        exact ⟨_, (Option.some.inj hi).symm⟩
      | _ => exact ⟨_, (Option.some.inj hi).symm⟩
    exact (gather_singleton ..).trans (Progress.Client.requests_call _ k')

/-! ### When there is nothing to try again -/

theorem react_retryStream (hs : m.session = some s) (hn : m.dropped = false) :
    m.react (.call .retryStream) = m.withClient m.client.resubscribe := by
  show m.call .retryStream = _
  rw [call_of_not_dropped hn]
  simp only [retryStream, hs]

theorem react_retryStream_of_none (hs : m.session = none) :
    m.react (.call .retryStream) = (m, []) := by
  show m.call .retryStream = _
  unfold call
  split
  · rfl
  · simp only [retryStream, hs]

/-- The client of a viewer with a session would connect to the session's job. -/
theorem resubscribe_of_session {pollInterval : Nat}
    (hs : ((initial pollInterval).run is).session = some s) :
    ((initial pollInterval).run is).client.resubscribe =
      ((initial pollInterval).run is).client.subscribe s.job := by
  have hc := (coherent_run pollInterval ((coherent_initial _).not_drop_of_session hs)).client
  obtain ⟨a, ha, hjob⟩ := (mirrors_of_session hs).attached
  rw [Progress.Client.resubscribe, hc.lastJob_eq a ha, hjob]

/-- **A retry without a lost stream does nothing.** -/
theorem retry_of_idle {pollInterval : Nat}
    (hidle : ((initial pollInterval).run is).session = none ∨
      ((initial pollInterval).run is).client.state.phase ≠ .disconnected) :
    ((initial pollInterval).run is).react (.call .retryStream) =
      ((initial pollInterval).run is, []) := by
  cases hs : ((initial pollInterval).run is).session with
  | none => exact react_retryStream_of_none hs
  | some s =>
    have hphase := hidle.resolve_left (by rw [hs]; exact Option.some_ne_none s)
    have hc := coherent_run pollInterval ((coherent_initial _).not_drop_of_session hs)
    obtain ⟨a, ha, hjob⟩ := (mirrors_of_session hs).attached
    have hnothing := Progress.Client.subscribe_eq_iff.2 (hc.client.follows ha hphase)
    rw [hjob] at hnothing
    rw [react_retryStream hs hc.not_dropped, resubscribe_of_session hs, hnothing]
    rfl

/-! ### When the stream is lost -/

/-- **A retry over a lost stream connects again**, and gives no stream back, since none is open. -/
theorem retry_of_disconnected {pollInterval : Nat}
    (hs : ((initial pollInterval).run is).session = some s)
    (hphase : ((initial pollInterval).run is).client.state.phase = .disconnected) :
    ((initial pollInterval).run is).Connects
        (((initial pollInterval).run is).after (.call .retryStream)) s.job ∧
      ((initial pollInterval).run is).givesBack (.call .retryStream) = [] := by
  have hc := coherent_run pollInterval ((coherent_initial _).not_drop_of_session hs)
  have hreact := react_retryStream hs hc.not_dropped
  rw [resubscribe_of_session hs] at hreact
  set m := (initial pollInterval).run is with hm
  have hf : ¬ m.client.follows s.job := Progress.Client.not_follows_of_disconnected hphase
  have hafter : m.after (.call .retryStream) =
      { m with client := (m.client.subscribe s.job).1 } := congrArg Prod.fst hreact
  -- The client has been subscribed to the job before, so it keeps what it knows of the progress.
  obtain ⟨a, ha, hjob⟩ := (mirrors_of_session hs).attached
  have hsame : m.client.state.job = some s.job := hjob ▸ hc.client.job_eq a ha
  have hstate : (m.client.subscribe s.job).1.state = { m.client.state with
      generation := m.client.state.generation + 1, phase := .connecting } := by
    rw [Progress.Client.subscribe_state hf]
    exact if_pos hsame
  constructor
  · rw [hafter]
    refine ⟨rfl, Progress.Client.subscribe_active hf, ?_, ?_, ?_⟩
    · exact (congrArg (·.job) hstate).trans hsame
    · exact congrArg (·.phase) hstate
    · exact ⟨congrArg (·.progress) hstate, congrArg (·.message) hstate⟩
  · have heffects : m.progressEffects (.call .retryStream) = (m.client.subscribe s.job).2 := by
      rw [progressEffects, hreact, progress_withClient]
    have hbalance := m.client.subscribe_balance s.job
    rw [hc.client.held_of_disconnected hphase] at hbalance
    rw [givesBack, heffects]
    exact (List.append_eq_nil_iff.1 hbalance.symm).1

/-- What the client asks the transport for after a retry is one stream of the job at most. -/
theorem Connects.streamRequests {m' : Machine} {job : JobId} (hm : m.Connects m' job)
    {pollInterval : Nat} (hrun : m' = (initial pollInterval).run is) (hjs : ∀ k, .call k ∉ js) :
    (m'.streamRequests js).Sublist [(m.client.state.generation + 1, job)] := by
  have hunasked : m'.client.unasked? = some (m.client.state.generation + 1, job) :=
    Progress.Client.unasked?_eq_some_iff.2 ⟨_, hm.active_eq, rfl, rfl⟩
  have hsublist := m'.client.requested_sublist (m'.clientRun js)
  rw [hunasked, Progress.Client.subscribed_of_happenings (m'.call_notMem_clientRun hjs)] at hsublist
  rw [hrun, streamRequests_run, ← hrun]
  exact hsublist

/-- **A retry of the stream does one thing.** Take a viewer in any state that a run reaches.
(a) Without a session, or if the stream is not lost, a retry does nothing at all: from then on, too,
the viewer is and brings about what it would have without it.
(b) With a session whose stream is lost, the progress client connects to the session's job, keeps
the progress and its message, and the rest of the viewer stays: no stream is given back, at most one
is asked for until the next call, and it is asked for when the new reader gets its first turn.
What the view shows of the job, and where the tracker is, are from then on, too, what they would
have been without it. -/
theorem retry_connects_or_idles (pollInterval : Nat) (is : List Input) :
    let m := (initial pollInterval).run is
    let retry : Input := .call .retryStream
    (m.session = none ∨ m.client.state.phase ≠ .disconnected →
        ∀ js, m.run (retry :: js) = m.run js ∧ m.effects (retry :: js) = m.effects js) ∧
      ∀ s, m.session = some s → m.client.state.phase = .disconnected →
        let m' := m.after retry
        let request := (m.client.state.generation + 1, s.job)
        m.Connects m' s.job ∧ m.givesBack retry = [] ∧
          (∀ js, (∀ k, .call k ∉ js) → (m.streamRequests (retry :: js)).Sublist [request]) ∧
          m'.streamRequests [.happening (.progress (.turn request.1))] = [request] ∧
          ∀ js, (m.run (retry :: js)).view.jobPart = (m.run js).view.jobPart ∧
            (m.run (retry :: js)).session.map (·.tracker) = (m.run js).session.map (·.tracker) := by
  intro m retry
  constructor
  · intro hidle js
    have hreact : m.react retry = (m, []) := retry_of_idle hidle
    have hafter : m.after retry = m := congrArg Prod.fst hreact
    constructor
    · rw [run_cons, hafter]
    · show (m.react retry).2 ++ (m.after retry).effects js = _
      rw [hreact, hafter]
      rfl
  · intro s hs hphase m' request
    obtain ⟨hconnects, hgives⟩ := retry_of_disconnected hs hphase
    have hrun : m' = (initial pollInterval).run (is ++ [retry]) :=
      (run_append (initial pollInterval) is [retry]).symm
    have hrequests (js : List Input) : m.streamRequests (retry :: js) = m'.streamRequests js := by
      have hnow := streamRequests_call pollInterval is .retryStream
      exact (gather_append _ _ m [retry] js).trans (congrArg (· ++ _) hnow)
    refine ⟨hconnects, hgives,
      fun js hjs => hrequests js ▸ hconnects.streamRequests hrun hjs, ?_, fun js => ?_⟩
    · have hfirst := m'.client.requests_turn hconnects.active_eq rfl
      rw [hrun, streamRequests_run, ← hrun, clientRun_singleton]
      exact (gather_singleton ..).trans hfirst
    · -- A retry does not concern the tracker, so both runs are the same to it.
      have hskip : (retry :: js).filter Input.isOfJob = js.filter Input.isOfJob := rfl
      have hside := side_run_congr jobSide (fun m _ => m.jobSide_after_of_not)
        (fun m _ => m.jobSide_after) hskip m
      refine ⟨congrArg (·.view.jobPart) hside, ?_⟩
      have htracker (m : Machine) :
          m.jobSide.session.map (·.tracker) = m.session.map (·.tracker) := by
        simp only [jobSide, Option.map_map]
        rfl
      rw [← htracker, hside, htracker]

/-- A session is begun, its stream is opened, and it breaks. -/
def streamLost : List Input :=
  [.call (.view 7), .happening (.progress (.turn 1)), .happening (.progress (.answer 1 (.ok 0))),
    .happening (.progress (.receive 1 (.failure (.stream "reset"))))]

/-- The first retry asks for a stream of the job again, and a second one that follows at once does
nothing more. -/
theorem streamLost_retried :
    let m := (initial 500).run streamLost
    let retry : Input := .call .retryStream
    m.session = some ⟨7, 1, false, .fresh, none⟩ ∧ m.client.state.phase = .disconnected ∧
      (m.after retry).client.state.phase = .connecting ∧
      (m.after retry).streamRequests [.happening (.progress (.turn 2))] = [(2, 7)] ∧
      (m.after retry).effects [retry] = [] := by
  intro m retry
  obtain ⟨hconnects, -, -, hfirst, -⟩ :=
    (retry_connects_or_idles 500 streamLost).2 ⟨7, 1, false, .fresh, none⟩ rfl rfl
  have hagain := (retry_connects_or_idles 500 (streamLost ++ [retry])).1 (.inr (by decide)) []
  exact ⟨rfl, rfl, hconnects.phase_eq, hfirst, hagain.2⟩

end Viewer.Machine

end MachiningViewer
