import MachiningViewer.Proofs.Viewer.Sessions

/-!
# How a session polls its job

The tracker of a session asks for one thing at a time. A snapshot that does not end the job, and a
failure that leaves hope, are followed by a pause of the poll interval, after which it asks again;
a text is asked for in between. It stops at the end of the job, or when the job turns out not to be
known, and for no other reason (`polling_discipline`).

What one input is to the tracker is said once (`Round`, `Coherent.round`). From it follow what holds
of every open session (`Tracked`, which keeps the account of requests and answers since the session
began), that a tracker which has stopped stays so, and that after an answer the next request for a
snapshot is not made before its time (`Paced`).
-/

namespace MachiningViewer

theorem JobStatus.isTerminal_iff {status : JobStatus} :
    status.isTerminal ↔ status = .success ∨ status = .failed := by
  cases status <;> decide

theorem FetchError.isNotFound_iff {e : FetchError} : e.isNotFound ↔ ∃ job, e = .notFound job := by
  cases e <;> simp [isNotFound]

namespace Viewer

/-! ### Requests and answers -/

/-- An answer of the backend that a tracker has waited for. -/
inductive Answer where
  | job (result : Except FetchError Job)
  | text (artefact : ArtefactRef) (result : Except FetchError String)

/-- The request that the session has made for it. -/
def Answer.request (s : Session) : Answer → Effect
  | .job _ => .fetchJob s.number s.job
  | .text artefact _ => .fetchText s.number artefact

/-- The snapshot, or why there is none, if that was asked for. -/
def Answer.snapshot? : Answer → Option (Except FetchError Job)
  | .job result => some result
  | .text _ _ => none

/-- The last of the answers that is to a request for a snapshot. -/
def lastSnapshot? (answers : List Answer) : Option (Except FetchError Job) :=
  (answers.filterMap (·.snapshot?)).getLast?

/-- Is there nothing more to come of the job? It is at its end, or not known. -/
def isFinal : Except FetchError Job → Bool
  | .ok job => job.status.isTerminal
  | .error e => e.isNotFound

/-- Is it only said to somebody? -/
def Effect.isNotice : Effect → Bool
  | .announce | .report _ => true
  | _ => false

/-- Is it a request for a snapshot or a text on behalf of the session of a number? -/
def Effect.isFetch (n : Nat) : Effect → Bool
  | .fetchJob number _ | .fetchText number _ => number == n
  | _ => false

namespace Tracker

/-- The answer that the tracker has waited for, if this is it. -/
def hears? (t : Tracker) : Happening → Option Answer
  | .jobAnswer _ result =>
    match t with
    | .fetchingJob => some (.job result)
    | _ => none
  | .textAnswer _ result =>
    match t with
    | .fetchingText artefact _ => some (.text artefact result)
    | _ => none
  | .trackerTurn _ | .relayTurn _ | .progress _ | .elapse _ => none

/-- Is it time to ask for a snapshot? -/
def isDue (clock : Nat) : Tracker → Bool
  | .fresh => true
  | .sleeping wake => wake ≤ clock
  | _ => false

/-- The request that the tracker of a session waits on, if it waits for the backend. -/
def request? (s : Session) : Tracker → Option Effect
  | .fetchingJob => some (.fetchJob s.number s.job)
  | .fetchingText artefact _ => some (.fetchText s.number artefact)
  | _ => none

end Tracker

namespace Machine

variable {m : Machine} {s s' : Session} {n : Nat} {i : Input} {is : List Input}

/-- The requests of the session of a number in one step. -/
def fetches (n : Nat) (m : Machine) (i : Input) : List Effect :=
  (m.react i).2.filter (·.isFetch n)

/-- The answer that the tracker of the session of a number gets in one step, if it does. -/
def answers (n : Nat) (m : Machine) : Input → List Answer
  | .happening h =>
    if h.session? = some n then ((m.current? n).bind (·.tracker.hears? h)).toList else []
  | .call _ => []

/-- The requests of the session of a number in a run. -/
def fetched (n : Nat) (m : Machine) (is : List Input) : List Effect :=
  gather after (fetches n) m is

/-- The answers that the tracker of the session of a number gets in a run. -/
def answered (n : Nat) (m : Machine) (is : List Input) : List Answer :=
  gather after (answers n) m is

/-! ### What is only said

Most of what a viewer does is heard of in notices alone: the view is announced, and something is
reported. Nothing is asked for by them, and the progress client has no part in them. -/

theorem notices_cancel (m : Machine) : m.cancel.2.all Effect.isNotice := by
  unfold cancel
  split <;> rfl

theorem notices_writeCurrent (m : Machine) (number : Nat) (f : View → View) :
    (m.writeCurrent number f).2.all Effect.isNotice := by
  unfold writeCurrent
  split <;> rfl

theorem notices_copyProgress (m : Machine) (job : JobId) (number : Nat) (p : Progress.State) :
    (m.copyProgress job number p).2.all Effect.isNotice := by
  unfold copyProgress
  split
  · exact notices_writeCurrent ..
  · rfl

theorem notices_lastWord (job : JobId) (status : JobStatus) :
    (lastWord job status).all Effect.isNotice := by
  unfold lastWord
  split <;> rfl

theorem notices_afterRound (m : Machine) (s : Session) (status : JobStatus) :
    (m.afterRound s status).2.all Effect.isNotice := by
  unfold afterRound
  split <;> rfl

theorem notices_relay (m : Machine) (s : Session) : (m.relay s).2.all Effect.isNotice := by
  unfold relay
  split
  · rfl
  · exact notices_copyProgress ..

theorem notices_receivedJobError (m : Machine) (s : Session) (e : FetchError) :
    (m.receivedJobError s e).2.all Effect.isNotice :=
  m.notices_writeCurrent s.number fun v => v.withError e.message

theorem notices_receivedText (m : Machine) (s : Session) (status : JobStatus)
    (result : Except FetchError String) :
    (m.receivedText s status result).2.all Effect.isNotice := by
  cases result <;>
    simp only [receivedText, List.all_append, List.all_cons, notices_writeCurrent,
      notices_afterRound] <;> rfl

/-- **What happens to a session that has ended is only heard of.** -/
theorem notices_stepLate (m : Machine) (number : Nat) (h : Happening) :
    (m.stepLate number h).2.all Effect.isNotice := by
  cases h with
  | progress e => rfl
  | elapse ms => rfl
  | trackerTurn number' => rfl
  | jobAnswer number' result =>
    simp only [stepLate]
    split
    · rename_i l _
      cases result with
      | ok job =>
        simp only [lateJob]
        split
        · simp only [List.all_append, notices_lastWord]
          rfl
        · rfl
      | error e => exact (m.forget l).notices_writeCurrent l.number fun v => v.withError e.message
    · rfl
  | textAnswer number' result =>
    simp only [stepLate]
    split
    · split
      · cases result <;>
          simp only [lateText, List.all_append, List.all_cons, notices_writeCurrent,
            notices_lastWord] <;> rfl
      · rfl
    · rfl
  | relayTurn number' =>
    simp only [stepLate]
    split
    · exact notices_copyProgress ..
    · rfl

/-! ### Who asks -/

/-- By notices nothing is asked for. -/
theorem fetches_of_notices {es : List Effect} (h : es.all Effect.isNotice) (n : Nat) :
    es.filter (·.isFetch n) = [] := by
  refine List.filter_eq_nil_iff.2 fun e he => ?_
  have hnotice := List.all_eq_true.1 h e he
  cases e <;> first | exact Bool.false_ne_true | cases hnotice

theorem fetches_withClient (m : Machine) (n : Nat) (r : Progress.Client × List Progress.Effect) :
    (m.withClient r).2.filter (·.isFetch n) = [] := by
  simp [withClient, Effect.isFetch]

/-- A call asks the backend for nothing. -/
theorem fetches_call (m : Machine) (n : Nat) (k : Call) : m.fetches n (.call k) = [] := by
  have hcancel := fetches_of_notices m.notices_cancel n
  show (m.call k).2.filter (·.isFetch n) = []
  unfold call
  split
  · rfl
  · cases k with
    | view job =>
      simp only [openJob, List.filter_append, hcancel, fetches_withClient]
      rfl
    | close =>
      simp only [close, List.filter_append, hcancel, fetches_withClient]
      cases m.sessionJob? <;> rfl
    | retryStream =>
      simp only [retryStream]
      split
      · exact fetches_withClient ..
      · rfl
    | drop =>
      simp only [drop, List.filter_append, hcancel, fetches_withClient]
      rfl

theorem request?_nextRound (m : Machine) (s : Session) (isLast : Bool) :
    (m.nextRound isLast).request? s = none := by
  cases isLast <;> rfl

/-- What is asked for at once when a snapshot arrives is what the tracker then waits on. -/
theorem fetches_answeredJob (m : Machine) (n : Nat) (s : Session)
    (result : Except FetchError Job) :
    (m.answeredJob s result).2.filter (·.isFetch n) =
      ((m.afterSnapshot s result).request? s).toList.filter (·.isFetch n) := by
  cases result with
  | ok job =>
    show (m.receivedJob s job).2.filter _ = _
    unfold receivedJob afterSnapshot trackerAfter
    simp only
    split
    · generalize job.resolve? .toolpathText = artefact?, s.loaded = loaded
      -- Only a toolpath that is not loaded yet has its text asked for.
      rcases artefact? with _ | artefact
      · simp only [List.filter_append, fetches_of_notices (notices_afterRound ..),
          request?_nextRound]
        rfl
      · cases loaded with
        | false => rfl
        | true =>
          simp only [List.filter_append, fetches_of_notices (notices_afterRound ..),
            request?_nextRound]
          rfl
    · rfl
  | error e =>
    show (m.receivedJobError s e).2.filter _ = _
    rw [fetches_of_notices (m.notices_receivedJobError s e), afterSnapshot, request?_nextRound]
    rfl

theorem fetches_request?_self (s : Session) (t : Tracker) :
    (t.request? s).toList.filter (·.isFetch s.number) = (t.request? s).toList := by
  cases t <;> simp [Tracker.request?, Effect.isFetch]

theorem fetches_request?_of_ne (hn : s.number ≠ n) (t : Tracker) :
    (t.request? s).toList.filter (·.isFetch n) = [] := by
  cases t <;> simp [Tracker.request?, Effect.isFetch, hn]

/-- **What the current session does with a happening.** It lets it pass, or its relay takes a turn,
or its tracker asks for a snapshot, or gets the answer that it has waited for. -/
theorem stepCurrent_cases (m : Machine) (s : Session) (h : Happening) :
    (m.stepCurrent s h = (m, []) ∧ s.tracker.hears? h = none) ∨
      (m.stepCurrent s h = m.relay s ∧ s.tracker.hears? h = none) ∨
      (s.tracker.isDue m.clock ∧ m.stepCurrent s h = m.requestJob s ∧
        s.tracker.hears? h = none) ∨
      (∃ result, s.tracker = .fetchingJob ∧ m.stepCurrent s h = m.answeredJob s result ∧
        s.tracker.hears? h = some (.job result)) ∨
      ∃ artefact status result, s.tracker = .fetchingText artefact status ∧
        m.stepCurrent s h = m.receivedText s status result ∧
        s.tracker.hears? h = some (.text artefact result) := by
  cases h with
  | progress e => exact .inl ⟨rfl, rfl⟩
  | elapse ms => exact .inl ⟨rfl, rfl⟩
  | relayTurn number => exact .inr (.inl ⟨rfl, rfl⟩)
  | trackerTurn number =>
    cases ht : s.tracker with
    | fresh => exact .inr (.inr (.inl ⟨rfl, by simp only [stepCurrent, ht], rfl⟩))
    | sleeping wake =>
      by_cases hwake : wake ≤ m.clock
      · exact .inr (.inr (.inl
          ⟨decide_eq_true hwake, by simp only [stepCurrent, ht, if_pos hwake], rfl⟩))
      · exact .inl ⟨by simp only [stepCurrent, ht, if_neg hwake], rfl⟩
    | fetchingJob => exact .inl ⟨by simp only [stepCurrent, ht], rfl⟩
    | fetchingText artefact status => exact .inl ⟨by simp only [stepCurrent, ht], rfl⟩
    | finished => exact .inl ⟨by simp only [stepCurrent, ht], rfl⟩
  | jobAnswer number result =>
    cases ht : s.tracker with
    | fetchingJob =>
      exact .inr (.inr (.inr (.inl ⟨result, rfl, by simp only [stepCurrent, ht], rfl⟩)))
    | fresh => exact .inl ⟨by simp only [stepCurrent, ht], rfl⟩
    | sleeping wake => exact .inl ⟨by simp only [stepCurrent, ht], rfl⟩
    | fetchingText artefact status => exact .inl ⟨by simp only [stepCurrent, ht], rfl⟩
    | finished => exact .inl ⟨by simp only [stepCurrent, ht], rfl⟩
  | textAnswer number result =>
    cases ht : s.tracker with
    | fetchingText artefact status =>
      exact .inr (.inr (.inr (.inr
        ⟨artefact, status, result, rfl, by simp only [stepCurrent, ht], rfl⟩)))
    | fresh => exact .inl ⟨by simp only [stepCurrent, ht], rfl⟩
    | sleeping wake => exact .inl ⟨by simp only [stepCurrent, ht], rfl⟩
    | fetchingJob => exact .inl ⟨by simp only [stepCurrent, ht], rfl⟩
    | finished => exact .inl ⟨by simp only [stepCurrent, ht], rfl⟩

/-- A session asks for nobody else. -/
theorem fetches_stepCurrent_of_ne (hn : s.number ≠ n) (m : Machine) (h : Happening) :
    (m.stepCurrent s h).2.filter (·.isFetch n) = [] := by
  rcases m.stepCurrent_cases s h with ⟨heq, -⟩ | ⟨heq, -⟩ | ⟨-, heq, -⟩ | ⟨result, -, heq, -⟩ |
      ⟨artefact, status, result, -, heq, -⟩ <;> rw [heq]
  · rfl
  · exact fetches_of_notices (m.notices_relay s) n
  · exact fetches_request?_of_ne hn .fetchingJob
  · rw [fetches_answeredJob, fetches_request?_of_ne hn]
  · exact fetches_of_notices (m.notices_receivedText s status result) n

/-- **Only the open session asks.** -/
theorem session_of_mem_fetches {e : Effect} (he : e ∈ m.fetches n i) :
    i.goesOn ∧ ∃ s, m.session = some s ∧ s.number = n := by
  cases i with
  | call k =>
    rw [fetches_call] at he
    cases he
  | happening h =>
    refine ⟨rfl, ?_⟩
    change e ∈ (m.step h).2.filter (·.isFetch n) at he
    rcases happening_cases h with ⟨e, rfl⟩ | ⟨ms, rfl⟩ | ⟨number, -, heq⟩
    · have hnone := m.fetches_withClient n (m.client.step e)
      rw [step, hnone] at he
      cases he
    · cases he
    · rw [heq, stepSession] at he
      cases hs : m.current? number with
      | some s =>
        rw [hs] at he
        refine ⟨s, (Option.filter_eq_some_iff.1 hs).1, ?_⟩
        -- Only the session that takes the step could ask, and it asks under its own number.
        by_contra hne
        simp only [fetches_stepCurrent_of_ne hne, List.not_mem_nil] at he
      | none =>
        rw [hs] at he
        simp only [fetches_of_notices (m.notices_stepLate number h), List.not_mem_nil] at he

/-! ### What one input is to the tracker -/

/-- What one input is to the tracker of the open session: where the tracker is afterwards, which job
is shown, what has been asked for and what has been answered. The tracker rests, or it asks for a
snapshot, or a snapshot or a text arrives that it has waited for. -/
inductive Round (m : Machine) (s : Session) :
    Tracker → Option Job → List Effect → List Answer → Prop
  | rest : Round m s s.tracker m.view.job [] []
  | ask (hdue : s.tracker.isDue m.clock) :
    Round m s .fetchingJob m.view.job [.fetchJob s.number s.job] []
  | snapshot (hwaits : s.tracker = .fetchingJob) (result : Except FetchError Job) :
    Round m s (m.afterSnapshot s result) (ofSnapshot result m.view).job
      ((m.afterSnapshot s result).request? s).toList [.job result]
  | text {artefact : ArtefactRef} {status : JobStatus}
    (hwaits : s.tracker = .fetchingText artefact status) (result : Except FetchError String) :
    Round m s (m.nextRound status.isTerminal) m.view.job [] [.text artefact result]

/-- The relay does not touch what the tracker has to do with. -/
theorem relay_rests (hs : m.session = some s) :
    ∃ s', (m.relay s).1.session = some s' ∧ s'.jobSide = s.jobSide ∧
      (m.relay s).1.view.job = m.view.job := by
  have hside := jobSide_relay hs
  have hsession : (m.relay s).1.session.map (·.jobSide) = some s.jobSide := by
    have heq : (m.relay s).1.session.map (·.jobSide) = m.session.map (·.jobSide) :=
      congrArg (·.session) hside
    rw [heq, hs]
    rfl
  obtain ⟨s', hs', hside'⟩ := Option.map_eq_some_iff.1 hsession
  exact ⟨s', hs', hside', congrArg (·.view.job) hside⟩

theorem round_stepCurrent (hs : m.session = some s) (hn : m.view.session = s.number)
    (h : Happening) :
    ∃ s', (m.stepCurrent s h).1.session = some s' ∧ s'.number = s.number ∧ s'.job = s.job ∧
      m.Round s s'.tracker (m.stepCurrent s h).1.view.job
        ((m.stepCurrent s h).2.filter (·.isFetch s.number)) (s.tracker.hears? h).toList := by
  rcases m.stepCurrent_cases s h with ⟨heq, hhears⟩ | ⟨heq, hhears⟩ | ⟨hdue, heq, hhears⟩ |
      ⟨result, hwaits, heq, hhears⟩ | ⟨artefact, status, result, hwaits, heq, hhears⟩ <;>
    rw [heq, hhears]
  · exact ⟨s, hs, rfl, rfl, .rest⟩
  · obtain ⟨s', hs', hside, hjob⟩ := relay_rests hs
    have htracker : s'.tracker = s.tracker := congrArg (·.tracker) hside
    refine ⟨s', hs', congrArg (·.number) hside, congrArg (·.job) hside, ?_⟩
    rw [hjob, fetches_of_notices (m.notices_relay s), htracker]
    exact .rest
  · have hask : (m.requestJob s).2.filter (·.isFetch s.number) = [.fetchJob s.number s.job] :=
      fetches_request?_self s .fetchingJob
    refine ⟨{ s with tracker := .fetchingJob }, rfl, rfl, rfl, ?_⟩
    rw [hask]
    exact .ask hdue
  · -- The session is current, so what the snapshot writes is shown.
    refine ⟨{ s with tracker := m.afterSnapshot s result }, ?_, rfl, rfl, ?_⟩
    · rw [answeredJob_fst]
      rfl
    · rw [answeredJob_fst, fetches_answeredJob, fetches_request?_self, writeCurrent_of_eq _ hn]
      exact .snapshot hwaits result
  · refine ⟨{ m.takesText s result with tracker := m.nextRound status.isTerminal }, ?_, ?_, ?_, ?_⟩
    · rw [receivedText_fst_eq]
      rfl
    · cases result <;> rfl
    · cases result <;> rfl
    · -- A text changes the toolpath and its unit, but not the job.
      have hjob : (ofText result m.view).job = m.view.job := by cases result <;> rfl
      rw [receivedText_fst_eq, fetches_of_notices (m.notices_receivedText s status result),
        writeCurrent_of_eq _ hn]
      show m.Round s _ (ofText result m.view).job _ _
      rw [hjob]
      exact .text hwaits result

/-- **What an input is to a session that goes on.** It is nothing to it, or something happens to the
session itself. -/
theorem Coherent.stepCurrent_of_goesOn (hc : m.Coherent) (hs : m.session = some s) (hi : i.goesOn) :
    ((m.after i).session = some s ∧ (m.after i).view = m.view ∧ m.fetches s.number i = [] ∧
        m.answers s.number i = []) ∨
      ∃ h, m.after i = (m.stepCurrent s h).1 ∧
        m.fetches s.number i = (m.stepCurrent s h).2.filter (·.isFetch s.number) ∧
        m.answers s.number i = (s.tracker.hears? h).toList := by
  cases i with
  | call k =>
    rw [fetches_call]
    -- Of the calls only `retryStream` lets the session go on, and it touches the client alone.
    cases k with
    | retryStream =>
      have hafter : m.after (.call .retryStream) = { m with client := m.client.resubscribe.1 } := by
        show (m.call .retryStream).1 = _
        rw [call_of_not_dropped hc.not_dropped]
        simp only [Machine.retryStream, withClient, hs]
      rw [hafter]
      exact .inl ⟨hs, rfl, rfl, rfl⟩
    | view job => cases hi
    | close => cases hi
    | drop => cases hi
  | happening h =>
    rcases happening_cases h with ⟨e, rfl⟩ | ⟨ms, rfl⟩ | ⟨number, hsession, heq⟩
    · exact .inl ⟨hs, rfl, m.fetches_withClient s.number (m.client.step e), rfl⟩
    · exact .inl ⟨hs, rfl, rfl, rfl⟩
    · have hafter : m.after (.happening h) = (m.stepSession number h).1 := congrArg Prod.fst (heq m)
      have hfetches : m.fetches s.number (.happening h) =
          (m.stepSession number h).2.filter (·.isFetch s.number) := by
        rw [← heq]
        rfl
      rw [hafter, hfetches, answers, hsession, Machine.stepSession]
      cases hcurrent : m.current? number with
      | some s' =>
        obtain ⟨hs', hn⟩ := Option.filter_eq_some_iff.1 hcurrent
        obtain rfl : s = s' := Option.some.inj (hs.symm.trans hs')
        obtain rfl : s.number = number := eq_of_beq hn
        rw [if_pos rfl, hcurrent]
        exact .inr ⟨h, rfl, rfl, rfl⟩
      | none =>
        -- The happening is meant for a session that has ended, so it may change what is late only.
        have hne : number ≠ s.number := fun hn =>
          Option.filter_eq_none_iff.1 hcurrent s hs (beq_iff_eq.2 hn.symm)
        rw [if_neg fun hn => hne (Option.some.inj hn)]
        have hlate := (hc.stepLate number h).eq
        exact .inl ⟨(congrArg (·.session) hlate).trans hs, congrArg (·.view) hlate,
          fetches_of_notices (m.notices_stepLate number h) s.number, rfl⟩

/-- **What one input is to the tracker**, while its session goes on. -/
theorem Coherent.round (hc : m.Coherent) (hs : m.session = some s) (hi : i.goesOn) :
    ∃ s', (m.after i).session = some s' ∧ s'.number = s.number ∧ s'.job = s.job ∧
      m.Round s s'.tracker (m.after i).view.job (m.fetches s.number i) (m.answers s.number i) := by
  rcases hc.stepCurrent_of_goesOn hs hi with
    ⟨hsession, hview, hfetches, hanswers⟩ | ⟨h, hafter, hfetches, hanswers⟩
  · refine ⟨s, hsession, rfl, rfl, ?_⟩
    rw [hview, hfetches, hanswers]
    exact .rest
  · rw [hafter, hfetches, hanswers]
    exact round_stepCurrent hs (hc.number_eq s hs).symm h

/-! ### The account of an open session -/

theorem request_congr (hn : s'.number = s.number) (hj : s'.job = s.job) :
    Answer.request s' = Answer.request s ∧ Tracker.request? s' = Tracker.request? s := by
  constructor
  · funext a
    cases a <;> simp only [Answer.request, hn, hj]
  · funext t
    cases t <;> simp only [Tracker.request?, hn, hj]

theorem request?_of_isDue {t : Tracker} {clock : Nat} (hd : t.isDue clock) (s : Session) :
    t.request? s = none := by
  cases t <;> first | rfl | cases hd

theorem nextRound_cases (m : Machine) (isLast : Bool) :
    isLast ∧ m.nextRound isLast = .finished ∨
      ¬ isLast ∧ m.nextRound isLast = .sleeping (m.clock + m.pollInterval) := by
  cases isLast with
  | true => exact .inl ⟨rfl, rfl⟩
  | false => exact .inr ⟨Bool.false_ne_true, rfl⟩

/-- **Where an answer leads.** A snapshot may lead to a text. Otherwise the tracker stops or pauses.
-/
theorem afterSnapshot_cases (hn : m.view.session = s.number) (result : Except FetchError Job) :
    (∃ job artefact, result = .ok job ∧
        m.afterSnapshot s result = .fetchingText artefact job.status) ∨
      m.afterSnapshot s result = m.nextRound (isFinal result) := by
  cases result with
  | ok job =>
    unfold afterSnapshot
    simp only [if_pos hn]
    unfold trackerAfter
    split
    · exact .inl ⟨job, _, rfl, rfl⟩
    · exact .inr rfl
  | error e => exact .inr rfl

@[simp]
theorem lastSnapshot?_append_job (as : List Answer) (result : Except FetchError Job) :
    lastSnapshot? (as ++ [.job result]) = some result := by
  simp [lastSnapshot?, Answer.snapshot?]

@[simp]
theorem lastSnapshot?_append_text (as : List Answer) (artefact : ArtefactRef)
    (result : Except FetchError String) :
    lastSnapshot? (as ++ [.text artefact result]) = lastSnapshot? as := by
  simp [lastSnapshot?, Answer.snapshot?]

/-- What is known of the open session from what its tracker has asked for and what has been answered
since it began. All requests have been answered but the one that the tracker waits on. The last
snapshot is shown, and it tells why the tracker is where it is. -/
structure Tracked (m : Machine) (s : Session) (fetched : List Effect) (answered : List Answer) :
    Prop where
  account : fetched = answered.map (·.request s) ++ (s.tracker.request? s).toList
  fresh : s.tracker = .fresh → fetched = []
  sleeping : ∀ wake, s.tracker = .sleeping wake → wake ≤ m.clock + m.pollInterval
  shown : ∀ job, lastSnapshot? answered = some (.ok job) → m.view.job = some job
  text : ∀ artefact status, s.tracker = .fetchingText artefact status →
    ∃ job, lastSnapshot? answered = some (.ok job) ∧ job.status = status
  finished : s.tracker = .finished →
    ∃ result, lastSnapshot? answered = some result ∧ isFinal result

theorem tracked_of_fresh (hf : s.tracker = .fresh) : m.Tracked s [] [] where
  account := by rw [hf]; rfl
  fresh _ := rfl
  sleeping wake hw := by rw [hf] at hw; cases hw
  shown _ hl := nomatch hl
  text artefact status ht := by rw [hf] at ht; cases ht
  finished he := by rw [hf] at he; cases he

/-- The account of a session whose tracker has just finished a round. -/
theorem tracked_of_nextRound {m' : Machine} {isLast : Bool} {fs : List Effect} {as : List Answer}
    (ht : s.tracker = m.nextRound isLast) (haccount : fs = as.map (·.request s))
    (hshown : ∀ job, lastSnapshot? as = some (.ok job) → m'.view.job = some job)
    (hlast : isLast → ∃ result, lastSnapshot? as = some result ∧ isFinal result)
    (htime : m.clock ≤ m'.clock ∧ m'.pollInterval = m.pollInterval) : m'.Tracked s fs as := by
  have haccount' : fs = as.map (·.request s) ++ (s.tracker.request? s).toList := by
    rw [ht, request?_nextRound, haccount]
    exact (List.append_nil _).symm
  obtain ⟨hclock, hpoll⟩ := htime
  -- The tracker has stopped, or it pauses; what is known of the other states is vacuous.
  rcases m.nextRound_cases isLast with ⟨his, hnext⟩ | ⟨-, hnext⟩
  · rw [hnext] at ht
    refine ⟨haccount', ?_, ?_, hshown, ?_, fun _ => hlast his⟩ <;> rw [ht] <;> exact nofun
  · rw [hnext] at ht
    refine ⟨haccount', ?_, ?_, hshown, ?_, ?_⟩ <;> rw [ht]
    · exact nofun
    · rintro wake ⟨⟩
      omega
    · exact nofun
    · exact nofun

/-- **The account is kept** by every input while the session goes on. -/
theorem Tracked.round {m' : Machine} {fs fs' : List Effect} {as as' : List Answer} {t : Tracker}
    {job? : Option Job} (hm : m.Tracked s fs as) (hn : m.view.session = s.number)
    (hr : m.Round s t job? fs' as') (hs' : s'.number = s.number ∧ s'.job = s.job)
    (ht : s'.tracker = t) (hv : m'.view.job = job?)
    (htime : m.clock ≤ m'.clock ∧ m'.pollInterval = m.pollInterval) :
    m'.Tracked s' (fs ++ fs') (as ++ as') := by
  obtain ⟨hrequest, hrequest?⟩ := request_congr hs'.1 hs'.2
  have haccount := hm.account
  cases hr with
  | rest =>
    -- Nothing is asked and nothing answered, only time may have passed.
    rw [List.append_nil, List.append_nil]
    refine ⟨?_, ?_, fun wake hw => ?_, ?_, ?_, ?_⟩
    · rw [hrequest, hrequest?, ht, haccount]
    · rw [ht]; exact hm.fresh
    · have hle := hm.sleeping wake (ht.symm.trans hw)
      omega
    · rw [hv]; exact hm.shown
    · rw [ht]; exact hm.text
    · rw [ht]; exact hm.finished
  | ask hdue =>
    -- A tracker that is due waits on nothing, so the account was even, and now lacks one answer.
    rw [request?_of_isDue hdue, Option.toList_none, List.append_nil] at haccount
    rw [List.append_nil]
    refine ⟨?_, ?_, ?_, ?_, ?_, ?_⟩
    · rw [hrequest, hrequest?, ht, haccount]
      rfl
    · rw [ht]; exact nofun
    · rw [ht]; exact nofun
    · rw [hv]; exact hm.shown
    · rw [ht]; exact nofun
    · rw [ht]; exact nofun
  | snapshot hwaits result =>
    -- The answer evens out the request that the tracker has waited on.
    have hanswered : fs = (as ++ [Answer.job result]).map (·.request s') := by
      rw [hrequest, haccount, hwaits, List.map_append]
      rfl
    have hshown (job : Job) (hl : lastSnapshot? (as ++ [.job result]) = some (.ok job)) :
        m'.view.job = some job := by
      rw [lastSnapshot?_append_job] at hl
      cases hl
      exact hv
    rcases afterSnapshot_cases hn result with ⟨job, artefact, rfl, hnext⟩ | hnext
    · rw [hnext] at ht ⊢
      refine ⟨?_, ?_, ?_, hshown, ?_, ?_⟩
      -- The request for the text is made in the same step, and is what is waited on.
      · rw [hrequest?, ht, hanswered]
      · rw [ht]; exact nofun
      · rw [ht]; exact nofun
      · rw [ht]
        rintro _ _ ⟨⟩
        exact ⟨job, lastSnapshot?_append_job .., rfl⟩
      · rw [ht]; exact nofun
    · rw [hnext] at ht ⊢
      rw [request?_nextRound, Option.toList_none, List.append_nil]
      refine tracked_of_nextRound ht hanswered hshown (fun hfinal => ?_) htime
      exact ⟨result, lastSnapshot?_append_job .., hfinal⟩
  | @text artefact status hwaits result =>
    rw [List.append_nil]
    refine tracked_of_nextRound ht ?_ ?_ (fun hfinal => ?_) htime
    · rw [hrequest, haccount, hwaits, List.map_append]
      rfl
    · rw [lastSnapshot?_append_text, hv]
      exact hm.shown
    · -- The status is that of the last snapshot, to which the text belongs.
      obtain ⟨job, hl, rfl⟩ := hm.text artefact status hwaits
      rw [lastSnapshot?_append_text]
      exact ⟨.ok job, hl, hfinal⟩

/-! ### The account of a run -/

theorem session_of_mem_answers {a : Answer} (ha : a ∈ m.answers n i) :
    ∃ s, m.session = some s ∧ s.number = n := by
  cases i with
  | call k => cases ha
  | happening h =>
    rw [answers] at ha
    split at ha
    · obtain ⟨s, hs, -⟩ := Option.bind_eq_some_iff.1 (Option.mem_toList.1 ha)
      obtain ⟨hs, hn⟩ := Option.filter_eq_some_iff.1 hs
      exact ⟨s, hs, eq_of_beq hn⟩
    · cases ha

/-- A session that is yet to begin has left no trace in a run. -/
theorem Coherent.gather_eq_nil {α : Type*} {f : Machine → Input → List α}
    (hf : ∀ {m i x}, x ∈ f m i → ∃ s, m.session = some s ∧ s.number = n) (hc : m.Coherent)
    (hd : .call .drop ∉ is) (hn : (m.run is).view.session < n) :
    gather Machine.after f m is = [] := by
  refine List.eq_nil_iff_forall_not_mem.2 fun x hgather => ?_
  obtain ⟨pre, i, post, rfl, hx⟩ := mem_gather hgather
  obtain ⟨s, hs, rfl⟩ := hf hx
  obtain ⟨hdpre, hdpost⟩ : .call .drop ∉ pre ∧ .call .drop ∉ i :: post := by
    simpa only [List.mem_append, not_or] using hd
  -- Whoever is open in a run has a number that is in use already, and numbers only grow.
  have hcp := hc.run hdpre
  have hnumber := hcp.number_eq s hs
  have hle := (hcp.numbers_le_run hdpost).1
  rw [run_append] at hn
  exact absurd (Nat.lt_of_le_of_lt hle hn) (hnumber ▸ Nat.lt_irrefl _)

/-- **The account of the open session** holds in every run. -/
theorem tracked_run {pollInterval : Nat}
    (hs : ((initial pollInterval).run is).session = some s) :
    ((initial pollInterval).run is).Tracked s (fetched s.number (initial pollInterval) is)
      (answered s.number (initial pollInterval) is) := by
  refine session_induction (P := fun is s =>
      ((initial pollInterval).run is).Tracked s (fetched s.number (initial pollInterval) is)
        (answered s.number (initial pollInterval) is))
    (fun is job hd => ?_) (fun {is i s s'} hc hs hm hi hs' hnumber hjob => ?_) hs
  · -- The session has just begun, with a number that nobody has had.
    have hlt : ((initial pollInterval).run is).view.session <
        ((initial pollInterval).run is).view.session + 1 := Nat.lt_succ_self _
    rw [fetched, answered, gather_append, gather_append, gather_singleton, gather_singleton,
      (coherent_initial pollInterval).gather_eq_nil
        (fun hx => (session_of_mem_fetches hx).2) hd hlt,
      (coherent_initial pollInterval).gather_eq_nil session_of_mem_answers hd hlt, fetches_call]
    exact tracked_of_fresh rfl
  · -- One more input while the session goes on is one more round.
    obtain ⟨s₁, hs₁, -, -, hround⟩ := hc.round hs hi
    obtain rfl : s' = s₁ := Option.some.inj (hs'.symm.trans hs₁)
    rw [run_append, fetched, answered, gather_append, gather_append, gather_singleton,
      gather_singleton, hnumber]
    exact hm.round (hc.number_eq s hs).symm hround ⟨hnumber, hjob⟩ rfl rfl
      (((initial pollInterval).run is).time_after i)

/-! ### Stopping and pausing -/

/-- A tracker that has stopped rests. -/
theorem Round.of_finished {t : Tracker} {job? : Option Job} {fs : List Effect} {as : List Answer}
    (hr : m.Round s t job? fs as) (hf : s.tracker = .finished) : t = .finished ∧ fs = [] := by
  cases hr with
  | rest => exact ⟨hf, rfl⟩
  | ask hdue => rw [hf] at hdue; cases hdue
  | snapshot hwaits result => rw [hf] at hwaits; cases hwaits
  | text hwaits result => rw [hf] at hwaits; cases hwaits

/-- **A tracker that has stopped asks for nothing any more**, whatever follows. -/
theorem Coherent.fetched_of_finished (hc : m.Coherent) (hs : m.session = some s)
    (hf : s.tracker = .finished) (is : List Input) : fetched s.number m is = [] := by
  refine List.eq_nil_iff_forall_not_mem.2 fun e he => ?_
  obtain ⟨pre, i, post, -, hi⟩ := mem_gather he
  change e ∈ (m.run pre).fetches s.number i at hi
  obtain ⟨hgoes, s', hs', hnumber⟩ := session_of_mem_fetches hi
  -- There is still a session of that number, so it is this one, and its tracker has stopped.
  have hd := hc.not_drop_of_session hs'
  have hstopped : s'.tracker = .finished := by
    refine hc.session_run_of_number (P := fun _ s => s.tracker = .finished) (n := s.number) ?_
      (Nat.le_of_eq (hc.number_eq s hs)) ?_ hd s' hs' hnumber
    · intro m₀ s₀ s₁ i hc hs hf hi hs' _
      obtain ⟨s', hs'', -, -, hround⟩ := hc.round hs hi
      obtain rfl : s₁ = s' := Option.some.inj (hs'.symm.trans hs'')
      exact (hround.of_finished hf).1
    · intro s₀ hs₀ _
      obtain rfl : s = s₀ := Option.some.inj (hs.symm.trans hs₀)
      exact hf
  obtain ⟨_, -, -, -, hround⟩ := (hc.run hd).round hs' hgoes
  rw [hnumber] at hround
  rw [(hround.of_finished hstopped).2] at hi
  cases hi

/-- The tracker of the session has had an answer by the given time, and its next request for a
snapshot is still to wait for its time. -/
structure Paced (answered : Nat) (m : Machine) (s : Session) : Prop where
  begun : s.tracker ≠ .fresh
  answered_le : answered ≤ m.clock
  sleeping : ∀ wake, s.tracker = .sleeping wake → answered + m.pollInterval ≤ wake

theorem paced_of_nextRound {m' : Machine} {isLast : Bool} {answered : Nat}
    (ht : s.tracker = m.nextRound isLast) (ha : answered ≤ m.clock)
    (htime : m.clock ≤ m'.clock ∧ m'.pollInterval = m.pollInterval) : Paced answered m' s := by
  obtain ⟨hclock, hpoll⟩ := htime
  refine ⟨?_, by omega, ?_⟩ <;> rw [ht] <;>
    rcases m.nextRound_cases isLast with ⟨-, hnext⟩ | ⟨-, hnext⟩ <;> rw [hnext]
  · exact nofun
  · exact nofun
  · exact nofun
  · rintro wake ⟨⟩
    omega

/-- The pause begins with the answer to a request for a snapshot. -/
theorem paced_of_afterSnapshot {m' : Machine} {answered : Nat} (hn : m.view.session = s.number)
    {result : Except FetchError Job} (ht : s'.tracker = m.afterSnapshot s result)
    (ha : answered ≤ m.clock)
    (htime : m.clock ≤ m'.clock ∧ m'.pollInterval = m.pollInterval) : Paced answered m' s' := by
  rcases afterSnapshot_cases hn result with ⟨job, artefact, -, hnext⟩ | hnext
  · rw [hnext] at ht
    refine ⟨?_, Nat.le_trans ha htime.1, ?_⟩ <;> rw [ht] <;> exact nofun
  · rw [hnext] at ht
    exact paced_of_nextRound ht ha htime

theorem Paced.round {m' : Machine} {answered : Nat} {t : Tracker} {job? : Option Job}
    {fs : List Effect} {as : List Answer} (hp : Paced answered m s)
    (hn : m.view.session = s.number) (hr : m.Round s t job? fs as) (ht : s'.tracker = t)
    (htime : m.clock ≤ m'.clock ∧ m'.pollInterval = m.pollInterval) : Paced answered m' s' := by
  cases hr with
  | rest =>
    refine ⟨ht ▸ hp.begun, Nat.le_trans hp.answered_le htime.1, fun wake hw => ?_⟩
    rw [htime.2]
    exact hp.sleeping wake (ht.symm.trans hw)
  | ask hdue =>
    refine ⟨?_, Nat.le_trans hp.answered_le htime.1, ?_⟩ <;> rw [ht] <;> exact nofun
  | snapshot hwaits result => exact paced_of_afterSnapshot hn ht hp.answered_le htime
  | text hwaits result => exact paced_of_nextRound ht hp.answered_le htime

/-- When a request for a snapshot is made, the pause is over. -/
theorem Paced.le_of_ask {answered : Nat} {t : Tracker} {job? : Option Job} {fs : List Effect}
    {as : List Answer} {job : JobId} (hp : Paced answered m s) (hn : m.view.session = s.number)
    (hr : m.Round s t job? fs as) (hf : .fetchJob n job ∈ fs) :
    answered + m.pollInterval ≤ m.clock := by
  cases hr with
  | rest => cases hf
  | ask hdue =>
    unfold Tracker.isDue at hdue
    split at hdue
    · rename_i hfresh
      exact absurd hfresh hp.begun
    · rename_i wake hw
      exact Nat.le_trans (hp.sleeping wake hw) (of_decide_eq_true hdue)
    · cases hdue
  | snapshot hwaits result =>
    -- After a snapshot a text may be asked for at once, but no other snapshot.
    rcases afterSnapshot_cases hn result with ⟨job, artefact, -, hnext⟩ | hnext
    · rw [hnext] at hf
      simp [Tracker.request?] at hf
    · rw [hnext, request?_nextRound] at hf
      cases hf
  | text hwaits result => cases hf

/-- An answer to a request for a snapshot comes to a tracker that has asked for one. -/
theorem Round.of_mem {t : Tracker} {job? : Option Job} {fs : List Effect} {as : List Answer}
    {result : Except FetchError Job} (hr : m.Round s t job? fs as) (ha : .job result ∈ as) :
    t = m.afterSnapshot s result := by
  cases hr with
  | rest => cases ha
  | ask hdue => cases ha
  | snapshot hwaits result' =>
    obtain rfl : result = result' := by simpa using ha
    rfl
  | text hwaits result' => simp at ha

theorem goesOn_of_mem_answers {a : Answer} (ha : a ∈ m.answers n i) : i.goesOn := by
  cases i with
  | call k => cases ha
  | happening h => rfl

/-- **The poll interval is kept.** After an answer to a request for a snapshot, the next such
request of the session is not made before the interval has passed. -/
theorem Coherent.pause_le (hc : m.Coherent) {between : List Input} {j : Input}
    {result : Except FetchError Job} {job : JobId} (ha : .job result ∈ m.answers n i)
    (hf : .fetchJob n job ∈ (m.run (i :: between)).fetches n j) :
    m.clock + m.pollInterval ≤ (m.run (i :: between)).clock := by
  have hi := goesOn_of_mem_answers ha
  obtain ⟨s, hs, rfl⟩ := session_of_mem_answers ha
  obtain ⟨s', hs', hnumber, -, hround⟩ := hc.round hs hi
  -- The answer sets the pace, and the session keeps it until the next request.
  have hpaced : Paced m.clock (m.after i) s' :=
    paced_of_afterSnapshot (hc.number_eq s hs).symm (hround.of_mem ha) (Nat.le_refl _)
      (m.time_after i)
  have hca := hc.after (Input.ne_drop_of_goesOn hi)
  rw [run_cons] at hf ⊢
  obtain ⟨hj, s₁, hs₁, hnumber₁⟩ := session_of_mem_fetches hf
  have hd := hca.not_drop_of_session hs₁
  -- Between the answer and the request there are only rounds of the same session.
  have hpaced₁ : Paced m.clock ((m.after i).run between) s₁ := by
    refine hca.session_run_of_number (P := Paced m.clock) (n := s.number) ?_ ?_ ?_ hd s₁ hs₁
      hnumber₁
    · intro m₀ s₀ s₀' i₀ hc₀ hs₀ hp hi₀ hs₀' _
      obtain ⟨s', hs', -, -, hround⟩ := hc₀.round hs₀ hi₀
      obtain rfl : s₀' = s' := Option.some.inj (hs₀'.symm.trans hs')
      exact hp.round (hc₀.number_eq s₀ hs₀).symm hround rfl (m₀.time_after i₀)
    · exact Nat.le_of_eq (hnumber.symm.trans (hca.number_eq s' hs'))
    · intro s₀ hs₀ _
      obtain rfl : s' = s₀ := Option.some.inj (hs'.symm.trans hs₀)
      exact hpaced
  obtain ⟨_, -, -, -, hround₁⟩ := (hca.run hd).round hs₁ hj
  rw [hnumber₁] at hround₁
  -- The session that asks is awake, so its time has come.
  have hle := hpaced₁.le_of_ask ((hca.run hd).number_eq s₁ hs₁).symm hround₁ hf
  rwa [pollInterval_run, (m.time_after i).2] at hle

/-! ### Polling goes on -/

/-- Where the tracker of the open session is. -/
def tracker? (m : Machine) : Option Tracker :=
  m.session.map (·.tracker)

theorem tracker?_jobAnswer (hs : m.session = some s) (hw : s.tracker = .fetchingJob)
    (result : Except FetchError Job) :
    (m.step (.jobAnswer s.number result)).1.tracker? = some (m.afterSnapshot s result) := by
  show (m.stepSession s.number _).1.tracker? = _
  simp only [stepSession, current?_self hs, stepCurrent, hw, answeredJob_fst]
  rfl

theorem tracker?_textAnswer (hs : m.session = some s) {artefact : ArtefactRef} {status : JobStatus}
    (hw : s.tracker = .fetchingText artefact status) (result : Except FetchError String) :
    (m.step (.textAnswer s.number result)).1.tracker? = some (m.nextRound status.isTerminal) := by
  show (m.stepSession s.number _).1.tracker? = _
  simp only [stepSession, current?_self hs, stepCurrent, hw, receivedText_fst_eq]
  rfl

theorem nextRound_false (m : Machine) :
    m.nextRound false = .sleeping (m.clock + m.pollInterval) :=
  rfl

/-- A failure that leaves hope ends in a pause. -/
theorem tracker?_of_failure (hs : m.session = some s) (hw : s.tracker = .fetchingJob)
    {e : FetchError} (he : ∀ job, e ≠ .notFound job) :
    (m.step (.jobAnswer s.number (.error e))).1.tracker? =
      some (.sleeping (m.clock + m.pollInterval)) := by
  have hother : e.isNotFound = false := by
    cases e <;> first | rfl | exact absurd rfl (he _)
  rw [tracker?_jobAnswer hs hw, afterSnapshot, hother, nextRound_false]

/-- So does a text, whatever came of it, as long as its job is not at its end. -/
theorem tracker?_of_text (hs : m.session = some s) {artefact : ArtefactRef} {status : JobStatus}
    (hw : s.tracker = .fetchingText artefact status) (hsuccess : status ≠ .success)
    (hfailed : status ≠ .failed) (result : Except FetchError String) :
    (m.step (.textAnswer s.number result)).1.tracker? =
      some (.sleeping (m.clock + m.pollInterval)) := by
  have hother : status.isTerminal = false := by
    rw [← Bool.not_eq_true, JobStatus.isTerminal_iff, not_or]
    exact ⟨hsuccess, hfailed⟩
  rw [tracker?_textAnswer hs hw, hother, nextRound_false]

/-- A tracker that is due asks for a snapshot when it gets its turn. -/
theorem step_trackerTurn (hs : m.session = some s) (hd : s.tracker.isDue m.clock) :
    m.step (.trackerTurn s.number) = m.requestJob s := by
  show m.stepSession s.number _ = _
  rw [stepSession, current?_self hs]
  cases ht : s.tracker with
  | fresh => simp only [stepCurrent, ht]
  | sleeping wake =>
    rw [ht] at hd
    simp only [stepCurrent, ht, if_pos (of_decide_eq_true hd)]
  | fetchingJob => rw [ht] at hd; cases hd
  | fetchingText artefact status => rw [ht] at hd; cases hd
  | finished => rw [ht] at hd; cases hd

/-- **The discipline of polling.** In every state of a run with an open session,
(a) all that the session has asked for has been answered, but for the one request that its tracker
waits on if it waits for the backend. A tracker that has not had a turn has asked for nothing, and a
pause is never longer than the poll interval;
(b) the tracker has stopped only if the last snapshot is shown and tells of success or failure, or
there was none because the job is not known;
(c) once it has stopped, the session asks for nothing more, whatever follows;
(d) between the answer to one request for a snapshot and the next such request, the poll interval
has passed; and
(e) nothing else ends the polling. After any other failure of a snapshot the tracker pauses, so it
does after a text, whatever came of it, unless the job is at its end, and after each pause it asks
for a snapshot. -/
theorem polling_discipline {pollInterval : Nat} {is : List Input} {s : Session}
    (hs : ((initial pollInterval).run is).session = some s) :
    let start := initial pollInterval
    let m := start.run is
    let answers := answered s.number start is
    (fetched s.number start is = answers.map (·.request s) ++ (s.tracker.request? s).toList ∧
        (s.tracker = .fresh → fetched s.number start is = []) ∧
        ∀ wake, s.tracker = .sleeping wake → wake ≤ m.clock + pollInterval) ∧
      (s.tracker = .finished →
        (∃ job, lastSnapshot? answers = some (.ok job) ∧ m.view.job = some job ∧
            (job.status = .success ∨ job.status = .failed)) ∨
          ∃ job, lastSnapshot? answers = some (.error (.notFound job))) ∧
      (s.tracker = .finished → ∀ js, fetched s.number m js = []) ∧
      (∀ before i between j rest result job, is = before ++ i :: (between ++ j :: rest) →
        .job result ∈ (start.run before).answers s.number i →
        .fetchJob s.number job ∈ (start.run (before ++ i :: between)).fetches s.number j →
        (start.run before).clock + pollInterval ≤ (start.run (before ++ i :: between)).clock) ∧
      (∀ e, s.tracker = .fetchingJob → (∀ job, e ≠ .notFound job) →
        (m.step (.jobAnswer s.number (.error e))).1.tracker? =
          some (.sleeping (m.clock + pollInterval))) ∧
      (∀ artefact status, s.tracker = .fetchingText artefact status →
        ∃ job, lastSnapshot? answers = some (.ok job) ∧ job.status = status ∧
          (status ≠ .success → status ≠ .failed → ∀ result,
            (m.step (.textAnswer s.number result)).1.tracker? =
              some (.sleeping (m.clock + pollInterval)))) ∧
      ∀ wake, s.tracker = .sleeping wake → wake ≤ m.clock →
        (m.step (.trackerTurn s.number)).2 = [.fetchJob s.number s.job] := by
  intro start m answers
  have hd := (coherent_initial pollInterval).not_drop_of_session hs
  have hc : m.Coherent := coherent_run pollInterval hd
  have hm : m.Tracked s (fetched s.number start is) answers := tracked_run hs
  have hpoll : m.pollInterval = pollInterval := pollInterval_run start is
  -- (a) And (c) are the account and the rest of a stopped tracker as they stand.
  refine ⟨⟨hm.account, hm.fresh, hpoll ▸ hm.sleeping⟩, fun hf => ?_,
    fun hf => hc.fetched_of_finished hs hf, ?_, fun e hw he => ?_, fun artefact status hw => ?_,
    fun wake hw hle => ?_⟩
  · -- (b) The last snapshot is final, and there are two ways to be final.
    obtain ⟨result, hl, hfinal⟩ := hm.finished hf
    cases result with
    | ok job => exact .inl ⟨job, hl, hm.shown job hl, JobStatus.isTerminal_iff.1 hfinal⟩
    | error e =>
      obtain ⟨job, rfl⟩ := FetchError.isNotFound_iff.1 hfinal
      exact .inr ⟨job, hl⟩
  · -- (d) The state before the answer is one of a run too, and coherent.
    rintro before i between j rest result job rfl ha hf
    have hdb : .call .drop ∉ before := fun h => hd (List.mem_append_left _ h)
    rw [run_append] at hf ⊢
    have hle := (coherent_run pollInterval hdb).pause_le ha hf
    rwa [pollInterval_run] at hle
  · -- (e) A failure that leaves hope ends in a pause.
    rw [tracker?_of_failure hs hw he, hpoll]
  · -- (e) So does a text. The job that it belongs to is the last that was shown.
    obtain ⟨job, hl, hstatus⟩ := hm.text artefact status hw
    refine ⟨job, hl, hstatus, fun hsuccess hfailed result => ?_⟩
    rw [tracker?_of_text hs hw hsuccess hfailed, hpoll]
  · -- (e) And a pause that is over ends in a request.
    have hdue : s.tracker.isDue m.clock := by
      rw [hw]
      exact decide_eq_true hle
    rw [step_trackerTurn hs hdue]
    rfl

/-- A run in which the backend turns down the first request for a snapshot. -/
def turnedDown : List Input :=
  [.call (.view 4), .happening (.trackerTurn 1), .happening (.jobAnswer 1 (.error .rateLimited)),
    .happening (.elapse 500), .happening (.trackerTurn 1)]

/-- The session has asked again, and waits for the second answer only. It did not ask before half a
second had passed, and if it is turned down again it makes another pause. -/
theorem turnedDown_polls :
    fetched 1 (initial 500) turnedDown =
        (answered 1 (initial 500) turnedDown).map (·.request ⟨4, 1, false, .fetchingJob, none⟩) ++
          [.fetchJob 1 4] ∧
      ((initial 500).run (turnedDown.take 2)).clock + 500 ≤
        ((initial 500).run (turnedDown.take 4)).clock ∧
      (((initial 500).run turnedDown).step (.jobAnswer 1 (.error .queuePaused))).1.tracker? =
        some (.sleeping (((initial 500).run turnedDown).clock + 500)) := by
  have hs : ((initial 500).run turnedDown).session = some ⟨4, 1, false, .fetchingJob, none⟩ := rfl
  obtain ⟨⟨haccount, -⟩, -, -, hpace, hfailure, -⟩ := polling_discipline hs
  refine ⟨haccount, ?_, hfailure .queuePaused rfl nofun⟩
  exact hpace (turnedDown.take 2) _ [.happening (.elapse 500)] _ [] (.error .rateLimited) 4 rfl
    List.mem_cons_self List.mem_cons_self

end Machine

end Viewer

end MachiningViewer
