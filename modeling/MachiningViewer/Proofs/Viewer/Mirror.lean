import MachiningViewer.Proofs.Viewer.Sessions

/-!
# The view as a mirror of the stream

The relay of a session copies what the progress client shows, at its own pace: a turn copies the
latest, and what came and went between two turns is never seen. What the view shows of the stream is
therefore old at times, but never made up, and never old for good: once the relay has nothing left
to do, the view shows what the client shows (`view_mirrors_stream`).

The invariant (`Mirrors`) is about versions. The client writes its state only with a new version, so
a relay that has seen the current version has copied the current state, whatever has happened since,
and one that has not seen it still has a turn to take. It counts on the client having a subscription
to the session's job all along, or the relay would skip what it sees.
-/

namespace MachiningViewer

/-- What a progress client shows of the stream. -/
def Progress.State.shown (p : Progress.State) : Float × String × Progress.Phase :=
  (p.progress, p.message, p.phase)

namespace Progress.Client

/-- After a subscription there is one to the job, be it a new one or the one that stood. -/
theorem active_subscribe (c : Client) (job : JobId) :
    ∃ a, (c.subscribe job).1.active = some a ∧ a.job = job := by
  unfold subscribe
  split
  · rename_i hf
    unfold follows at hf
    split at hf
    · rename_i a ha
      exact ⟨a, ha, eq_of_beq (Bool.and_eq_true_iff.1 hf).1⟩
    · cases hf
  · exact ⟨_, rfl, rfl⟩

/-- What happens outside leaves the job of the subscription alone. -/
theorem Coherent.active_step {c : Client} (hc : c.Coherent) (h : Happening) {a : Subscription}
    (ha : c.active = some a) : ∃ a', (c.step h).1.active = some a' ∧ a'.job = a.job := by
  obtain ⟨a', r, st, v, ha', -, heq, -⟩ | ⟨late, -, heq⟩ := hc.step_cases h
  · obtain rfl : a = a' := Option.some.inj (ha.symm.trans ha')
    rw [heq]
    exact ⟨_, rfl, rfl⟩
  · rw [heq]
    exact ⟨a, ha, rfl⟩

end Progress.Client

namespace Viewer.Machine

variable {m m' : Machine} {s s' : Session} {i : Input} {is : List Input}

/-- The relay of the session keeps up with the progress client: the client is subscribed to the
session's job, the relay has not seen more than there is, and if it has seen all, then the view
shows what the client shows. -/
structure Mirrors (m : Machine) (s : Session) : Prop where
  attached : ∃ a, m.client.active = some a ∧ a.job = s.job
  seen_le : ∀ v, s.relayed = some v → v ≤ m.client.version
  shown : s.relayed = some m.client.version → m.view.streamPart = m.client.state.shown

/-! ### The mirror is kept -/

theorem mirrors_openJob (m : Machine) (job : JobId) (n : Nat) :
    (m.openJob job).1.Mirrors ⟨job, n, false, .fresh, none⟩ where
  attached := Progress.Client.active_subscribe m.cancel.1.client job
  seen_le := nofun
  shown := nofun

theorem Mirrors.rests (hm : m.Mirrors s) (hr : m.StreamRests m')
    (hs' : s'.streamSide = s.streamSide) : m'.Mirrors s' := by
  have hjob : s'.job = s.job := congrArg (·.job) hs'
  have hrelayed : s'.relayed = s.relayed := congrArg (·.relayed) hs'
  constructor
  · rw [hr.client_eq, hjob]
    exact hm.attached
  · rw [hr.client_eq, hrelayed]
    exact hm.seen_le
  · rw [hr.client_eq, hr.streamPart_eq, hrelayed]
    exact hm.shown

/-- A client that announces what it writes may go on under the relay's eyes. -/
theorem Mirrors.withClient {c : Progress.Client} (hm : m.Mirrors s)
    (ha : ∃ a, c.active = some a ∧ a.job = s.job) (hc : m.client.Announced c) :
    ({ m with client := c } : Machine).Mirrors s where
  attached := ha
  seen_le v hv := by
    have hle := hm.seen_le v hv
    rcases hc with ⟨-, heq⟩ | hlt
    · exact heq ▸ hle
    · exact Nat.le_of_lt (Nat.lt_of_le_of_lt hle hlt)
  shown hv := by
    rcases hc with ⟨hstate, hversion⟩ | hlt
    · have hv : s.relayed = some c.version := hv
      rw [hversion] at hv
      show m.view.streamPart = c.state.shown
      rw [hstate]
      exact hm.shown hv
    · -- What is new has not been seen yet.
      exact absurd (hm.seen_le _ hv) (Nat.not_le_of_lt hlt)

/-- **A turn of the relay copies the latest**, if there is anything new. -/
theorem Coherent.relay_eq (hc : m.Coherent) (hs : m.session = some s) (hm : m.Mirrors s)
    (hnew : s.relayed ≠ some m.client.version) :
    (m.relay s).1 =
      ({ m with session := some { s with relayed := some m.client.version } } : Machine).write
        (m.view.withProgress m.client.state) := by
  obtain ⟨a, ha, hajob⟩ := hm.attached
  have hjob : m.client.state.job = some s.job := hajob ▸ hc.client.job_eq a ha
  unfold relay copyProgress
  rw [if_neg hnew, if_pos hjob]
  set m' : Machine := { m with session := some { s with relayed := some m.client.version } }
  have hnumber : m'.view.session = s.number := (hc.number_eq s hs).symm
  exact congrArg Prod.fst (writeCurrent_of_eq _ hnumber)

theorem Coherent.mirrors_relay (hc : m.Coherent) (hs : m.session = some s) (hm : m.Mirrors s) :
    ∃ s', (m.relay s).1.session = some s' ∧ (m.relay s).1.Mirrors s' ∧
      (m.relay s).1.view.streamPart = m.client.state.shown ∧
      (m.relay s).1.client = m.client := by
  by_cases hnew : s.relayed = some m.client.version
  · have heq : m.relay s = (m, []) := if_pos hnew
    rw [heq]
    exact ⟨s, hs, hm, hm.shown hnew, rfl⟩
  · rw [hc.relay_eq hs hm hnew]
    refine ⟨_, rfl, ⟨hm.attached, ?_, fun _ => rfl⟩, rfl, rfl⟩
    rintro v ⟨⟩
    exact Nat.le_refl _

/-- **While a session goes on, the mirror is kept**, and what the view shows of the stream is what
it showed before or what the client shows. -/
theorem Coherent.mirrors_after (hc : m.Coherent) (hs : m.session = some s) (hm : m.Mirrors s)
    (hi : i.goesOn) : ∃ s', (m.after i).session = some s' ∧ (m.after i).Mirrors s' ∧
      ((m.after i).view.streamPart = m.view.streamPart ∨
        (m.after i).view.streamPart = m.client.state.shown) := by
  obtain ⟨a, ha, hajob⟩ := hm.attached
  -- The stream side rests, or the client moves and the view does not, or the relay copies.
  rcases hc.goesOn_cases hs hi with hrests | ⟨e, heq⟩ | heq | heq
  · obtain ⟨s', hs', hside⟩ := hrests.session hs
    exact ⟨s', hs', hm.rests hrests hside, .inl hrests.streamPart_eq⟩
  · obtain ⟨a', ha', ha'job⟩ := hc.client.active_step e ha
    rw [heq]
    exact ⟨s, hs, hm.withClient ⟨a', ha', ha'job.trans hajob⟩ (m.client.step_announced e), .inl rfl⟩
  · have hlast : m.client.lastJob = some s.job := hajob ▸ hc.client.lastJob_eq a ha
    rw [heq, Progress.Client.resubscribe, hlast]
    exact ⟨s, hs, hm.withClient (m.client.active_subscribe s.job)
      (m.client.subscribe_announced s.job), .inl rfl⟩
  · obtain ⟨s', hs', hm', hshown, -⟩ := hc.mirrors_relay hs hm
    rw [heq]
    exact ⟨s', hs', hm', .inr hshown⟩

/-- What the view shows of the stream in the course of a session is what it showed at the beginning
or what the client has shown at some moment since. -/
theorem Coherent.mirrors_run (hc : m.Coherent) (hs : m.session = some s) (hm : m.Mirrors s)
    (his : ∀ i ∈ is, i.goesOn) : ∃ s', (m.run is).session = some s' ∧ (m.run is).Mirrors s' ∧
      ((m.run is).view.streamPart = m.view.streamPart ∨
        ∃ pre, pre <+: is ∧ (m.run is).view.streamPart = (m.run pre).client.state.shown) := by
  induction is generalizing m s with
  | nil => exact ⟨s, hs, hm, .inl rfl⟩
  | cons i is ih =>
    obtain ⟨hi, his⟩ := List.forall_mem_cons.1 his
    have hca := hc.after (Input.ne_drop_of_goesOn hi)
    obtain ⟨s₁, hs₁, hm₁, hpart₁⟩ := hc.mirrors_after hs hm hi
    obtain ⟨s', hs', hm', hpart⟩ := ih hca hs₁ hm₁ his
    refine ⟨s', hs', hm', ?_⟩
    rw [run_cons]
    -- What the view shows was copied in the rest of the run, or at the first input, or not at all.
    rcases hpart with hpart | ⟨pre, hpre, hpart⟩
    · rw [hpart]
      rcases hpart₁ with hpart₁ | hpart₁
      · exact .inl hpart₁
      · exact .inr ⟨[], List.nil_prefix, hpart₁⟩
    · exact .inr ⟨i :: pre, (List.prefix_cons_inj i).2 hpre, hpart⟩

/-- The relay of the open session keeps up in every run. -/
theorem mirrors_of_session {pollInterval : Nat}
    (hs : ((initial pollInterval).run is).session = some s) :
    ((initial pollInterval).run is).Mirrors s := by
  refine session_induction (P := fun is s => ((initial pollInterval).run is).Mirrors s)
    (fun is job hd => ?_) (fun {is i s s'} hc hs hm hi hs' _ _ => ?_) hs
  · rw [run_append]
    show (((initial pollInterval).run is).after (.call (.view job))).Mirrors _
    rw [after_view (coherent_run pollInterval hd).not_dropped]
    exact mirrors_openJob ..
  · obtain ⟨s₁, hs₁, hm₁, -⟩ := hc.mirrors_after hs hm hi
    obtain rfl : s' = s₁ := Option.some.inj (hs'.symm.trans hs₁)
    rw [run_append]
    exact hm₁

/-! ### Nothing is made up and nothing is lost -/

theorem step_relayTurn (hs : m.session = some s) :
    m.step (.relayTurn s.number) = m.relay s := by
  show m.stepSession s.number (.relayTurn s.number) = m.relay s
  rw [stepSession, current?_self hs]
  rfl

/-- **The view mirrors the stream.** In every state of a run with an open session, (a) the view
shows of the stream what the session began with, or what the progress client has shown at some
moment since the session's job was opened; (b) when the relay has nothing to do, as when nobody has,
the view shows what the client shows; and (c) there is nothing else that it can wait for: one turn
of the relay brings the view up to date. -/
theorem view_mirrors_stream {pollInterval : Nat} {is : List Input} {s : Session}
    (hs : ((initial pollInterval).run is).session = some s) :
    let m := (initial pollInterval).run is
    (∃ opening since, is = opening ++ .call (.view s.job) :: since ∧ (∀ i ∈ since, i.goesOn) ∧
        (m.view.streamPart = (0.0, "", .connecting) ∨
          ∃ pre, pre <+: since ∧ m.view.streamPart =
            ((initial pollInterval).run
              (opening ++ .call (.view s.job) :: pre)).client.state.shown)) ∧
      (m.step (.relayTurn s.number) = (m, []) → m.view.streamPart = m.client.state.shown) ∧
      (m.step (.relayTurn s.number)).1.view.streamPart =
        (m.step (.relayTurn s.number)).1.client.state.shown := by
  intro m
  have hd := (coherent_initial pollInterval).not_drop_of_session hs
  have hc : m.Coherent := coherent_run pollInterval hd
  obtain ⟨opening, since, rfl, hsince⟩ := exists_opening hs
  have hdo : .call .drop ∉ opening := fun h => hd (List.mem_append_left _ h)
  have hco := coherent_run pollInterval hdo
  -- The session as it began, and the mirror from there on.
  have hopen : ((initial pollInterval).run opening).after (.call (.view s.job)) =
      (((initial pollInterval).run opening).openJob s.job).1 := by
    show (((initial pollInterval).run opening).call (.view s.job)).1 = _
    rw [call_of_not_dropped hco.not_dropped]
  have hrun (pre : List Input) :
      (initial pollInterval).run (opening ++ .call (.view s.job) :: pre) =
        (((initial pollInterval).run opening).openJob s.job).1.run pre := by
    rw [run_append, run_cons, hopen]
  obtain ⟨s', hs', hm, hpart⟩ := (hco.openJob s.job).mirrors_run (session_of_openJob _ s.job)
    (mirrors_openJob _ s.job _) hsince
  rw [← hrun] at hs' hm hpart
  obtain rfl : s = s' := Option.some.inj (hs.symm.trans hs')
  obtain ⟨s₁, hs₁, -, hshown, hclient⟩ := hc.mirrors_relay hs hm
  refine ⟨⟨opening, since, rfl, hsince, ?_⟩, fun hidle => ?_, ?_⟩
  · rcases hpart with hpart | ⟨pre, hpre, hpart⟩
    · exact .inl hpart
    · exact .inr ⟨pre, hpre, hpart.trans (by rw [hrun])⟩
  · rw [← hshown, ← step_relayTurn hs, hidle]
  · rw [step_relayTurn hs, hshown, hclient]

/-- A run that opens a job again while its stream stands. -/
def reopened : List Input :=
  [.call (.view 7), .happening (.progress (.turn 1)), .happening (.progress (.answer 1 (.ok 0))),
    .call (.view 7), .happening (.relayTurn 2)]

/-- The view shows the stream as live, which it was before the session began. -/
theorem reopened_streamPart_eq :
    ((initial 500).run reopened).view.streamPart =
      ((initial 500).run reopened).client.state.shown := by
  have hs : ((initial 500).run reopened).session = some ⟨7, 2, false, .fresh, some 2⟩ := rfl
  exact (view_mirrors_stream hs).2.1 rfl

end Viewer.Machine

end MachiningViewer
