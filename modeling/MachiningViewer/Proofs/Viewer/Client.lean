import MachiningViewer.Proofs.Progress.Teardown
import MachiningViewer.Proofs.Viewer.Polling

/-!
# The progress client of a viewer

A viewer makes the calls of its progress client, and hands on to it what happens to its readers. So
in every run of the viewer the client goes through a run of its own (`clientRun`), from which it
comes out the same (`client_run`), and each of its effects is an effect of the viewer
(`progress_react`). What is known of the streams of a client is therefore known of the streams of a
viewer, whose books balance in the same way (`openedStreams_perm`).
-/

namespace MachiningViewer

namespace Viewer

/-- The effect of the progress client, if it is one. -/
def Effect.progress? : Effect → Option Progress.Effect
  | .progress e => some e
  | _ => none

namespace Machine

variable {m : Machine} {i : Input} {is js : List Input}

/-! ### What the client gets to do -/

/-- What an input of the viewer is to its progress client, if it is anything. -/
def clientInput? (m : Machine) : Input → Option Progress.Input
  | .call (.view job) => some (.call (.subscribe job))
  | .call .close => some (.call .unsubscribe)
  | .call .retryStream => if m.session.isSome then some (.call .resubscribe) else none
  | .call .drop => some (.call .drop)
  | .happening (.progress h) => some (.happening h)
  | .happening _ => none

/-- The run of the progress client in a run of the viewer. -/
def clientRun (m : Machine) (is : List Input) : List Progress.Input :=
  gather after (fun m i => (m.clientInput? i).toList) m is

/-- The effects of the progress client in one step. -/
def progressEffects (m : Machine) (i : Input) : List Progress.Effect :=
  (m.react i).2.filterMap Effect.progress?

theorem progress_of_notices {es : List Effect} (h : es.all Effect.isNotice) :
    es.filterMap Effect.progress? = [] := by
  refine List.filterMap_eq_nil_iff.2 fun e he => ?_
  have hnotice := List.all_eq_true.1 h e he
  cases e <;> first | rfl | cases hnotice

theorem progress_cancel (m : Machine) : m.cancel.2.filterMap Effect.progress? = [] :=
  progress_of_notices m.notices_cancel

theorem progress_withClient (m : Machine) (r : Progress.Client × List Progress.Effect) :
    (m.withClient r).2.filterMap Effect.progress? = r.2 := by
  show (r.2.map Effect.progress).filterMap Effect.progress? = r.2
  rw [List.filterMap_map]
  exact List.filterMap_some

theorem progress_answeredJob (m : Machine) (s : Session) (result : Except FetchError Job) :
    (m.answeredJob s result).2.filterMap Effect.progress? = [] := by
  cases result with
  | ok job =>
    show (m.receivedJob s job).2.filterMap _ = _
    unfold receivedJob
    simp only
    split
    · split
      · rfl
      · rw [List.filterMap_append, progress_of_notices (notices_afterRound ..)]
        rfl
    · rfl
  | error e => exact progress_of_notices (m.notices_receivedJobError s e)

/-- Neither the tracker nor the relay does anything through the progress client. -/
theorem progress_stepSession (m : Machine) (n : Nat) (h : Happening) :
    (m.stepSession n h).2.filterMap Effect.progress? = [] := by
  unfold stepSession
  split
  · rename_i s _
    rcases m.stepCurrent_cases s h with ⟨heq, -⟩ | ⟨heq, -⟩ | ⟨-, heq, -⟩ | ⟨result, -, heq, -⟩ |
        ⟨artefact, status, result, -, heq, -⟩ <;> rw [heq]
    · rfl
    · exact progress_of_notices (m.notices_relay s)
    · rfl
    · exact m.progress_answeredJob s result
    · exact progress_of_notices (m.notices_receivedText s status result)
  · exact progress_of_notices (m.notices_stepLate n h)

theorem client_stepSession (m : Machine) (n : Nat) (h : Happening) :
    (m.stepSession n h).1.client = m.client := by
  unfold stepSession
  cases hs : m.current? n with
  | some s =>
    obtain ⟨s', v, version, heq, -⟩ := stepCurrent_works (Option.filter_eq_some_iff.1 hs).1 h
    exact congrArg (·.client) heq
  | none =>
    obtain ⟨v, version, late, lateRelays, heq, -⟩ := m.stepLate_eq n h
    exact congrArg (·.client) heq

/-- Viewer and client are dropped together. -/
def DropsTogether (m : Machine) : Prop :=
  m.client.dropped = m.dropped

/-- What a call is to the progress client of a viewer that has not been dropped. -/
theorem progress_call (hd : m.dropped = false) (hd' : m.client.dropped = false) (k : Call) :
    ((m.call k).1.client, (m.call k).2.filterMap Effect.progress?) =
      (m.clientInput? (.call k)).elim (m.client, []) m.client.react := by
  have hreact (k : Progress.Call) : m.client.react (.call k) = m.client.call k := rfl
  have hcall := Progress.Client.call_of_not_dropped hd'
  rw [call_of_not_dropped hd]
  cases k with
  | view job =>
    simp only [clientInput?, Option.elim_some, hreact, hcall, openJob, List.filterMap_append,
      progress_cancel, progress_withClient, write, cancel_client]
    exact Prod.ext rfl (List.append_nil _)
  | close =>
    have hsaid : (m.sessionJob?.toList.map fun job => Effect.report (Notice.closing job)).filterMap
        Effect.progress? = [] := by cases m.sessionJob? <;> rfl
    simp only [clientInput?, Option.elim_some, hreact, hcall, Machine.close, List.filterMap_append,
      hsaid, progress_cancel, progress_withClient, write, cancel_client]
    exact Prod.ext rfl (List.append_nil _)
  | retryStream =>
    simp only [clientInput?, Machine.retryStream]
    cases m.session with
    | none => rfl
    | some s =>
      simp only [progress_withClient]
      exact (hcall .resubscribe).symm
  | drop =>
    simp only [clientInput?, Option.elim_some, hreact, hcall, Machine.drop, List.filterMap_append,
      progress_cancel, progress_withClient, cancel_client]
    rfl

/-- **What an input is to the progress client.** The client steps as on its own, and its effects are
those that the viewer has of it. -/
theorem DropsTogether.progress_react (hm : m.DropsTogether) (i : Input) :
    ((m.after i).client, m.progressEffects i) =
      (m.clientInput? i).elim (m.client, []) m.client.react := by
  cases i with
  | call k =>
    cases hd : m.dropped with
    | false => exact progress_call hd (hm.trans hd) k
    | true =>
      -- Neither hears of the call any more.
      have hgone (k : Progress.Call) : m.client.react (.call k) = (m.client, []) :=
        Progress.Client.call_of_dropped (hm.trans hd) k
      have hnone : (m.clientInput? (.call k)).elim (m.client, []) m.client.react =
          (m.client, []) := by
        cases k with
        | retryStream =>
          simp only [clientInput?]
          split
          · exact hgone .resubscribe
          · rfl
        | view job => exact hgone (.subscribe job)
        | close => exact hgone .unsubscribe
        | drop => exact hgone .drop
      show ((m.call k).1.client, (m.call k).2.filterMap Effect.progress?) = _
      rw [call_of_dropped hd, hnone]
      rfl
  | happening h =>
    show ((m.step h).1.client, (m.step h).2.filterMap Effect.progress?) = _
    rcases happening_cases h with ⟨e, rfl⟩ | ⟨ms, rfl⟩ | ⟨n, hn, heq⟩
    · rw [step, progress_withClient]
      rfl
    · rfl
    · rw [heq, progress_stepSession, client_stepSession]
      cases h <;> first | rfl | cases hn

/-! ### The run of the client -/

/-- When the viewer has been dropped, so has its client. -/
theorem Gone.client_after (hg : m.Gone) (hc : m.client.Gone) (i : Input) :
    (m.after i).client.Gone := by
  have hm : m.DropsTogether := hc.dropped.trans hg.dropped.symm
  have heq : (m.after i).client = ((m.clientInput? i).elim (m.client, []) m.client.react).1 :=
    congrArg Prod.fst (hm.progress_react i)
  rw [heq]
  cases m.clientInput? i with
  | none => exact hc
  | some j => exact hc.after j

theorem client_gone_drop (hn : m.dropped = false) : (m.after (.call .drop)).client.Gone := by
  show (m.call .drop).1.client.Gone
  rw [call_of_not_dropped hn]
  exact ⟨rfl, m.cancel.1.client.teardown_active⟩

theorem Gone.run_client (hg : m.Gone) (hc : m.client.Gone) (is : List Input) :
    (m.run is).client.Gone := by
  induction is generalizing m with
  | nil => exact hc
  | cons i is ih => exact ih (hg.after i) (hg.client_after hc i)

theorem dropsTogether_run (pollInterval : Nat) (is : List Input) :
    ((initial pollInterval).run is).DropsTogether := by
  by_cases hd : .call .drop ∈ is
  · obtain ⟨pre, post, rfl, hpre⟩ := List.eq_append_cons_of_mem hd
    have hn := (coherent_run pollInterval hpre).not_dropped
    have hg := gone_drop _ hn
    rw [run_append, run_cons]
    exact (hg.run_client (client_gone_drop hn) post).dropped.trans (hg.run post).dropped.symm
  · have hc := coherent_run pollInterval hd
    exact hc.client.not_dropped.trans hc.not_dropped.symm

theorem clientRun_append (m : Machine) (is js : List Input) :
    m.clientRun (is ++ js) = m.clientRun is ++ (m.run is).clientRun js :=
  gather_append ..

theorem clientRun_singleton (m : Machine) (i : Input) :
    m.clientRun [i] = (m.clientInput? i).toList :=
  gather_singleton ..

/-- **The progress client goes through a run of its own.** -/
theorem client_run (pollInterval : Nat) (is : List Input) :
    ((initial pollInterval).run is).client =
      Progress.Client.initial.run ((initial pollInterval).clientRun is) := by
  induction is using List.reverseRecOn with
  | nil => rfl
  | append_singleton is i ih =>
    have hstep := congrArg Prod.fst ((dropsTogether_run pollInterval is).progress_react i)
    rw [clientRun_append, run_append, Progress.Client.run_append, ← ih]
    refine hstep.trans ?_
    rw [clientRun_singleton]
    cases ((initial pollInterval).run is).clientInput? i <;> rfl

/-- What the client brings about in its run, the viewer brings about in its own. -/
theorem gather_clientRun {α : Type*} {f : Machine → Input → List α}
    {g : Progress.Client → Progress.Input → List α}
    (hf : ∀ m i, m.DropsTogether → f m i = (m.clientInput? i).elim [] (g m.client))
    (pollInterval : Nat) (is : List Input) :
    gather after f (initial pollInterval) is =
      gather Progress.Client.after g .initial ((initial pollInterval).clientRun is) := by
  -- On the last input, since the inputs of the client depend on the machine it meets.
  induction is using List.reverseRecOn with
  | nil => rfl
  | append_singleton is i ih =>
    set m := (initial pollInterval).run is
    have hclient : m.client =
        ((initial pollInterval).clientRun is).foldl Progress.Client.after .initial :=
      client_run pollInterval is
    have hlast : gather after f m [i] =
        gather Progress.Client.after g m.client (m.clientInput? i).toList := by
      rw [gather_singleton, hf m i (dropsTogether_run pollInterval is)]
      cases m.clientInput? i with
      | none => rfl
      | some j => exact (gather_singleton Progress.Client.after g m.client j).symm
    rw [clientRun_append, clientRun_singleton, gather_append, gather_append, ih, ← hclient]
    exact congrArg _ hlast

/-! ### Streams -/

/-- The stream that the transport opens with an input. -/
def opens (m : Machine) : Input → List Progress.StreamId
  | .happening (.progress h) => m.client.opens (.happening h)
  | _ => []

/-- The streams that are given back with an input. -/
def givesBack (m : Machine) (i : Input) : List Progress.StreamId :=
  (m.progressEffects i).filterMap Progress.Effect.givenBack?

/-- The streams from which something is read with an input. -/
def reads (m : Machine) : Input → List Progress.StreamId
  | .happening (.progress h) => m.client.reads (.happening h)
  | _ => []

/-- The streams that the transport opens during a run, in order. -/
def openedStreams (m : Machine) (is : List Input) : List Progress.StreamId :=
  gather after opens m is

/-- The streams that are given back during a run, in order. -/
def givenBackStreams (m : Machine) (is : List Input) : List Progress.StreamId :=
  gather after givesBack m is

/-- The streams from which something is read during a run, in order. -/
def readStreams (m : Machine) (is : List Input) : List Progress.StreamId :=
  gather after reads m is

/-- A call opens no stream, and reads from none. -/
theorem elim_clientInput?_call {α : Type*} (m : Machine) (k : Call)
    {f : Progress.Input → List α} (hf : ∀ k, f (.call k) = []) :
    (m.clientInput? (.call k)).elim [] f = [] := by
  cases k with
  | retryStream =>
    simp only [clientInput?]
    split
    · exact hf _
    · rfl
  | view job => exact hf _
  | close => exact hf _
  | drop => exact hf _

theorem openedStreams_eq (pollInterval : Nat) (is : List Input) :
    (initial pollInterval).openedStreams is =
      Progress.Client.initial.openedStreams ((initial pollInterval).clientRun is) := by
  refine gather_clientRun (fun m i _ => ?_) pollInterval is
  cases i with
  | call k => exact (m.elim_clientInput?_call k fun _ => rfl).symm
  | happening h => cases h <;> rfl

theorem readStreams_eq (pollInterval : Nat) (is : List Input) :
    (initial pollInterval).readStreams is =
      Progress.Client.initial.readStreams ((initial pollInterval).clientRun is) := by
  refine gather_clientRun (fun m i _ => ?_) pollInterval is
  cases i with
  | call k => exact (m.elim_clientInput?_call k fun _ => rfl).symm
  | happening h => cases h <;> rfl

theorem givenBackStreams_eq (pollInterval : Nat) (is : List Input) :
    (initial pollInterval).givenBackStreams is =
      Progress.Client.initial.givenBackStreams ((initial pollInterval).clientRun is) := by
  refine gather_clientRun (fun m i hm => ?_) pollInterval is
  have heffects : m.progressEffects i =
      ((m.clientInput? i).elim (m.client, []) m.client.react).2 :=
    congrArg Prod.snd (hm.progress_react i)
  unfold givesBack
  rw [heffects]
  cases m.clientInput? i <;> rfl

/-- **The books of a viewer balance.** What the transport has opened is what was given back and the
one stream, if any, that is open. -/
theorem openedStreams_perm (pollInterval : Nat) (is : List Input) :
    ((initial pollInterval).openedStreams is).Perm
      ((initial pollInterval).givenBackStreams is ++
        ((initial pollInterval).run is).client.held.toList) := by
  rw [openedStreams_eq, givenBackStreams_eq, client_run]
  exact Progress.Client.openedStreams_perm _

end Machine

end Viewer

end MachiningViewer
