import MachiningViewer.Proofs.Progress.Run
import Mathlib.Data.List.Induction

/-!
# The phases of a progress client

The phase that a client shows, its current subscription and what its owner has done belong together
in every state that a run reaches (`phase_machine`). A subscription stands exactly in the phases
from connecting to disconnected, a stream is held exactly while the phase is live, and the phases
before the first and after the last subscription are those of the owner's last deed. So a reader
can only move the phase forward: to live, and from there to disconnected.

All of this is read off from coherence, apart from the owner's deeds, which need a look at the run
(`phase_eq_of_deeds`).
-/

namespace MachiningViewer.Progress

/-- What the owner of a client does about its subscription. -/
inductive Deed where
  | subscribe
  | unsubscribe
  deriving DecidableEq, Repr

/-- Is this one step of a phase that a reader makes? -/
inductive Phase.Advances : Phase → Phase → Prop
  | start : Advances .connecting .live
  | giveUp : Advances .connecting .disconnected
  | stop : Advances .live .disconnected

namespace Client

variable {c : Client}

/-- The deed that an input is, if it is one. To subscribe again is to subscribe if there was a
subscription before. -/
def deed? (c : Client) : Input → Option Deed
  | .call (.subscribe _) => some .subscribe
  | .call .resubscribe => c.lastJob.map fun _ => .subscribe
  | .call .unsubscribe => some .unsubscribe
  | .call .drop | .happening _ => none

/-- The deeds of a run. -/
def deeds (c : Client) (is : List Input) : List Deed :=
  gather after (fun c i => (c.deed? i).toList) c is

theorem deeds_concat (c : Client) (is : List Input) (i : Input) :
    c.deeds (is ++ [i]) = c.deeds is ++ ((c.run is).deed? i).toList := by
  unfold deeds
  rw [gather_append, gather_singleton]
  rfl

/-! ### What readers do to the phase -/

/-- A reader's move leaves the phase where it is, or advances it. -/
theorem advances_of_moves {r r' : Reader} (hm : r.Moves r') :
    r'.phase = r.phase ∨ r.phase.Advances r'.phase := by
  cases hm with
  | request => exact .inl rfl
  | start stream => exact .inr .start
  | giveUp => exact .inr .giveUp
  | readOn stream => exact .inl rfl
  | stop stream => exact .inr .stop

/-- **A happening changes the phase forward or not at all.** -/
theorem Coherent.phase_step (hc : c.Coherent) (h : Happening) :
    (c.step h).1.state.phase = c.state.phase ∨
      c.state.phase.Advances (c.step h).1.state.phase := by
  obtain ⟨s, r, st, v, hs, -, heq, hm, hph, -⟩ | ⟨late, -, heq⟩ := hc.step_cases h
  · rw [heq]
    show st.phase = c.state.phase ∨ c.state.phase.Advances st.phase
    rw [hph, hc.phase_eq s hs]
    exact advances_of_moves hm
  · rw [heq]
    exact .inl rfl

/-! ### What the owner does to the phase -/

theorem isOpen_of_follows {job : JobId} (hf : c.follows job) : c.state.phase.isOpen := by
  unfold follows at hf
  split at hf
  · exact (Bool.and_eq_true_iff.1 hf).2
  · exact absurd hf (by simp)

/-- After a subscription, be it a new one or the one that stood, the phase is open. -/
theorem isOpen_subscribe (c : Client) (job : JobId) : (c.subscribe job).1.state.phase.isOpen := by
  by_cases hf : c.follows job
  · rw [show c.subscribe job = (c, []) from if_pos hf]
    exact isOpen_of_follows hf
  · rw [subscribe_state hf, State.subscribe_phase]
    rfl

/-- What an input makes of the phase, depending on the deed that it is. -/
def PhaseAfter (before : Phase) : Option Deed → Phase → Prop
  | some .subscribe, p => p.isOpen
  | some .unsubscribe, p => p = .terminal
  | none, p => p = before ∨ before.Advances p

theorem Coherent.phase_after (hc : c.Coherent) {i : Input} (hi : i ≠ .call .drop) :
    PhaseAfter c.state.phase (c.deed? i) (c.after i).state.phase := by
  cases i with
  | happening h => exact hc.phase_step h
  | call k =>
    show PhaseAfter _ _ (c.call k).1.state.phase
    rw [call_of_not_dropped hc.not_dropped]
    cases k with
    | subscribe job => exact isOpen_subscribe c job
    | unsubscribe => rfl
    | resubscribe =>
      show PhaseAfter _ (c.lastJob.map _) c.resubscribe.1.state.phase
      unfold Client.resubscribe
      -- Without an earlier job there is nothing to subscribe to again, and the phase stays.
      cases c.lastJob with
      | none => exact .inl rfl
      | some job => exact isOpen_subscribe c job
    | drop => exact absurd rfl hi

/-- **The phases before the first and after the last subscription** are decided by what the owner
has done. -/
theorem phase_eq_of_deeds {is : List Input} (hd : .call .drop ∉ is) :
    ((initial.run is).state.phase = .idle ↔ initial.deeds is = []) ∧
      ((initial.run is).state.phase = .terminal ↔
        (initial.deeds is).getLast? = some .unsubscribe) := by
  induction is using List.reverseRecOn with
  | nil => exact ⟨⟨fun _ => rfl, fun _ => rfl⟩, ⟨nofun, nofun⟩⟩
  | append_singleton is i ih =>
    obtain ⟨hd', hi⟩ : .call .drop ∉ is ∧ i ≠ .call .drop := by
      simpa [not_or, eq_comm] using hd
    have hph := (coherent_run hd').phase_after hi
    have hrun : initial.run (is ++ [i]) = (initial.run is).after i := by
      rw [run_append]; rfl
    rw [hrun, deeds_concat]
    generalize (initial.run is).state.phase = before at hph ih
    generalize ((initial.run is).after i).state.phase = now at hph
    -- The last deed decides, or there is none in this step and the phase before decides.
    cases hdeed : (initial.run is).deed? i with
    | none =>
      rw [hdeed] at hph
      rw [Option.toList_none, List.append_nil, ← (ih hd').1, ← (ih hd').2]
      rcases hph with hph | hph
      · rw [hph]; exact ⟨Iff.rfl, Iff.rfl⟩
      · cases hph <;> simp
    | some d =>
      rw [hdeed] at hph
      cases d with
      | subscribe =>
        have hopen : now.isOpen := hph
        cases now <;> simp [Phase.isOpen] at hopen ⊢
      | unsubscribe =>
        have hterminal : now = .terminal := hph
        rw [hterminal]
        simp

/-! ### The phase machine -/

/-- **The phases of a client.** In every state of a run in which the client is not dropped, (a) the
phase is connecting, live or disconnected exactly when a subscription stands, and then it, the state
and the last subscription are of one job, and the generation of the state is that of the
subscription's reader; (b) the phase is live exactly when that subscription holds a stream; (c) the
phase is idle exactly when the owner has neither subscribed nor unsubscribed, and terminal exactly
when the last of these deeds was to unsubscribe; and (d) whatever happens to a reader, it leaves the
phase where it is or advances it, so that only the owner can leave the last two. -/
theorem phase_machine {is : List Input} (hd : .call .drop ∉ is) :
    let c := initial.run is
    ((c.state.phase = .connecting ∨ c.state.phase = .live ∨ c.state.phase = .disconnected) ↔
        c.active.isSome) ∧
      (∀ s, c.active = some s → c.state.job = some s.job ∧ c.lastJob = some s.job ∧
        c.state.generation = s.generation) ∧
      (c.state.phase = .live ↔ ∃ s stream, c.active = some s ∧ s.stream? = some stream) ∧
      (c.state.phase = .idle ↔ initial.deeds is = []) ∧
      (c.state.phase = .terminal ↔ (initial.deeds is).getLast? = some .unsubscribe) ∧
      (∀ h, (c.step h).1.state.phase = c.state.phase ∨
        c.state.phase.Advances (c.step h).1.state.phase) ∧
      (∀ h, c.state.phase = .disconnected ∨ c.state.phase = .terminal →
        (c.step h).1.state.phase = c.state.phase) := by
  intro c
  have hc : c.Coherent := coherent_run hd
  refine ⟨?_, fun s hs => ⟨hc.job_eq s hs, hc.lastJob_eq s hs, hc.generation_eq s hs⟩, ?_,
    (phase_eq_of_deeds hd).1, (phase_eq_of_deeds hd).2, hc.phase_step, ?_⟩
  · -- With a subscription, the phase is where its reader is.
    cases hs : c.active with
    | none => rcases hc.phase_of_none hs with h | h <;> simp [h]
    | some s =>
      rw [hc.phase_eq s hs]
      cases s.reader <;> simp [Reader.phase]
  · cases hs : c.active with
    | none => rcases hc.phase_of_none hs with h | h <;> simp [h]
    | some s =>
      rw [hc.phase_eq s hs]
      cases hr : s.reader <;> simp [Reader.phase, Subscription.stream?, hr]
  · -- Nothing advances from these phases.
    intro h hlast
    rcases hc.phase_step h with heq | hadv
    · exact heq
    · rcases hlast with hl | hl <;> rw [hl] at hadv <;> cases hadv

/-- A run whose stream is lost. -/
def lostStream : List Input :=
  [.call (.subscribe 7), .happening (.turn 1), .happening (.answer 1 (.ok 0)),
    .happening (.receive 1 (.failure (.stream "reset")))]

/-- The subscription still stands, without a stream. -/
theorem lostStream_stands :
    (initial.run lostStream).active.isSome ∧ (initial.run lostStream).state.phase ≠ .idle := by
  have hd : .call .drop ∉ lostStream := by simp [lostStream]
  have hdeeds : initial.deeds lostStream ≠ [] := by decide
  obtain ⟨hopen, -, -, hidle, -⟩ := phase_machine hd
  exact ⟨hopen.1 (.inr (.inr rfl)), fun h => hdeeds (hidle.1 h)⟩

end Client

end MachiningViewer.Progress
