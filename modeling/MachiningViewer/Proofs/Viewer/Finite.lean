import MachiningViewer.Proofs.Progress.Decoding
import MachiningViewer.Proofs.Progress.Values
import MachiningViewer.Proofs.Viewer.Client
import MachiningViewer.Proofs.Viewer.Flows

/-!
# Progress is finite

A renderer that shows a fraction of the whole counts on a number between zero and one, and `clamp`
gives one of every number but NaN. There is no NaN, because every progress is finite: it starts at
zero and changes only to what an event brings, which is a number of a JSON text
(`Progress.Event.isFinite_progress`). A progress client keeps that in every step
(`Progress.Client.isFinite_after`), and so does a viewer, whose relays copy the progress and may
keep what they have taken beyond the end of their sessions (`Viewer.Machine.ShowsFinite.after`).
-/

namespace MachiningViewer

namespace Double

theorem isNaN_of_isFinite {x : Float} (h : x.isFinite = true) : x.isNaN = false := by
  rw [isNaN_eq]
  rw [isFinite_eq] at h
  cases hx : x.toModel.unpack with
  | notANumber => rw [hx] at h; exact Bool.noConfusion h
  | infinity | zero | finite => rfl

theorem le_self {x : Float} (h : x.isNaN = false) : x ≤ x :=
  le_iff.2 ⟨h, h, le_rfl⟩

end Double

namespace Progress

open Double

/-- A number is brought between its bounds. -/
theorem clamp_bounds {x low high : Float} (hx : x.isNaN = false) (h : low ≤ high) :
    low ≤ clamp x low high ∧ clamp x low high ≤ high := by
  obtain ⟨hlow, hhigh, -⟩ := le_iff.1 h
  unfold clamp
  split
  · exact ⟨le_self hlow, h⟩
  · rename_i hnot
    have hlow' : low ≤ x := (not_lt_iff hx hlow).1 hnot
    split
    · exact ⟨h, le_self hhigh⟩
    · rename_i hnot
      exact ⟨hlow', (not_lt_iff hhigh hx).1 hnot⟩

/-- A progress that can be shown: it is finite, and its fraction is a number between zero and one.
-/
structure Showable (x : Float) : Prop where
  isFinite : x.isFinite = true
  isNumber : (fraction x).isNaN = false
  nonneg : 0.0 ≤ fraction x
  le_one : fraction x ≤ 1.0

theorem showable_of_isFinite {x : Float} (h : x.isFinite = true) : Showable x := by
  have hpercent : IsOrdinary (100.0 : Float).toModel.unpack = true := by decide +kernel
  have hx : (x / 100.0).isNaN = false := isNaN_div (isNaN_of_isFinite h) hpercent
  have hbounds : (0.0 : Float) ≤ 1.0 := by decide +kernel
  obtain ⟨hlow, hhigh⟩ := clamp_bounds hx hbounds
  exact ⟨h, (le_iff.1 hlow).2.1, hlow, hhigh⟩

theorem isFinite_zero : (0.0 : Float).isFinite = true := by
  decide +kernel

/-! ### Events -/

namespace Event

open Json

/-- A progress that an event denotes is that of one of the values. -/
theorem Denotes.exists_isDouble {t : Tree} {e : Event} {x : Float} (ht : t.Spelled)
    (h : Denotes t e) (hx : e.progress = some x) : ∃ u : Tree, u.Spelled ∧ u.IsDouble x := by
  -- The number shown stands in the text, under the name `progress` or at its place in the array.
  have hmembers {members : List Member} (hspelled : ∀ m ∈ members, m.2.Spelled)
      (h : Denotes (.object members true) e) : ∃ u : Tree, u.Spelled ∧ u.IsDouble x := by
    cases h with
    | object names progress message stage =>
      rw [hx] at progress
      generalize hvalues : valuesOf "progress" members = values at progress
      cases progress with
      | value hdouble =>
        rename_i u
        have hu : u ∈ valuesOf "progress" members := hvalues ▸ List.mem_singleton_self u
        obtain ⟨m, hm, hmu⟩ := List.mem_filterMap.1 hu
        split at hmu
        · exact ⟨u, Option.some.inj hmu ▸ hspelled m hm, hdouble⟩
        · cases hmu
  cases ht with
  | object _ hspelled => exact hmembers hspelled h
  | array hspelled =>
    cases h with
    | list length h => exact hmembers (fun m hm => hspelled m.2 (List.of_mem_zip hm).2) h
  | null | boolean | string | number => cases h

/-- **A progress that is decoded is finite**, whatever the payload. -/
theorem isFinite_progress {payload : String} {e : Event} {x : Float}
    (h : decode? payload = some e) (hx : e.progress = some x) : x.isFinite = true := by
  obtain ⟨s, -, hdenotes⟩ := decode?_eq_some_iff.1 h
  obtain ⟨u, hu, hdouble⟩ := hdenotes.exists_isDouble s.spelled hx
  exact hu.isFinite hdouble

/-- What is beyond the doubles is not decoded as an infinity. -/
example : (decode? "\x7b\"progress\": 1e999\x7d").isNone = true := by decide +kernel

end Event

/-! ### The client -/

namespace Client

theorem isFinite_foldl {es : List Event}
    (hes : ∀ e ∈ es, ∀ x, e.progress = some x → x.isFinite = true) {s : State}
    (hs : s.progress.isFinite = true) : (es.foldl State.apply s).progress.isFinite = true := by
  induction es generalizing s with
  | nil => exact hs
  | cons e es ih =>
    obtain ⟨he, hes⟩ := List.forall_mem_cons.1 hes
    refine ih hes ?_
    show (e.progress.getD s.progress).isFinite = true
    cases hx : e.progress with
    | none => exact hs
    | some x => exact he x hx

/-- **No input makes the progress other than finite.** -/
theorem isFinite_after {c : Client} (hc : c.Coherent ∨ c.Gone)
    (h : c.state.progress.isFinite = true) (i : Input) :
    (c.after i).state.progress.isFinite = true := by
  have hevents : ∀ e ∈ c.hears i, ∀ x, e.progress = some x → x.isFinite = true := by
    intro e he x hx
    obtain ⟨⟨s, item⟩, -, hitem⟩ := List.mem_filterMap.1 he
    cases item with
    | message payload => exact Event.isFinite_progress hitem hx
    | failure | ending => cases hitem
  show (c.after i).state.values.1.isFinite = true
  rw [values_after hc]
  split
  · exact isFinite_foldl hevents h
  · exact isFinite_zero

theorem isFinite_run (is : List Input) : (initial.run is).state.progress.isFinite = true := by
  induction is using List.reverseRecOn with
  | nil => exact isFinite_zero
  | append_singleton is i ih =>
    rw [run_append]
    exact isFinite_after (coherent_or_gone_run is) ih i

end Client

end Progress

/-! ### The viewer -/

namespace Viewer.Machine

open Progress (isFinite_zero)

/-- What the view shows is finite, and what late relays have taken. -/
structure ShowsFinite (m : Machine) : Prop where
  view : m.view.progress.isFinite = true
  taken : ∀ l ∈ m.lateRelays, l.taken.progress.isFinite = true

variable {m : Machine} {is : List Input}

theorem ShowsFinite.cancel (hm : m.ShowsFinite)
    (hc : m.client.state.progress.isFinite = true) : m.cancel.1.ShowsFinite := by
  unfold Machine.cancel
  cases m.session with
  | none => exact hm
  | some s =>
    refine ⟨hm.view, fun l hl => ?_⟩
    rcases List.mem_append.1 hl with hl | hl
    · exact hm.taken l hl
    · obtain rfl := List.mem_singleton.1 hl
      exact hc

theorem ShowsFinite.copyProgress (hm : m.ShowsFinite) (job : JobId) (n : Nat)
    {p : Progress.State} (hp : p.progress.isFinite = true) :
    (m.copyProgress job n p).1.ShowsFinite := by
  unfold Machine.copyProgress writeCurrent
  split
  · split
    · exact ⟨hp, hm.taken⟩
    · exact hm
  · exact hm

theorem ShowsFinite.call (hm : m.ShowsFinite) (hc : m.client.state.progress.isFinite = true)
    (k : Call) : (m.call k).1.ShowsFinite := by
  have hcancel := hm.cancel hc
  unfold Machine.call
  split
  · exact hm
  · cases k with
    | view job => exact ⟨isFinite_zero, hcancel.taken⟩
    | close => exact ⟨hcancel.view, hcancel.taken⟩
    | retryStream =>
      simp only [retryStream]
      split
      · exact ⟨hm.view, hm.taken⟩
      · exact hm
    | drop => exact ⟨hcancel.view, hcancel.taken⟩

theorem ShowsFinite.relayTurn (hm : m.ShowsFinite)
    (hc : m.client.state.progress.isFinite = true) (n : Nat) :
    (m.stepSession n (.relayTurn n)).1.ShowsFinite := by
  unfold stepSession
  cases m.current? n with
  | some s =>
    simp only [stepCurrent, relay]
    split
    · exact hm
    · refine ShowsFinite.copyProgress ?_ s.job s.number hc
      exact ⟨hm.view, hm.taken⟩
  | none =>
    simp only [stepLate]
    split
    · -- A late relay copies what it has taken already, which was finite when it was taken.
      rename_i l hl
      refine ShowsFinite.copyProgress ?_ l.job l.number (hm.taken l (List.mem_of_find?_eq_some hl))
      exact ⟨hm.view, fun l hl => hm.taken l (List.mem_filter.1 hl).1⟩
    · exact hm

/-- **No input makes the view show other than a finite progress**, if the client shows none. -/
theorem ShowsFinite.after (hm : m.ShowsFinite) (hc : m.client.state.progress.isFinite = true)
    (i : Input) : (m.after i).ShowsFinite := by
  cases i with
  | call k => exact hm.call hc k
  | happening h =>
    by_cases hi : (Input.happening h).isOfStream
    · cases h with
      | progress h => exact ⟨hm.view, hm.taken⟩
      | relayTurn n => exact hm.relayTurn hc n
      | trackerTurn | jobAnswer | textAnswer | elapse => cases hi
    · -- Any other happening leaves both the view's progress and what late relays hold.
      have hside := m.streamSide_after_of_not hi
      have hview : (m.after (.happening h)).view.progress = m.view.progress :=
        congrArg (·.view.progress) hside
      have hlate : (m.after (.happening h)).lateRelays = m.lateRelays :=
        congrArg (·.lateRelays) hside
      exact ⟨hview ▸ hm.view, hlate ▸ hm.taken⟩

theorem isFinite_client (pollInterval : Nat) (is : List Input) :
    ((initial pollInterval).run is).client.state.progress.isFinite = true := by
  rw [client_run]
  exact Progress.Client.isFinite_run _

theorem showsFinite_run (pollInterval : Nat) (is : List Input) :
    ((initial pollInterval).run is).ShowsFinite := by
  induction is using List.reverseRecOn with
  | nil => exact ⟨isFinite_zero, by simp [run, initial]⟩
  | append_singleton is i ih =>
    rw [run_append]
    exact ih.after (isFinite_client pollInterval is) i

/-- **Progress can be shown, always.** In every state of a progress client, on its own or in a
viewer, and of a view, whatever payloads have come and after whatever calls, progress is finite and
its fraction is a number between zero and one. -/
theorem progress_showable :
    (∀ is : List Progress.Input,
        Progress.Showable (Progress.Client.initial.run is).state.progress) ∧
      ∀ (pollInterval : Nat) (is : List Input),
        Progress.Showable ((initial pollInterval).run is).client.state.progress ∧
          Progress.Showable ((initial pollInterval).run is).view.progress :=
  ⟨fun is => Progress.showable_of_isFinite (Progress.Client.isFinite_run is),
    fun pollInterval is =>
      ⟨Progress.showable_of_isFinite (isFinite_client pollInterval is),
        Progress.showable_of_isFinite (showsFinite_run pollInterval is).view⟩⟩

end Viewer.Machine

end MachiningViewer
