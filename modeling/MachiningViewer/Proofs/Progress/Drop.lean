import MachiningViewer.Proofs.Progress.Teardown

/-!
# What a dropped client still shows

A drop ends the subscription of a client, but unlike an `unsubscribe` it does not count the
generation on. So if the transport was working on a request when the client was dropped, its answer
is still one of the current generation, and a refusal is written. Nothing else is: what the drop has
left can be used once (`Leaves`). A state that nobody owns any more is therefore final if and only
if the transport was asked for nothing (`state_final_iff`).
-/

namespace MachiningViewer

/-- Where at most one thing is left, nothing is left when it has been taken. -/
theorem filter_erase_eq_nil {α : Type*} [BEq α] [LawfulBEq α] {p : α → Bool} {xs : List α}
    {o : Option α} {x : α} (hx : x ∈ xs) (hp : p x) (hsub : (xs.filter p).Sublist o.toList) :
    o = some x ∧ (xs.erase x).filter p = [] := by
  have hmem : x ∈ xs.filter p := List.mem_filter.2 ⟨hx, hp⟩
  have ho : o = some x := Option.mem_toList.1 (hsub.subset hmem)
  rw [ho, Option.toList_some] at hsub
  have hall : xs.filter p = [x] :=
    (List.sublist_singleton.1 hsub).resolve_left (List.ne_nil_of_mem hmem)
  refine ⟨ho, ?_⟩
  rw [← List.erase_filter, hall, List.erase_cons_head]

namespace Progress

namespace Client

variable {c c' : Client} {s : Subscription} {r : Request} {h : Happening} {i : Input}
  {is : List Input}

/-- The late requests whose answers may still be written. -/
def currentLate (c : Client) : List Request :=
  c.late.filter (·.generation == c.state.generation)

/-- What the drop of a client leaves of it. As long as the request that was under way has not been
refused, the state is as it was, and after that there is nothing left to answer. -/
structure Leaves (c c' : Client) : Prop where
  gone : c'.Gone
  generation_eq : c'.state.generation = c.state.generation
  state : c'.currentLate.Sublist c.request?.toList ∧ c'.state = c.state ∨
    c'.currentLate = [] ∧ c.request? ≠ none ∧ c'.state = { c.state with phase := .disconnected }

/-! ### The drop -/

/-- Nothing that was late before is of the current generation. -/
theorem Coherent.currentLate_eq_nil (hc : c.Coherent) : c.currentLate = [] := by
  refine List.filter_eq_nil_iff.2 fun r hr heq => ?_
  exact Nat.ne_of_lt (hc.late_lt r hr) (eq_of_beq heq)

theorem teardown_late (c : Client) : c.teardown.1.late = c.late ++ c.request?.toList := by
  unfold teardown request?
  cases hs : c.active with
  | none => exact (List.append_nil _).symm
  | some s => rfl

/-- A client when it has been dropped. -/
theorem Coherent.after_drop (hc : c.Coherent) :
    c.after (.call .drop) =
      { c with active := none, late := c.late ++ c.request?.toList, dropped := true } := by
  show (c.call .drop).1 = _
  rw [call_of_not_dropped hc.not_dropped, ← teardown_late]
  simp only [Client.drop, teardown]
  split
  · rename_i hs
    rw [hs]
  · rfl

theorem Coherent.leaves_drop (hc : c.Coherent) : c.Leaves (c.after (.call .drop)) := by
  refine ⟨gone_drop hc.not_dropped, ?_, .inl ?_⟩ <;> rw [hc.after_drop]
  have hold : c.late.filter (·.generation == c.state.generation) = [] := hc.currentLate_eq_nil
  show ((c.late ++ c.request?.toList).filter (·.generation == c.state.generation)).Sublist _ ∧ _
  rw [List.filter_append, hold]
  exact ⟨List.filter_sublist, rfl⟩

/-! ### After the drop -/

/-- What the answer to a request of the current generation makes of the state. -/
theorem answeredLate_state (hg : c.state.generation = r.generation)
    (result : Except TransportError StreamId) :
    (c.answeredLate r result).1.state =
      if result.isOk then c.state else { c.state with phase := .disconnected } := by
  cases result with
  | ok stream => rfl
  | error e =>
    simp only [answeredLate, refused, disconnect, writeCurrent_of_eq _ hg]
    rfl

/-- **What a drop has left** is used up by the answer to its request. The answers to other late
requests make no difference. -/
theorem Leaves.answeredLate (hl : c.Leaves c') (hmem : r ∈ c'.late)
    (result : Except TransportError StreamId)
    (hgone : ((c'.forget r).answeredLate r result).1.Gone) :
    c.Leaves ((c'.forget r).answeredLate r result).1 := by
  obtain ⟨st, v, hstep, hst⟩ := (c'.forget r).answeredLate_keeps r result
  have hgeneration : ((c'.forget r).answeredLate r result).1.state.generation =
      c'.state.generation := by
    rw [hstep]
    exact hst
  have hlate : ((c'.forget r).answeredLate r result).1.currentLate =
      (c'.late.erase r).filter (·.generation == c'.state.generation) := by
    rw [currentLate, hgeneration, hstep]
    rfl
  refine ⟨hgone, hgeneration.trans hl.generation_eq, ?_⟩
  rw [hlate]
  -- The answer writes only if the request was of the generation that the client was left with.
  by_cases hg : c'.state.generation = r.generation
  · have hcurrent : (r.generation == c'.state.generation) = true := beq_iff_eq.2 hg.symm
    rcases hl.state with ⟨hsub, hstate⟩ | ⟨hnil, -⟩
    · have hsub : (c'.late.filter (·.generation == c'.state.generation)).Sublist
          c.request?.toList := hsub
      -- There was one such request at most, and now it is answered.
      obtain ⟨hrequest, hnil⟩ := filter_erase_eq_nil hmem hcurrent hsub
      have hstate' : (c'.forget r).state = c.state := hstate
      rw [hnil, answeredLate_state (c := c'.forget r) hg, hstate']
      cases result with
      | ok stream => exact .inl ⟨List.nil_sublist _, rfl⟩
      | error e => exact .inr ⟨rfl, hrequest ▸ Option.some_ne_none r, rfl⟩
    · exact absurd hcurrent (List.filter_eq_nil_iff.1 hnil r hmem)
  · have hsame : ((c'.forget r).answeredLate r result).1 = c'.forget r :=
      answeredLate_fst (c := c'.forget r) hg result
    have hsub : ((c'.late.erase r).filter (·.generation == c'.state.generation)).Sublist
        c'.currentLate := List.erase_sublist.filter _
    rw [hsame]
    rcases hl.state with ⟨hleft, hstate⟩ | ⟨hnil, hlast⟩
    · exact .inl ⟨hsub.trans hleft, hstate⟩
    · exact .inr ⟨List.sublist_nil.1 (hnil ▸ hsub), hlast⟩

theorem Leaves.after (hl : c.Leaves c') (i : Input) : c.Leaves (c'.after i) := by
  have hgone := hl.gone.after i
  cases i with
  | call k =>
    show c.Leaves (c'.call k).1
    rw [call_of_dropped hl.gone.dropped]
    exact hl
  | happening h =>
    change (c'.step h).1.Gone at hgone
    show c.Leaves (c'.step h).1
    -- There is no subscription any more, so all that can happen is a late answer.
    obtain ⟨s, hs, -⟩ | ⟨r, hmem, result, -, -, heq⟩ | ⟨-, -, heq⟩ := step_cases c' h
    · rw [hl.gone.no_subscription] at hs
      cases hs
    · rw [heq] at hgone ⊢
      exact hl.answeredLate hmem result hgone
    · rw [heq]
      exact hl

theorem Leaves.run (hl : c.Leaves c') (is : List Input) : c.Leaves (c'.run is) :=
  List.foldlRecOn is Client.after hl fun _ hl i _ => hl.after i

/-! ### When the state is final -/

/-- The transport may still refuse the request that was under way. -/
theorem Coherent.phase_refused (hc : c.Coherent) (hr : c.request? = some r) (e : TransportError) :
    (c.run [.call .drop, .happening (.answer r.generation (.error e))]).state.phase =
      .disconnected := by
  obtain ⟨s, hs, hrequest⟩ := Option.bind_eq_some_iff.1 hr
  obtain rfl := (request?_eq_some_iff.1 hrequest).2
  have hg := hc.generation_eq s hs
  -- Among the late requests it is the only one of its generation.
  have hold : c.late.find? (·.generation == s.generation) = none := by
    refine List.find?_eq_none.2 fun r hr hfound => ?_
    have hlt := hc.late_lt r hr
    rw [hg, eq_of_beq hfound] at hlt
    exact absurd hlt (Nat.lt_irrefl _)
  have hfind : (c.late ++ [(⟨s.job, s.generation⟩ : Request)]).find?
      (·.generation == s.generation) = some ⟨s.job, s.generation⟩ := by
    rw [List.find?_append, hold]
    simp
  show ((c.after (.call .drop)).step (.answer s.generation (.error e))).1.state.phase = _
  rw [hc.after_drop, hr]
  simp only [Client.step, Option.filter_none, stepLate, Option.toList_some, hfind]
  rw [answeredLate_state]
  · rfl
  · exact hg

/-- **The state of a dropped client is final** if and only if the transport was asked for nothing.
-/
theorem Coherent.state_final_iff (hc : c.Coherent) :
    (∀ is, (c.run (.call .drop :: is)).state = c.state) ↔ c.request? = none := by
  constructor
  · intro hfinal
    by_contra hrequest
    obtain ⟨r, hr⟩ := Option.ne_none_iff_exists'.1 hrequest
    have hphase := hc.phase_refused hr (.opening "")
    rw [hfinal] at hphase
    -- A client that waits for its stream shows that it does.
    obtain ⟨s, hs, hrequest⟩ := Option.bind_eq_some_iff.1 hr
    rw [hc.phase_eq s hs, (request?_eq_some_iff.1 hrequest).1] at hphase
    cases hphase
  · intro hrequest is
    rcases (hc.leaves_drop.run is).state with ⟨-, hstate⟩ | ⟨-, hne, -⟩
    · exact hstate
    · exact absurd hrequest hne

end Client

end Progress

end MachiningViewer
