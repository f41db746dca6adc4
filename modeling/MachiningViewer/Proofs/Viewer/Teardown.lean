import MachiningViewer.Proofs.Viewer.Client
import MachiningViewer.Proofs.Viewer.Mirror

/-!
# What is left of a viewer that is torn down

When a viewer is closed or dropped it comes to rest (`AtRest`): there is no session, and its
progress client has no subscription. A viewer at rest asks for nothing (`AtRest.requests_eq_nil`)
and stays at rest until a job is opened (`AtRest.after`). All that can still come is what was on its
way already: answers of the backend, for which nothing more is fetched, and streams that the
transport was opening at the time (`AtRest.late_of_mem_opens`), which are given back unread.

The opening of another job does not bring the viewer to rest, but it ends the session and the
subscription there were, so nothing is asked for on behalf of the former sessions
(`fetched_of_former`) and no stream stays open (`held_view`).
-/

namespace MachiningViewer.Viewer

/-- Does it ask the backend or the transport for something? -/
def Effect.isRequest : Effect → Bool
  | .fetchJob _ _ | .fetchText _ _ | .progress (.requestStream _ _) => true
  | _ => false

namespace Machine

variable {m : Machine} {s : Session} {i : Input} {is js : List Input}

/-- What the viewer asks for in one step. -/
def requests (m : Machine) (i : Input) : List Effect :=
  (m.react i).2.filter Effect.isRequest

/-- What the viewer asks for in a run. -/
def requested (m : Machine) (is : List Input) : List Effect :=
  gather after requests m is

/-! ### Viewers at rest -/

/-- There is neither a session nor a subscription. -/
structure AtRest (m : Machine) : Prop where
  no_session : m.session = none
  no_subscription : m.client.active = none

/-- No call but an opening ends the rest, and a dropped viewer cannot even open a job. -/
theorem AtRest.call (hr : m.AtRest) {k : Call} (hk : m.dropped ∨ ∀ job, k ≠ .view job) :
    (m.call k).1.AtRest := by
  cases hd : m.dropped with
  | true =>
    rw [call_of_dropped hd]
    exact hr
  | false =>
    rw [call_of_not_dropped hd]
    cases k with
    | view job => exact (hk.resolve_left (hd ▸ Bool.false_ne_true) job rfl).elim
    | close => exact ⟨m.cancel_session, Progress.Client.teardown_active m.cancel.1.client⟩
    | drop => exact ⟨m.cancel_session, Progress.Client.teardown_active m.cancel.1.client⟩
    | retryStream =>
      simp only [Machine.retryStream, hr.no_session]
      exact hr

/-- **A viewer at rest stays at rest** until a job is opened, and for good once it is dropped. -/
theorem AtRest.after (hr : m.AtRest) (hi : m.dropped ∨ ∀ job, i ≠ .call (.view job)) :
    (m.after i).AtRest := by
  cases i with
  | call k => exact hr.call (hi.imp_right fun h job hk => h job (congrArg _ hk))
  | happening h =>
    show (m.step h).1.AtRest
    rcases happening_cases h with ⟨e, rfl⟩ | ⟨ms, rfl⟩ | ⟨n, -, heq⟩
    · exact ⟨hr.no_session, (Progress.Client.step_active_of_none hr.no_subscription e).1⟩
    · exact ⟨hr.no_session, hr.no_subscription⟩
    · have hnone : m.current? n = none := by rw [current?, hr.no_session]; rfl
      obtain ⟨v, version, late, lateRelays, hlate, -⟩ := m.stepLate_eq n h
      rw [heq, stepSession, hnone]
      show (m.stepLate n h).1.AtRest
      rw [hlate]
      exact ⟨hr.no_session, hr.no_subscription⟩

/-- **A viewer at rest asks for nothing.** -/
theorem AtRest.requests_eq_nil (hr : m.AtRest) (hm : m.DropsTogether) (i : Input) :
    m.requests i = [] := by
  have hfetch (n : Nat) (e : Effect) : e ∉ m.fetches n i := fun he => by
    obtain ⟨-, s, hs, -⟩ := session_of_mem_fetches he
    rw [hr.no_session] at hs
    cases hs
  have hstream (g : Nat) (job : JobId) : .requestStream g job ∉ m.progressEffects i := fun he => by
    have heffects : m.progressEffects i = _ := congrArg Prod.snd (hm.progress_react i)
    rw [heffects] at he
    cases hj : m.clientInput? i with
    | none =>
      rw [hj] at he
      cases he
    | some j =>
      rw [hj] at he
      exact Progress.Client.active_of_mem_react he hr.no_subscription
  -- A request is the tracker's, for a snapshot or a text, or the progress client's, for a stream.
  refine List.filter_eq_nil_iff.2 fun e he hrequest => ?_
  unfold Effect.isRequest at hrequest
  split at hrequest
  · rename_i n job
    exact hfetch n _ (List.mem_filter.2 ⟨he, beq_self_eq_true n⟩)
  · rename_i n artefact
    exact hfetch n _ (List.mem_filter.2 ⟨he, beq_self_eq_true n⟩)
  · rename_i g job
    exact hstream g job (List.mem_filterMap.2 ⟨_, he, rfl⟩)
  · cases hrequest

/-- Nothing more becomes late. -/
theorem AtRest.mem_late_after (hr : m.AtRest) (hm : m.DropsTogether) {r : Progress.Request}
    (hl : r ∈ (m.after i).client.late) : r ∈ m.client.late := by
  have hclient : (m.after i).client = _ := congrArg Prod.fst (hm.progress_react i)
  rw [hclient] at hl
  cases hj : m.clientInput? i with
  | none =>
    rw [hj] at hl
    exact hl
  | some j =>
    rw [hj] at hl
    rcases Progress.Client.mem_late_after hl with hl | ⟨s, hs, -⟩
    · exact hl
    · rw [hr.no_subscription] at hs
      cases hs

/-- What is opened for a viewer at rest was asked for before, with a request that is late. -/
theorem AtRest.late_of_mem_opens (hr : m.AtRest) {stream : Progress.StreamId}
    (hopen : stream ∈ m.opens i) : ∃ r ∈ m.client.late,
      i = .happening (.progress (.answer r.generation (.ok stream))) := by
  unfold opens at hopen
  split at hopen
  · rename_i h
    have hanswer : ∃ g, h = .answer g (.ok stream) := by
      unfold Progress.Client.opens at hopen
      split at hopen
      · rename_i g stream' heq
        cases heq
        split at hopen
        · exact ⟨g, by rw [List.mem_singleton.1 hopen]⟩
        · cases hopen
      · cases hopen
    -- No subscription is in force, so the request answered is a late one.
    obtain ⟨g, rfl⟩ := hanswer
    obtain ⟨r, hr, rfl⟩ := Progress.Client.late_of_mem_opens hr.no_subscription hopen
    exact ⟨r, hr, rfl⟩
  · cases hopen

/-! ### Coming to rest -/

theorem dropped_drop (m : Machine) : (m.after (.call .drop)).dropped := by
  show (m.call .drop).1.dropped
  unfold Machine.call
  split
  · assumption
  · rfl

theorem dropped_after (hd : m.dropped) (hn : m.session = none) (i : Input) : (m.after i).dropped :=
  ((⟨hd, hn⟩ : m.Gone).after i).dropped

/-- **Whoever is closed or dropped comes to rest.** -/
theorem atRest_of_teardown (pollInterval : Nat) (is : List Input) {k : Call}
    (hk : k = .drop ∨ k = .close) : ((initial pollInterval).run (is ++ [.call k])).AtRest := by
  rw [run_append]
  by_cases hd : .call .drop ∈ is
  · -- A viewer that has been dropped before is at rest since then.
    obtain ⟨pre, post, rfl, hpre⟩ := List.eq_append_cons_of_mem hd
    have hn := (coherent_run pollInterval hpre).not_dropped
    have hg := gone_drop _ hn
    rw [run_append, run_cons]
    have hrest : ((((initial pollInterval).run pre).after (.call .drop)).run post).AtRest :=
      ⟨(hg.run post).no_session, (hg.run_client (client_gone_drop hn) post).no_subscription⟩
    exact hrest.after (.inl (hg.run post).dropped)
  · set m := (initial pollInterval).run is
    have hn : m.dropped = false := (coherent_run pollInterval hd).not_dropped
    show (m.call k).1.AtRest
    rw [call_of_not_dropped hn]
    rcases hk with rfl | rfl
    · exact ⟨m.cancel_session, Progress.Client.teardown_active m.cancel.1.client⟩
    · exact ⟨m.cancel_session, Progress.Client.teardown_active m.cancel.1.client⟩

/-- Over a run that opens no job, or that begins with a drop, a viewer stays at rest, and nothing
becomes late. -/
theorem atRest_run {pollInterval : Nat} (hr : ((initial pollInterval).run is).AtRest)
    (js : List Input)
    (hjs : ((initial pollInterval).run is).dropped ∨ ∀ job, .call (.view job) ∉ js) :
    ((initial pollInterval).run (is ++ js)).AtRest ∧
      ∀ r ∈ ((initial pollInterval).run (is ++ js)).client.late,
        r ∈ ((initial pollInterval).run is).client.late := by
  induction js generalizing is with
  | nil =>
    rw [List.append_nil]
    exact ⟨hr, fun _ hl => hl⟩
  | cons i js ih =>
    have hrun : (initial pollInterval).run (is ++ [i]) = ((initial pollInterval).run is).after i :=
      run_append ..
    have happend : is ++ i :: js = (is ++ [i]) ++ js := (List.append_cons ..)
    -- The induction moves the first input over to the run, where `AtRest.after` applies.
    have hr' : ((initial pollInterval).run (is ++ [i])).AtRest :=
      hrun ▸ hr.after (hjs.imp_right fun h job hi => h job (hi ▸ List.mem_cons_self))
    obtain ⟨hrest, hlate⟩ := ih hr'
      (hjs.imp (fun hd => hrun ▸ dropped_after hd hr.no_session i)
        fun h job hi => h job (List.mem_cons_of_mem _ hi))
    rw [happend]
    refine ⟨hrest, fun r hl => hr.mem_late_after (i := i) (dropsTogether_run pollInterval is) ?_⟩
    exact hrun ▸ hlate r hl

/-- A viewer that rests throughout a run asks for nothing in it. -/
theorem requested_eq_nil {pollInterval : Nat}
    (hrests : ∀ before, before <+: js → ((initial pollInterval).run (is ++ before)).AtRest) :
    ((initial pollInterval).run is).requested js = [] := by
  refine List.eq_nil_iff_forall_not_mem.2 fun e he => ?_
  obtain ⟨before, i, rest, rfl, hi⟩ := mem_gather he
  change e ∈ (((initial pollInterval).run is).run before).requests i at hi
  rw [← run_append, (hrests before (List.prefix_append ..)).requests_eq_nil
    (dropsTogether_run pollInterval _)] at hi
  cases hi

/-- A viewer whose client holds no stream has given back all that were opened. -/
theorem openedStreams_perm_givenBackStreams {pollInterval : Nat}
    (hheld : ((initial pollInterval).run is).client.held = none) :
    ((initial pollInterval).openedStreams is).Perm
      ((initial pollInterval).givenBackStreams is) := by
  have hperm := openedStreams_perm pollInterval is
  rwa [hheld, Option.toList_none, List.append_nil] at hperm

/-! ### Turning to another job -/

/-- The client of a viewer follows no job but that of the session. -/
theorem not_follows_of_sessionJob?_ne {pollInterval : Nat} {job : JobId}
    (hd : .call .drop ∉ is) (hjob : ((initial pollInterval).run is).sessionJob? ≠ some job) :
    ¬ ((initial pollInterval).run is).client.follows job := by
  have hc := coherent_run pollInterval hd
  set m := (initial pollInterval).run is with hm
  intro hf
  unfold Progress.Client.follows at hf
  cases hs : m.session with
  | none =>
    rw [hc.active_of_none hs] at hf
    cases hf
  | some s =>
    obtain ⟨a, ha, hajob⟩ := (mirrors_of_session (hm ▸ hs)).attached
    rw [ha] at hf
    refine hjob ?_
    rw [sessionJob?, hs, Option.map_some, ← hajob, eq_of_beq (Bool.and_eq_true_iff.1 hf).1]

/-- **No stream stays open** when the viewer turns to another job. -/
theorem held_view {pollInterval : Nat} {job : JobId}
    (hjob : ((initial pollInterval).run is).sessionJob? ≠ some job) :
    ((initial pollInterval).run (is ++ [.call (.view job)])).client.held = none := by
  -- A dropped viewer stays at rest. Any other one cancels before it subscribes.
  by_cases hd : .call .drop ∈ is
  · obtain ⟨pre, post, rfl, hpre⟩ := List.eq_append_cons_of_mem hd
    have hdrop := atRest_of_teardown pollInterval pre (.inl rfl)
    have hdropped : ((initial pollInterval).run (pre ++ [.call .drop])).dropped := by
      rw [run_append]
      exact dropped_drop _
    have happend : pre ++ .call .drop :: post ++ [.call (.view job)] =
        (pre ++ [.call .drop]) ++ (post ++ [.call (.view job)]) := by simp
    rw [happend]
    exact Progress.Client.held_of_none
      (atRest_run hdrop (post ++ [.call (.view job)]) (.inl hdropped)).1.no_subscription
  · rw [run_append]
    show (((initial pollInterval).run is).after (.call (.view job))).client.held = none
    rw [after_view (coherent_run pollInterval hd).not_dropped]
    show (((initial pollInterval).run is).cancel.1.client.subscribe job).1.held = none
    rw [cancel_client]
    exact Progress.Client.held_subscribe_of_not_follows (not_follows_of_sessionJob?_ne hd hjob)

/-- **Nothing is asked for on behalf of a former session** once a job is opened. -/
theorem fetched_of_former {pollInterval : Nat} {job : JobId} {n : Nat}
    (hn : n ≤ ((initial pollInterval).run is).view.session) (js : List Input) :
    fetched n ((initial pollInterval).run (is ++ [.call (.view job)])) js = [] := by
  refine List.eq_nil_iff_forall_not_mem.2 fun e he => ?_
  obtain ⟨pre, i, post, -, hi⟩ := mem_gather he
  obtain ⟨-, s, hs, rfl⟩ := session_of_mem_fetches hi
  -- There is a session, so the viewer has not been dropped, and numbers have only grown.
  change (((initial pollInterval).run (is ++ [.call (.view job)])).run pre).session = some s at hs
  rw [← run_append] at hs
  have hd := (coherent_initial pollInterval).not_drop_of_session hs
  obtain ⟨⟨hdis, -⟩, hdpre⟩ : (.call .drop ∉ is ∧ _) ∧ .call .drop ∉ pre := by
    simpa only [List.mem_append, not_or] using hd
  have hc := coherent_run pollInterval hdis
  set m := (initial pollInterval).run is
  have hrun : (initial pollInterval).run (is ++ [.call (.view job)] ++ pre) =
      (m.openJob job).1.run pre := by
    rw [run_append, run_append, ← after_view hc.not_dropped]
    rfl
  rw [hrun] at hs
  have hle := ((hc.openJob job).numbers_le_run hdpre).1
  rw [session_openJob, ← ((hc.openJob job).run hdpre).number_eq s hs] at hle
  omega

/-! ### Teardown -/

theorem givesBack_progress (m : Machine) (h : Progress.Happening) :
    m.givesBack (.happening (.progress h)) = m.client.givesBack (.happening h) := by
  have heffects : m.progressEffects (.happening (.progress h)) = (m.client.step h).2 :=
    m.progress_withClient (m.client.step h)
  rw [givesBack, heffects]
  rfl

/-- **A stream that comes to a viewer at rest** is given back in the same step, and never read from
if the transport opens no stream twice. -/
theorem AtRest.givesBack_of_mem_opens {pollInterval : Nat}
    (hr : ((initial pollInterval).run is).AtRest) {stream : Progress.StreamId}
    (hopen : stream ∈ ((initial pollInterval).run is).opens i) :
    stream ∈ ((initial pollInterval).run is).givesBack i ∧
      (((initial pollInterval).openedStreams (is ++ i :: js)).Nodup →
        stream ∉ (initial pollInterval).readStreams (is ++ i :: js)) := by
  obtain ⟨r, -, rfl⟩ := hr.late_of_mem_opens hopen
  have hclient := client_run pollInterval is
  have hnone := hr.no_subscription
  constructor
  · rw [givesBack_progress]
    refine Progress.Client.givesBack_of_late hopen fun s hs => ?_
    rw [hnone] at hs
    cases hs
  · intro hnodup
    rw [openedStreams_eq, clientRun_append] at hnodup
    rw [readStreams_eq, clientRun_append]
    exact Progress.Client.not_mem_readStreams_of_late (hclient ▸ hopen) (hclient ▸ hnone) hnodup

/-- **Teardown stops all activity.** For every run of a viewer, calls inside fetches and inside
requests for streams included,
(a) when the viewer is then dropped, or closed, it has given back all streams that were opened, and
this stays so, and nothing is asked of the backend or the transport, until a job is opened. The only
streams that still come answer requests that the transport was working on at the time; each is given
back in the very step in which it comes, and nothing is read from it;
(b) when the viewer then turns to a job other than that of its session, it has given back all
streams that were opened; and
(c) once a job is opened, nothing is ever asked for on behalf of a former session. -/
theorem nothing_outlives_teardown (pollInterval : Nat) (is : List Input) :
    let start := initial pollInterval
    (∀ k js, k = .drop ∨ k = .close ∧ (∀ job, .call (.view job) ∉ js) →
      let torn := start.run (is ++ [.call k])
      let all := is ++ [.call k] ++ js
      (start.openedStreams all).Perm (start.givenBackStreams all) ∧
        torn.requested js = [] ∧
        ∀ before i rest stream, js = before ++ i :: rest → stream ∈ (torn.run before).opens i →
          (∃ r ∈ torn.client.late,
            i = .happening (.progress (.answer r.generation (.ok stream)))) ∧
          stream ∈ (torn.run before).givesBack i ∧
          ((start.openedStreams all).Nodup → stream ∉ start.readStreams all)) ∧
      (∀ job, (start.run is).sessionJob? ≠ some job →
        (start.openedStreams (is ++ [.call (.view job)])).Perm
          (start.givenBackStreams (is ++ [.call (.view job)]))) ∧
      ∀ job, ∀ n ≤ (start.run is).view.session, ∀ js,
        fetched n (start.run (is ++ [.call (.view job)])) js = [] := by
  intro start
  refine ⟨fun k js hk => ?_, fun job hjob => openedStreams_perm_givenBackStreams (held_view hjob),
    fun job n hn js => fetched_of_former hn js⟩
  have hrest := atRest_of_teardown pollInterval is (hk.imp_right And.left)
  have hdropped (h : k = .drop) : (start.run (is ++ [.call k])).dropped := by
    rw [run_append, h]
    exact dropped_drop _
  -- The viewer is at rest from the teardown on, in every state that `js` goes through.
  have hstays (before : List Input) (hbefore : before <+: js) :=
    atRest_run hrest before <| hk.imp hdropped
      fun ⟨_, hviews⟩ job hview => hviews job (hbefore.subset hview)
  refine ⟨?_, requested_eq_nil fun before hbefore => (hstays before hbefore).1, ?_⟩
  · exact openedStreams_perm_givenBackStreams
      (Progress.Client.held_of_none (hstays js List.prefix_rfl).1.no_subscription)
  · rintro before i rest stream rfl hopen
    obtain ⟨hbefore, hlate⟩ := hstays before (List.prefix_append ..)
    rw [← run_append] at hopen ⊢
    obtain ⟨r, hr, hi⟩ := hbefore.late_of_mem_opens hopen
    obtain ⟨hback, hread⟩ := hbefore.givesBack_of_mem_opens hopen
    refine ⟨⟨r, hlate r hr, hi⟩, hback, ?_⟩
    rw [← List.append_assoc]
    exact hread

/-- A run in which the viewer waits for a snapshot and for a stream. -/
def waiting : List Input :=
  [.call (.view 1), .happening (.trackerTurn 1), .happening (.progress (.turn 1))]

/-- What comes too late: a snapshot that tells of a toolpath. -/
def lateSnapshot : Input :=
  .happening (.jobAnswer 1 (.ok (.brief 1 .running [(.toolpathText, "u1")])))

/-- What comes too late: a stream. -/
def lateStream : Input :=
  .happening (.progress (.answer 1 (.ok 5)))

/-- The toolpath is not asked for, and the stream is given back unread. When the viewer does not
close but turns to a second job, nothing more is asked for on behalf of the first one. -/
theorem waiting_torn :
    ((initial 500).run (waiting ++ [.call .close])).requested [lateSnapshot, lateStream] = [] ∧
      5 ∉ (initial 500).readStreams
        (waiting ++ [.call .close] ++ [lateSnapshot, lateStream]) ∧
      ((initial 500).openedStreams (waiting ++ [.call (.view 2)])).Perm
        ((initial 500).givenBackStreams (waiting ++ [.call (.view 2)])) ∧
      fetched 1 ((initial 500).run (waiting ++ [.call (.view 2)])) [lateSnapshot] = [] := by
  obtain ⟨hrest, hother, hformer⟩ := nothing_outlives_teardown 500 waiting
  have hviews (job : JobId) : .call (.view job) ∉ [lateSnapshot, lateStream] := by
    simp [lateSnapshot, lateStream]
  have hjob : ((initial 500).run waiting).sessionJob? ≠ some 2 := by decide
  have hnumber : 1 ≤ ((initial 500).run waiting).view.session := by decide
  have hnodup : ((initial 500).openedStreams
      (waiting ++ [.call .close] ++ [lateSnapshot, lateStream])).Nodup := List.nodup_singleton 5
  obtain ⟨-, hrequested, hlate⟩ := hrest .close [lateSnapshot, lateStream] (.inr ⟨rfl, hviews⟩)
  obtain ⟨-, -, hread⟩ := hlate [lateSnapshot] lateStream [] 5 rfl (List.mem_singleton.2 rfl)
  exact ⟨hrequested, hread hnodup, hother 2 hjob, hformer 2 1 hnumber [lateSnapshot]⟩

end Machine

end MachiningViewer.Viewer
