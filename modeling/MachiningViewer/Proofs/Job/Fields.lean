import MachiningViewer.Job.Decode
import MachiningViewer.Proofs.Json.Edits
import MachiningViewer.Proofs.Json.Faults

/-!
# How the fields of a job are read

What is accepted of a job keeps to the grammar to its end (`Job.readsWhole_ofTree`), and what keeps
to the grammar is refused for what it says and not as malformed (`Job.judicious_ofTree`). Jobs and
references to artefacts are records whose fields are read each for itself, with null for nothing
where a field may be left out (`Job.lawful`, `ArtefactRef.lawful`).
-/

namespace MachiningViewer

open Json

namespace ArtefactRef

theorem isWhole_of_put (slots : Slots) (f : Field) (t : Tree) (slots' : Slots)
    (h : slots.put f t = .ok slots') : t.isWhole = true := by
  cases f with
  | kind => exact (readsWhole_choice _).of_bind h
  | locator => exact readsWhole_text.of_bind h
  | size => exact readsWhole_natural.optional.of_bind h
  | hash => exact readsWhole_text.optional.of_bind h

theorem readsWhole_ofTree : ReadsWhole ofTree := fun _ _ h =>
  (readsWhole_record isWhole_of_put).of_bind h

theorem judicious_put (slots : Slots) (f : Field) : Judicious (slots.put f) := by
  intro t ht
  cases f with
  | kind => exact bind_ne_error (judicious_choice _ t ht) nofun
  | locator => exact bind_ne_error (judicious_text t ht) nofun
  | size => exact bind_ne_error (judicious_natural.optional t ht) nofun
  | hash => exact bind_ne_error (judicious_text.optional t ht) nofun

theorem judicious_ofTree : Judicious ofTree := by
  intro t ht
  refine bind_ne_error (judicious_record judicious_put t ht) fun slots _ => ?_
  refine bind_ne_error (required_ne_malformed _ _) fun kind _ => ?_
  exact bind_ne_error (required_ne_malformed _ _) nofun

theorem has_put {slots : Slots} {f : Field} {t : Tree} {slots' : Slots}
    (h : slots.put f t = .ok slots') (g : Field) :
    slots'.has g = (decide (g = f) || slots.has g) := by
  cases f
  all_goals
    obtain ⟨a, -, hok⟩ := bind_eq_ok.1 h
    obtain rfl := Except.ok.inj hok
    cases g <;> rfl

theorem put_comm {slots : Slots} {f : Field} {t : Tree} {next : Slots} {g : Field} {u : Tree}
    {slots' : Slots} (hne : f ≠ g) (hf : slots.put f t = .ok next)
    (hg : next.put g u = .ok slots') :
    ∃ other, slots.put g u = .ok other ∧ other.put f t = .ok slots' := by
  -- What is read does not depend on the record, and different fields are set one by one.
  cases f <;> cases g <;> simp only [ne_eq, not_true_eq_false, reduceCtorEq] at hne
  all_goals
    simp only [Slots.put] at hf hg ⊢
    apply set_comm slots next hf hg
    exact fun _ _ _ => rfl

theorem lawful : LawfulRecord schema ofSlots where
  has_empty f := by cases f <;> rfl
  has_put := has_put
  put_comm := put_comm
  put_null {f} hf slots hmissing := by
    cases f with
    | kind | locator => cases hf
    | size | hash =>
      have hnone := Option.not_isSome_iff_eq_none.1 (Bool.eq_false_iff.1 hmissing)
      exact ⟨_, rfl, by simp only [ofSlots, hnone]; rfl⟩

end ArtefactRef

namespace Job

theorem isWhole_of_put (slots : Slots) (f : Field) (t : Tree) (slots' : Slots)
    (h : slots.put f t = .ok slots') : t.isWhole = true := by
  cases f with
  | id => exact readsWhole_natural.of_bind h
  | kind | status => exact (readsWhole_choice _).of_bind h
  | createdAt => exact readsWhole_text.of_bind h
  | errorMessage | errorCode | queue | startedAt | finishedAt =>
    exact readsWhole_text.optional.of_bind h
  | metrics => exact (readsWhole_table 1).optional.of_bind h
  | artefacts => exact ArtefactRef.readsWhole_ofTree.list.optional.of_bind h

theorem readsWhole_ofTree : ReadsWhole ofTree := fun _ _ h =>
  (readsWhole_record isWhole_of_put).of_bind h

theorem judicious_put (slots : Slots) (f : Field) : Judicious (slots.put f) := by
  intro t ht
  cases f with
  | id => exact bind_ne_error (judicious_natural t ht) nofun
  | kind | status => exact bind_ne_error (judicious_choice _ t ht) nofun
  | createdAt => exact bind_ne_error (judicious_text t ht) nofun
  | errorMessage | errorCode | queue | startedAt | finishedAt =>
    exact bind_ne_error (judicious_text.optional t ht) nofun
  | metrics => exact bind_ne_error ((judicious_table 1).optional t ht) nofun
  | artefacts => exact bind_ne_error (ArtefactRef.judicious_ofTree.list.optional t ht) nofun

theorem judicious_ofTree : Judicious ofTree := by
  intro t ht
  refine bind_ne_error (judicious_record judicious_put t ht) fun slots _ => ?_
  refine bind_ne_error (required_ne_malformed _ _) fun id _ => ?_
  refine bind_ne_error (required_ne_malformed _ _) fun kind _ => ?_
  refine bind_ne_error (required_ne_malformed _ _) fun status _ => ?_
  exact bind_ne_error (required_ne_malformed _ _) nofun

/-- **A well-formed text is refused for what it says**, if it is, and never as malformed. -/
theorem decode_ne_malformed {text : String} (h : isWellFormed text = true) :
    decode text ≠ .error .malformed := by
  obtain ⟨s, hs⟩ := (isWellFormed_iff text).1 h
  obtain rfl : String.ofList s.text = text := by rw [hs, String.ofList_toList]
  exact Json.decode_ne_malformed judicious_ofTree s

theorem has_put {slots : Slots} {f : Field} {t : Tree} {slots' : Slots}
    (h : slots.put f t = .ok slots') (g : Field) :
    slots'.has g = (decide (g = f) || slots.has g) := by
  cases f
  all_goals
    obtain ⟨a, -, hok⟩ := bind_eq_ok.1 h
    obtain rfl := Except.ok.inj hok
    cases g <;> rfl

theorem put_comm {slots : Slots} {f : Field} {t : Tree} {next : Slots} {g : Field} {u : Tree}
    {slots' : Slots} (hne : f ≠ g) (hf : slots.put f t = .ok next)
    (hg : next.put g u = .ok slots') :
    ∃ other, slots.put g u = .ok other ∧ other.put f t = .ok slots' := by
  cases f <;> cases g <;> simp only [ne_eq, not_true_eq_false, reduceCtorEq] at hne
  all_goals
    simp only [Slots.put] at hf hg ⊢
    apply set_comm slots next hf hg
    exact fun _ _ _ => rfl

theorem lawful : LawfulRecord schema ofSlots where
  has_empty f := by cases f <;> rfl
  has_put := has_put
  put_comm := put_comm
  put_null {f} hf slots hmissing := by
    cases f with
    | id | kind | status | createdAt => cases hf
    | errorMessage | errorCode | queue | startedAt | finishedAt | metrics | artefacts =>
      have hnone := Option.not_isSome_iff_eq_none.1 (Bool.eq_false_iff.1 hmissing)
      exact ⟨_, rfl, by simp only [ofSlots, hnone]; rfl⟩

end Job

end MachiningViewer
