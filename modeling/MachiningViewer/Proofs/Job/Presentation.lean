import MachiningViewer.Proofs.Job.Fields
import Mathlib.Logic.Relation

/-!
# What a job does not show of its text

A job that is decoded from an object does not depend on how the object is presented
(`Job.decode_edited`): on the order of its members and of those of the references in it, on members
with unknown names, on whether optional fields are null or left out. One edit after the other
(`Job.Edit`) leaves the job as it is.
-/

namespace MachiningViewer

open Json

/-- A job as an object, edited in one place: among its own members, or among those of a reference
in the list of its artefacts. -/
inductive Job.Edit : Tree → Tree → Prop where
  | members {ms ms' : List (Except Fault String × Tree)} (h : MemberEdit schema ms ms') :
    Edit (.object ms true) (.object ms' true)
  | artefact {before after : List (Except Fault String × Tree)} {name : String}
    {items items' : List Tree} {ms ms' : List (Except Fault String × Tree)}
    (hname : Field.ofName? name = some .artefacts) (h : MemberEdit ArtefactRef.schema ms ms') :
    Edit
      (.object (before ++ (.ok name, .array (items ++ .object ms true :: items') true) :: after)
        true)
      (.object (before ++ (.ok name, .array (items ++ .object ms' true :: items') true) :: after)
        true)

theorem ArtefactRef.ofTree_of_edit {ms ms' : List (Except Fault String × Tree)}
    (hedit : MemberEdit schema ms ms') (a : ArtefactRef)
    (h : ofTree (.object ms true) = .ok a) : ofTree (.object ms' true) = .ok a :=
  record_of_edit lawful hedit h

namespace Job

/-- **An edit leaves the job as it is.** -/
theorem ofTree_of_edit {t t' : Tree} (hedit : Edit t t') {j : Job} (h : ofTree t = .ok j) :
    ofTree t' = .ok j := by
  cases hedit with
  | members hms => exact record_of_edit lawful hms h
  | @artefact before after name items items' ms ms' hname hms =>
    obtain ⟨slots, hrecord, hfinish⟩ := bind_eq_ok.1 h
    obtain ⟨filled, hfill, hok⟩ := bind_eq_ok.1 hrecord
    obtain rfl := Except.ok.inj hok
    rw [fillFromMembers_eq_foldlM] at hfill
    have hfill' := foldlM_replace (s := schema) hname (fun slots slots' hput => by
      obtain ⟨o, ho, hok⟩ := bind_eq_ok.1 hput
      exact bind_eq_ok.2 ⟨o, optional_list_replace (ArtefactRef.ofTree_of_edit hms) ho, hok⟩) hfill
    rw [← fillFromMembers_eq_foldlM] at hfill'
    exact bind_eq_ok.2 ⟨_, record_object hfill', hfinish⟩

/-- **The job does not depend on its presentation.** A text that is decoded is one of a source, and
every source that is edited from it, in as many steps as one likes, is decoded to the same job. -/
theorem decode_edited {text : String} {j : Job} (h : decode text = .ok j) :
    (∃ s : Source, s.text = text.toList) ∧
      ∀ s s' : Source, s.text = text.toList → Relation.ReflTransGen Edit s.tree s'.tree →
        decode (String.ofList s'.text) = .ok j := by
  obtain ⟨source, hsource, -⟩ := exists_source_of_decode readsWhole_ofTree h
  refine ⟨⟨source, hsource⟩, fun s s' hs hedits => ?_⟩
  have hread : ofTree s.tree = .ok j := by
    rw [← decode_source ofTree s, hs, String.ofList_toList]
    exact h
  rw [decode, decode_source]
  generalize s'.tree = t at hedits
  -- Each edit leaves the job of the tree before it.
  induction hedits with
  | refl => exact hread
  | tail _ hstep ih => exact ofTree_of_edit hstep ih

/-- A job with a log, with the given members in front of its own and of those of the log. -/
def loggedSource (front inLog : List (Key × Source)) : Source :=
  .object .none <| front ++ [
    (.ofString "artefacts", .array .none [.object .none <| inLog ++ [
      (.ofString "kind", .string (.ofString "log")),
      (.ofString "locator", .string (.ofString "u"))]]),
    (.ofString "id", .number (.ofInt 1)),
    (.ofString "kind", .string (.ofString "assembly")),
    (.ofString "status", .string (.ofString "queued")),
    (.ofString "created_at", .string (.ofString "t"))]

/-- A queue that is null in front of the job. -/
def queuedSource : Source :=
  loggedSource [(.ofString "queue", .null)] []

/-- An unknown member in front of the log. -/
def annotatedSource : Source :=
  loggedSource [] [(.ofString "note", .array .none [.boolean true, .object .none []])]

theorem annotated_decode : ∃ j, decode (String.ofList queuedSource.text) = .ok j ∧
    decode (String.ofList annotatedSource.text) = .ok j := by
  have hqueued : ∃ j, decode (String.ofList queuedSource.text) = .ok j := by
    rw [decode, decode_source]
    exact ⟨_, rfl⟩
  obtain ⟨j, hj⟩ := hqueued
  have hremove : Edit queuedSource.tree (loggedSource [] []).tree :=
    .members (@MemberEdit.removeNull _ _ schema [] _ "queue" .queue rfl rfl)
  have hinsert : Edit (loggedSource [] []).tree annotatedSource.tree :=
    @Edit.artefact [] _ "artefacts" [] [] _ _ rfl
      (@MemberEdit.insertUnknown _ _ ArtefactRef.schema [] _ "note" _ rfl rfl)
  exact ⟨j, hj, (decode_edited hj).2 queuedSource annotatedSource (by rw [String.toList_ofList])
    (.head hremove (.single hinsert))⟩

end Job

end MachiningViewer
