import MachiningViewer.Proofs.Job.Fields
import MachiningViewer.Proofs.Json.Renaming

/-!
# The backend's names

The backend has its own names for some members and kinds. A text is decoded to the same job, or
refused for the same cause, if all of them are replaced by the canonical names
(`Job.decode_renamed`), in the job and in the references to its artefacts, wherever they stand and
whatever stands beside them. What is no such name is left as it is spelled, and so are the metrics
and the members that nobody reads. The same cause is the same message, for no well-formed text is
refused for the one cause that stands for several messages (`Job.decode_ne_malformed`).
-/

namespace MachiningViewer

open Json

/-- The canonical name of a kind. -/
def JobKind.canonicalName : String → String
  | "cam" => "toolpath-generation"
  | "sim" => "simulation"
  | name => name

/-- The canonical name of a kind. -/
def ArtefactKind.canonicalName : String → String
  | "fcstd" => "source-model"
  | "gcode" => "toolpath-text"
  | "sim-mesh" => "simulation-mesh"
  | name => name

theorem choose_jobKind_canonicalName (name : String) :
    choose JobKind.names (JobKind.canonicalName name) = choose JobKind.names name := by
  unfold JobKind.canonicalName
  split <;> rfl

theorem choose_artefactKind_canonicalName (name : String) :
    choose ArtefactKind.names (ArtefactKind.canonicalName name) =
      choose ArtefactKind.names name := by
  unfold ArtefactKind.canonicalName
  split <;> rfl

/-! ### References to artefacts -/

namespace ArtefactRef

/-- The canonical name of a field. -/
def Field.canonicalName : String → String
  | "type" => "kind"
  | "signed_url" => "locator"
  | "sha256" => "hash"
  | name => name

/-- The value of a member with canonical names. -/
def renamedValue (name : String) (s : Source) : Source :=
  if name = "kind" ∨ name = "type" then s.renamedChoice ArtefactKind.canonicalName else s

/-- A reference with canonical names. -/
def renamed : Source → Source :=
  Source.renamedRecord Field.canonicalName renamedValue

theorem ofName?_canonicalName (name : String) :
    Field.ofName? (Field.canonicalName name) = Field.ofName? name := by
  unfold Field.canonicalName
  split <;> rfl

theorem put_renamedValue {name : String} {f : Field} (hf : Field.ofName? name = some f)
    (slots : Slots) (s : Source) :
    slots.put f (renamedValue name s).tree = slots.put f s.tree := by
  unfold renamedValue
  split
  · rename_i hname
    -- Both names are names of the one field whose values have other names too.
    obtain rfl : Field.kind = f := by
      rcases hname with rfl | rfl
      · exact Option.some.inj hf
      · exact Option.some.inj hf
    rw [Slots.put, Slots.put, choice_renamedChoice choose_artefactKind_canonicalName]
  · rfl

theorem ofTree_renamed (s : Source) : ofTree (renamed s).tree = ofTree s.tree := by
  have hrecord : (renamed s).tree.record schema = s.tree.record schema :=
    record_renamedRecord ofName?_canonicalName (fun _ _ hf => put_renamedValue hf) s
  rw [ofTree, ofTree, hrecord]

end ArtefactRef

/-! ### Jobs -/

namespace Job

/-- The canonical name of a field. -/
def Field.canonicalName : String → String
  | "type" => "kind"
  | name => name

/-- The value of a member with canonical names. -/
def renamedValue (name : String) (s : Source) : Source :=
  if name = "kind" ∨ name = "type" then s.renamedChoice JobKind.canonicalName
  else if name = "artefacts" then s.mapItems ArtefactRef.renamed
  else s

/-- A job with canonical names. -/
def renamed : Source → Source :=
  Source.renamedRecord Field.canonicalName renamedValue

theorem ofName?_canonicalName (name : String) :
    Field.ofName? (Field.canonicalName name) = Field.ofName? name := by
  unfold Field.canonicalName
  split <;> rfl

theorem put_renamedValue {name : String} {f : Field} (hf : Field.ofName? name = some f)
    (slots : Slots) (s : Source) :
    slots.put f (renamedValue name s).tree = slots.put f s.tree := by
  unfold renamedValue
  split
  · rename_i hname
    obtain rfl : Field.kind = f := by
      rcases hname with rfl | rfl
      · exact Option.some.inj hf
      · exact Option.some.inj hf
    rw [Slots.put, Slots.put, choice_renamedChoice choose_jobKind_canonicalName]
  · split
    · rename_i hname
      obtain rfl : Field.artefacts = f := by
        subst hname
        exact Option.some.inj hf
      rw [Slots.put, Slots.put, optional_mapItems ArtefactRef.ofTree_renamed]
    · rfl

theorem ofTree_renamed (s : Source) : ofTree (renamed s).tree = ofTree s.tree := by
  have hrecord : (renamed s).tree.record schema = s.tree.record schema :=
    record_renamedRecord ofName?_canonicalName (fun _ _ hf => put_renamedValue hf) s
  rw [ofTree, ofTree, hrecord]

/-- **The backend's names and the canonical ones are interchangeable.** Every well-formed text is
one of a source, and with canonical names it is decoded to the same job, or refused for the same
cause. -/
theorem decode_renamed {text : String} (h : isWellFormed text = true) :
    (∃ s : Source, s.text = text.toList) ∧
      ∀ s : Source, s.text = text.toList →
        decode (String.ofList (renamed s).text) = decode text := by
  refine ⟨(isWellFormed_iff text).1 h, fun s hs => ?_⟩
  obtain rfl : String.ofList s.text = text := by rw [hs, String.ofList_toList]
  rw [decode, decode, decode_source, decode_source, ofTree_renamed]

/-- A job as the backend writes it, with a kind among its metrics that is none. -/
def nativeSource : Source :=
  .object .none [
    (.ofString "id", .number (.ofInt 3)),
    (.ofString "type", .string (.ofString "cam")),
    (.ofString "status", .string (.ofString "success")),
    (.ofString "created_at", .string (.ofString "t")),
    (.ofString "metrics", .object .none [(.ofString "type", .string (.ofString "cam"))]),
    (.ofString "artefacts", .array .none [
      .object .none [
        (.ofString "type", .object .none [(.ofString "gcode", .null)]),
        (.ofString "signed_url", .string (.ofString "g")),
        (.ofString "sha256", .string (.ofString "ff"))]])]

/-- The job that it denotes. The kind among the metrics is no kind of a job, so it keeps its name.
-/
def nativeJob : Job where
  id := 3
  kind := .toolpathGeneration
  status := .success
  createdAt := "t"
  errorMessage := none
  errorCode := none
  queue := none
  startedAt := none
  finishedAt := none
  metrics := [("type", .string "cam")]
  artefacts := [⟨.toolpathText, "g", none, some "ff"⟩]

/-- The text of `nativeSource`. -/
def nativeText : String :=
  "\x7b\"id\":3,\"type\":\"cam\",\"status\":\"success\",\"created_at\":\"t\"," ++
  "\"metrics\":\x7b\"type\":\"cam\"\x7d," ++
  "\"artefacts\":[\x7b\"type\":\x7b\"gcode\":null\x7d," ++
  "\"signed_url\":\"g\",\"sha256\":\"ff\"\x7d]\x7d"

/-- The same job with canonical names. -/
def canonicalText : String :=
  "\x7b\"id\":3,\"kind\":\"toolpath-generation\",\"status\":\"success\",\"created_at\":\"t\"," ++
  "\"metrics\":\x7b\"type\":\"cam\"\x7d," ++
  "\"artefacts\":[\x7b\"kind\":\x7b\"toolpath-text\":null\x7d," ++
  "\"locator\":\"g\",\"hash\":\"ff\"\x7d]\x7d"

theorem nativeText_decode :
    isWellFormed nativeText = true ∧ decode nativeText = .ok nativeJob ∧
      decode canonicalText = .ok nativeJob := by
  have hnative : nativeSource.text = nativeText.toList := by decide +kernel
  have hwell : isWellFormed nativeText = true := (isWellFormed_iff _).2 ⟨nativeSource, hnative⟩
  have hcanonical : String.ofList (renamed nativeSource).text = canonicalText := by decide +kernel
  have hsame : decode canonicalText = decode nativeText := by
    rw [← hcanonical]
    exact (decode_renamed hwell).2 nativeSource hnative
  have hjob : decode nativeText = .ok nativeJob := by
    rw [← String.ofList_toList (s := nativeText), ← hnative, decode, decode_source]
    rfl
  exact ⟨hwell, hjob, hsame.trans hjob⟩

end Job

end MachiningViewer
