import MachiningViewer.Job.Encode
import MachiningViewer.Proofs.Job.Fields
import MachiningViewer.Proofs.Json.Canonical

/-!
# Decoding undoes encoding

A job that is decoded has numbers of 64 bits and metrics that a text can denote (`Job.Fits`), unless
there is a double among the metrics. Of such a job the canonical text is well formed, and decoding
it gives the job again (`Job.decode_encode`), in whatever form the job was written at first.
-/

namespace MachiningViewer

open Json

/-! ### What is decoded fits -/

theorem lt_of_natural {t : Tree} (ht : t.Spelled) {n : Nat} (h : t.natural = .ok n) :
    n < twoTo 64 := by
  unfold Tree.natural at h
  split at h
  · obtain ⟨-, hupper⟩ := ht.isInteger64
    split at h
    · cases h
    · obtain rfl := Except.ok.inj h
      omega
  · exact absurd h mismatch_ne_ok

/-- What a value that may be null is read as. -/
theorem optional_eq_ok {α : Type} {read : Tree → Except Fault α} {t : Tree} {o : Option α}
    (h : t.optional read = .ok o) : o = none ∨ ∃ a, read t = .ok a ∧ o = some a := by
  unfold Tree.optional at h
  split at h
  · obtain rfl := Except.ok.inj h
    exact .inl rfl
  · cases hread : read t with
    | ok a =>
      rw [hread] at h
      obtain rfl := Except.ok.inj h
      exact .inr ⟨a, rfl, rfl⟩
    | error fault =>
      rw [hread] at h
      cases h

theorem forall_mem_of_readAll {α : Type} {read : Tree → Except Fault α} {P : α → Prop}
    {ts : List Tree} {as : List α} (hread : ∀ t ∈ ts, ∀ a, read t = .ok a → P a)
    (h : readAll read ts = .ok as) : ∀ a ∈ as, P a := by
  induction ts generalizing as with
  | nil =>
    obtain rfl := Except.ok.inj h
    simp
  | cons t ts ih =>
    rw [List.forall_mem_cons] at hread
    obtain ⟨a, ha, hrest⟩ := bind_eq_ok.1 h
    obtain ⟨as', has, hok⟩ := bind_eq_ok.1 hrest
    obtain rfl := Except.ok.inj hok
    rw [List.forall_mem_cons]
    exact ⟨hread.1 a ha, ih hread.2 has⟩

theorem forall_mem_of_list {α : Type} {read : Tree → Except Fault α} {P : α → Prop}
    (hread : ∀ t : Tree, t.Spelled → ∀ a, read t = .ok a → P a) {t : Tree} (ht : t.Spelled)
    {as : List α} (h : t.list read = .ok as) : ∀ a ∈ as, P a := by
  unfold Tree.list at h
  split at h
  · obtain ⟨bs, hbs, hok⟩ := bind_eq_ok.1 h
    cases ht with
    | array hitems =>
      obtain rfl := Except.ok.inj hok
      exact forall_mem_of_readAll (fun t ht => hread t (hitems t ht)) hbs
  · exact absurd h mismatch_ne_ok

/-- Fits the size of the artefact into 64 bits, if it is known? -/
def ArtefactRef.Fits (a : ArtefactRef) : Prop :=
  ∀ n ∈ a.size, n < twoTo 64

/-- Can a text say all that the job is? -/
structure Job.Fits (j : Job) : Prop where
  id : j.id < twoTo 64
  metrics : (Value.object j.metrics).Fits 1
  artefacts : ∀ a ∈ j.artefacts, a.Fits

namespace ArtefactRef

theorem size_lt_of_put {slots : Slots} {f : Field} {t : Tree} {slots' : Slots} (ht : t.Spelled)
    (hslots : ∀ o ∈ slots.size, ∀ n ∈ o, n < twoTo 64) (h : slots.put f t = .ok slots') :
    ∀ o ∈ slots'.size, ∀ n ∈ o, n < twoTo 64 := by
  cases f with
  | size =>
    obtain ⟨o, ho, hok⟩ := bind_eq_ok.1 h
    obtain rfl := Except.ok.inj hok
    rintro _ ⟨⟩ n hn
    -- A size that is null is no size.
    rcases optional_eq_ok ho with rfl | ⟨m, hm, rfl⟩
    · cases hn
    · obtain rfl := Option.mem_some.1 hn
      exact lt_of_natural ht hm
  | kind | locator | hash =>
    obtain ⟨a, -, hok⟩ := bind_eq_ok.1 h
    obtain rfl := Except.ok.inj hok
    exact hslots

theorem fits_of_ofTree {t : Tree} (ht : t.Spelled) {a : ArtefactRef} (h : ofTree t = .ok a) :
    a.Fits := by
  obtain ⟨slots, hslots, hok⟩ := bind_eq_ok.1 h
  have hsize : ∀ o ∈ slots.size, ∀ n ∈ o, n < twoTo 64 :=
    record_induct ht hslots nofun size_lt_of_put
  obtain ⟨kind, -, hok⟩ := bind_eq_ok.1 hok
  obtain ⟨locator, -, hok⟩ := bind_eq_ok.1 hok
  obtain rfl := Except.ok.inj hok
  intro n hn
  cases ho : slots.size with
  | none =>
    rw [ho] at hn
    cases hn
  | some o =>
    rw [ho] at hn
    exact hsize o ho n hn

end ArtefactRef

namespace Job

/-- Fits what is known of a job? -/
structure Slots.Fits (s : Slots) : Prop where
  id : ∀ n ∈ s.id, n < twoTo 64
  metrics : ∀ ms ∈ s.metrics, membersHoldDouble ms = false → (Value.object ms).Fits 1
  artefacts : ∀ as ∈ s.artefacts, ∀ a ∈ as, a.Fits

/-- A table of metrics fits, unless it holds a double. -/
theorem fits_of_table {t : Tree} (ht : t.Spelled) {depth : Nat} (hdepth : depth + 1 < depthLimit)
    {ms : List (String × Value)} (h : t.table depth = .ok ms)
    (hms : membersHoldDouble ms = false) : (Value.object ms).Fits depth := by
  unfold Tree.table at h
  split at h
  · obtain ⟨vs, hvs, hok⟩ := bind_eq_ok.1 h
    cases ht with
    | object _ hmembers =>
      obtain rfl := Except.ok.inj hok
      obtain ⟨hnodup, hmem⟩ := Members.ofList_spec vs
      refine .object hdepth hnodup fun m hm => ?_
      obtain ⟨t, ht, -, hvalue⟩ := forall_mem_of_memberValues hvs m (hmem m hm)
      exact fits_of_value (hmembers t ht) hvalue (membersHoldDouble_eq_false.1 hms m hm)
  · cases h
  · exact absurd h mismatch_ne_ok

theorem fits_of_put {slots : Slots} {f : Field} {t : Tree} {slots' : Slots} (ht : t.Spelled)
    (hslots : slots.Fits) (h : slots.put f t = .ok slots') : slots'.Fits := by
  cases f with
  | id =>
    obtain ⟨n, hn, hok⟩ := bind_eq_ok.1 h
    obtain rfl := Except.ok.inj hok
    refine ⟨fun m hm => ?_, hslots.metrics, hslots.artefacts⟩
    obtain rfl := Option.mem_some.1 hm
    exact lt_of_natural ht hn
  | metrics =>
    obtain ⟨o, ho, hok⟩ := bind_eq_ok.1 h
    obtain rfl := Except.ok.inj hok
    refine ⟨hslots.id, fun ms hms hdouble => ?_, hslots.artefacts⟩
    obtain rfl := Option.mem_some.1 hms
    -- Null stands for a table without metrics, which fits.
    rcases optional_eq_ok ho with rfl | ⟨ms', hread, rfl⟩
    · exact .object (by decide) (by simp) (by simp)
    · exact fits_of_table ht (by decide) hread hdouble
  | artefacts =>
    obtain ⟨o, ho, hok⟩ := bind_eq_ok.1 h
    obtain rfl := Except.ok.inj hok
    refine ⟨hslots.id, hslots.metrics, fun as has => ?_⟩
    obtain rfl := Option.mem_some.1 has
    rcases optional_eq_ok ho with rfl | ⟨as', hread, rfl⟩
    · simp
    · exact forall_mem_of_list (fun t ht a ha => ArtefactRef.fits_of_ofTree ht ha) ht hread
  | kind | status | createdAt | errorMessage | errorCode | queue | startedAt | finishedAt =>
    -- The other fields bound nothing.
    obtain ⟨a, -, hok⟩ := bind_eq_ok.1 h
    obtain rfl := Except.ok.inj hok
    exact ⟨hslots.id, hslots.metrics, hslots.artefacts⟩

theorem required_eq_ok {α : Type} {name : String} {o : Option α} {a : α}
    (h : required name o = .ok a) : o = some a := by
  unfold required at h
  split at h
  · rw [Except.ok.inj h]
  · cases h

/-- **A job that is decoded fits**, unless its metrics hold a double. -/
theorem fits_of_ofTree {t : Tree} (ht : t.Spelled) {j : Job} (h : ofTree t = .ok j)
    (hmetrics : membersHoldDouble j.metrics = false) : j.Fits := by
  obtain ⟨slots, hslots, hok⟩ := bind_eq_ok.1 h
  have hfits : slots.Fits := record_induct ht hslots ⟨nofun, nofun, nofun⟩ fits_of_put
  obtain ⟨id, hid, hok⟩ := bind_eq_ok.1 hok
  obtain ⟨kind, -, hok⟩ := bind_eq_ok.1 hok
  obtain ⟨status, -, hok⟩ := bind_eq_ok.1 hok
  obtain ⟨createdAt, -, hok⟩ := bind_eq_ok.1 hok
  obtain rfl := Except.ok.inj hok
  -- Metrics and artefacts that are left out are none, which fit as well.
  refine ⟨hfits.id id (required_eq_ok hid), ?_, ?_⟩
  · cases hms : slots.metrics with
    | none => exact .object (by decide) (by simp) (by simp)
    | some ms =>
      simp only [hms, Option.getD_some] at hmetrics ⊢
      exact hfits.metrics ms hms hmetrics
  · cases has : slots.artefacts with
    | none => simp
    | some as =>
      simp only [Option.getD_some]
      exact hfits.artefacts as has

end Job

/-! ### What fits is decoded again -/

theorem optional_encodeText? (o : Option String) :
    (encodeText? o).tree.optional Tree.text = .ok o := by
  cases o with
  | none => rw [encodeText?, Value.tree, Tree.optional]
  | some s =>
    rw [encodeText?, Value.tree, Tree.optional]
    · rfl
    · simp

theorem fits_encodeText? {depth : Nat} (o : Option String) : (encodeText? o).Fits depth := by
  cases o with
  | none => exact .null
  | some s => exact .string s

theorem optional_of_ne_null {α : Type} {read : Tree → Except Fault α} {t : Tree} {a : α}
    (hread : read t = .ok a) (ht : t ≠ .null) : t.optional read = .ok (some a) := by
  rw [Tree.optional, hread]
  · rfl
  · exact ht

theorem isInteger64_natCast {n : Nat} (h : n < twoTo 64) : IsInteger64 n :=
  ⟨by omega, by omega⟩

theorem choose_kind (k : JobKind) : choose JobKind.names k.label = .ok k := by
  cases k <;> rfl

theorem choose_status (k : JobStatus) : choose JobStatus.names k.label = .ok k := by
  cases k <;> rfl

theorem choose_artefactKind (k : ArtefactKind) : choose ArtefactKind.names k.label = .ok k := by
  cases k <;> rfl

namespace ArtefactRef

theorem fits_toValue {a : ArtefactRef} (ha : a.Fits) : a.toValue.Fits 2 := by
  obtain ⟨kind, locator, size, hash⟩ := a
  have hsize : ∀ n ∈ size, (Value.integer n).Fits 3 :=
    fun n hn => .integer (isInteger64_natCast (ha n hn))
  -- What is not known is left out, so there are four objects.
  cases size with
  | none =>
    cases hash with
    | none => exact .object (by decide) (by simp) (by simp [Value.Fits.string])
    | some h => exact .object (by decide) (by simp) (by simp [Value.Fits.string])
  | some n =>
    have hn := hsize n rfl
    cases hash with
    | none => exact .object (by decide) (by simp) (by simp [Value.Fits.string, hn])
    | some h => exact .object (by decide) (by simp) (by simp [Value.Fits.string, hn])

theorem put_kind (s : Slots) (k : ArtefactKind) :
    s.put .kind (Value.string k.label).tree = .ok { s with kind := some k } := by
  rw [Slots.put, choice_tree (choose_artefactKind k)]
  rfl

theorem put_locator (s : Slots) (l : String) :
    s.put .locator (Value.string l).tree = .ok { s with locator := some l } := by
  rw [Slots.put, text_tree]
  rfl

theorem put_size (s : Slots) (n : Nat) :
    s.put .size (Value.integer n).tree = .ok { s with size := some (some n) } := by
  rw [Slots.put, optional_of_ne_null (natural_tree n) (by simp [Value.tree])]
  rfl

theorem put_hash (s : Slots) (h : String) :
    s.put .hash (Value.string h).tree = .ok { s with hash := some (some h) } := by
  rw [Slots.put, optional_of_ne_null (text_tree h) (by simp [Value.tree])]
  rfl

theorem fill_size (kind : ArtefactKind) (locator : String) (size : Option Nat)
    (ms : List (String × Value)) :
    fillFromMembers schema ⟨some kind, some locator, none, none⟩
      (memberValueTrees ((size.map fun n => ("size", Value.integer n)).toList ++ ms)) =
      fillFromMembers schema ⟨some kind, some locator, size.map some, none⟩
        (memberValueTrees ms) := by
  cases size with
  | none => rfl
  | some n =>
    show fillFromMembers schema _ (memberValueTrees (("size", .integer n) :: ms)) = _
    rw [memberValueTrees_cons, fillFromMembers_cons (f := .size) rfl rfl (put_size _ _)]
    rfl

theorem fill_hash (kind : ArtefactKind) (locator : String) (size : Option (Option Nat))
    (hash : Option String) :
    fillFromMembers schema ⟨some kind, some locator, size, none⟩
      (memberValueTrees (hash.map fun h => ("hash", Value.string h)).toList) =
      .ok ⟨some kind, some locator, size, hash.map some⟩ := by
  cases hash with
  | none => rfl
  | some h =>
    show fillFromMembers schema _ (memberValueTrees [("hash", .string h)]) = _
    rw [memberValueTrees_cons, fillFromMembers_cons (f := .hash) rfl rfl (put_hash _ _),
      memberValueTrees_nil, fillFromMembers]
    rfl

/-- A reference is read again as it was written. -/
theorem ofTree_toValue (a : ArtefactRef) : ofTree a.toValue.tree = .ok a := by
  obtain ⟨kind, locator, size, hash⟩ := a
  have hrecord : (toValue ⟨kind, locator, size, hash⟩).tree.record schema =
      .ok ⟨some kind, some locator, size.map some, hash.map some⟩ := by
    rw [toValue, tree_object]
    refine record_object ?_
    rw [List.append_assoc, List.cons_append, List.cons_append, List.nil_append,
      memberValueTrees_cons, memberValueTrees_cons,
      fillFromMembers_cons (f := .kind) rfl rfl (put_kind _ _),
      fillFromMembers_cons (f := .locator) rfl rfl (put_locator _ _)]
    exact (fill_size kind locator size _).trans (fill_hash kind locator _ hash)
  rw [ofTree, hrecord]
  cases size <;> cases hash <;> rfl

end ArtefactRef

namespace Job

theorem fits_toValue {j : Job} (hj : j.Fits) : j.toValue.Fits 0 := by
  have hartefacts : (Value.array (j.artefacts.map ArtefactRef.toValue)).Fits 1 := by
    refine .array (by decide) fun v hv => ?_
    obtain ⟨a, ha, rfl⟩ := List.mem_map.1 hv
    exact ArtefactRef.fits_toValue (hj.artefacts a ha)
  refine .object (by decide) ?_ ?_
  · show ["id", "kind", "status", "created_at", "error_message", "error_code", "queue",
      "started_at", "finished_at", "metrics", "artefacts"].Nodup
    decide
  · have hid : (Value.integer j.id).Fits 1 := .integer (isInteger64_natCast hj.id)
    simp [hid, hj.metrics, hartefacts, Value.Fits.string, fits_encodeText?]

theorem put_id (s : Slots) (n : Nat) :
    s.put .id (Value.integer n).tree = .ok { s with id := some n } := by
  rw [Slots.put, natural_tree]
  rfl

theorem put_kind (s : Slots) (k : JobKind) :
    s.put .kind (Value.string k.label).tree = .ok { s with kind := some k } := by
  rw [Slots.put, choice_tree (choose_kind k)]
  rfl

theorem put_status (s : Slots) (k : JobStatus) :
    s.put .status (Value.string k.label).tree = .ok { s with status := some k } := by
  rw [Slots.put, choice_tree (choose_status k)]
  rfl

theorem put_createdAt (s : Slots) (c : String) :
    s.put .createdAt (Value.string c).tree = .ok { s with createdAt := some c } := by
  rw [Slots.put, text_tree]
  rfl

theorem put_metrics (s : Slots) {ms : List (String × Value)} (h : (Value.object ms).Fits 1) :
    s.put .metrics (Value.object ms).tree = .ok { s with metrics := some ms } := by
  rw [Slots.put, optional_of_ne_null (table_tree h) (by simp [Value.tree])]
  rfl

theorem put_artefacts (s : Slots) (as : List ArtefactRef) :
    s.put .artefacts (Value.array (as.map ArtefactRef.toValue)).tree =
      .ok { s with artefacts := some as } := by
  have hlist : (Value.array (as.map ArtefactRef.toValue)).tree.list ArtefactRef.ofTree = .ok as :=
    list_tree fun a _ => ArtefactRef.ofTree_toValue a
  rw [Slots.put, optional_of_ne_null hlist (by simp [Value.tree])]
  rfl

theorem put_optional (s : Slots) (o : Option String) :
    s.put .errorMessage (encodeText? o).tree = .ok { s with errorMessage := some o } ∧
    s.put .errorCode (encodeText? o).tree = .ok { s with errorCode := some o } ∧
    s.put .queue (encodeText? o).tree = .ok { s with queue := some o } ∧
    s.put .startedAt (encodeText? o).tree = .ok { s with startedAt := some o } ∧
    s.put .finishedAt (encodeText? o).tree = .ok { s with finishedAt := some o } := by
  simp only [Slots.put, optional_encodeText?]
  exact ⟨rfl, rfl, rfl, rfl, rfl⟩

/-- **A job is read again as it was written.** -/
theorem ofTree_toValue {j : Job} (hj : j.Fits) : ofTree j.toValue.tree = .ok j := by
  have hrecord : j.toValue.tree.record schema =
      .ok ⟨some j.id, some j.kind, some j.status, some j.createdAt, some j.errorMessage,
        some j.errorCode, some j.queue, some j.startedAt, some j.finishedAt, some j.metrics,
        some j.artefacts⟩ := by
    rw [toValue, tree_object]
    refine record_object ?_
    simp only [memberValueTrees_cons, memberValueTrees_nil]
    -- The fields are written in the order of the schema, so each of them is new when it is read.
    rw [fillFromMembers_cons (f := .id) rfl rfl (put_id _ _),
      fillFromMembers_cons (f := .kind) rfl rfl (put_kind _ _),
      fillFromMembers_cons (f := .status) rfl rfl (put_status _ _),
      fillFromMembers_cons (f := .createdAt) rfl rfl (put_createdAt _ _),
      fillFromMembers_cons (f := .errorMessage) rfl rfl (put_optional _ _).1,
      fillFromMembers_cons (f := .errorCode) rfl rfl (put_optional _ _).2.1,
      fillFromMembers_cons (f := .queue) rfl rfl (put_optional _ _).2.2.1,
      fillFromMembers_cons (f := .startedAt) rfl rfl (put_optional _ _).2.2.2.1,
      fillFromMembers_cons (f := .finishedAt) rfl rfl (put_optional _ _).2.2.2.2,
      fillFromMembers_cons (f := .metrics) rfl rfl (put_metrics _ hj.metrics),
      fillFromMembers_cons (f := .artefacts) rfl rfl (put_artefacts _ _), fillFromMembers]
  rw [ofTree, hrecord]
  rfl

/-- The canonical text of a job that fits is decoded to the job. -/
theorem decode_encode_of_fits {j : Job} (hj : j.Fits) : decode j.encode = .ok j := by
  rw [decode, encode, decode_write ofTree (fits_toValue hj), ofTree_toValue hj]

/-- **Decoding undoes encoding.** Of a job that has been decoded, from whatever text, and has no
double among its metrics, the canonical text is decoded to the same job. The metrics and the objects
in them have no order, so this holds whatever order they are written in. -/
theorem decode_encode {text : String} {j : Job} (h : decode text = .ok j)
    (hmetrics : membersHoldDouble j.metrics = false) :
    decode j.encode = .ok j ∧
      ∀ ms, Relation.ReflTransGen Value.Reorders (.object j.metrics) (.object ms) →
        decode { j with metrics := ms }.encode = .ok { j with metrics := ms } := by
  obtain ⟨s, -, hread⟩ := exists_source_of_decode readsWhole_ofTree h
  have hj : j.Fits := fits_of_ofTree s.spelled hread hmetrics
  have hreorders {v v' : Value} (h : Relation.ReflTransGen Value.Reorders v v')
      (hv : v.Fits 1) : v'.Fits 1 := by
    induction h with
    | refl => exact hv
    | tail _ hstep ih => exact fits_of_reorders hstep ih
  exact ⟨decode_encode_of_fits hj,
    fun ms hms => decode_encode_of_fits ⟨hj.id, hreorders hms hj.metrics, hj.artefacts⟩⟩

/-- A text with the backend's names, a list for a reference, null for what is absent, escapes, the
greatest number and nested metrics. -/
def roughText : String :=
  "\x7b\"id\": 18446744073709551615, \"type\": \"cam\", \"status\": \"success\", " ++
  "\"created_at\": \"\\u00e4\\n\", \"queue\": null, " ++
  "\"metrics\": \x7b\"a\": [null, -3, \x7b\"b\": true\x7d]\x7d, " ++
  "\"artefacts\": [[\"gcode\", \"u\"], " ++
  "\x7b\"type\": \"log\", \"signed_url\": \"v\", \"size\": 7\x7d]\x7d"

theorem roughText_settles :
    ∃ j, decode roughText = .ok j ∧ membersHoldDouble j.metrics = false ∧
      j.artefacts = [⟨.toolpathText, "u", none, none⟩, ⟨.log, "v", some 7, none⟩] ∧
      decode j.encode = .ok j := by
  have hfacts : (decode roughText).toOption.map
      (fun j => (membersHoldDouble j.metrics, j.artefacts)) =
      some (false, [⟨.toolpathText, "u", none, none⟩, ⟨.log, "v", some 7, none⟩]) := by
    decide +kernel
  cases hj : decode roughText with
  | error fault =>
    rw [hj] at hfacts
    cases hfacts
  | ok j =>
    rw [hj] at hfacts
    obtain ⟨hmetrics, hartefacts⟩ := Prod.mk.inj (Option.some.inj hfacts)
    exact ⟨j, rfl, hmetrics, hartefacts, (decode_encode hj hmetrics).1⟩

end Job

end MachiningViewer
