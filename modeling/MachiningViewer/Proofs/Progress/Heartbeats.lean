import MachiningViewer.Proofs.Progress.Pieces
import MachiningViewer.Proofs.Progress.Values
import Mathlib.Logic.Relation

/-!
# Heartbeats are not heard

The body of an event stream is made of parts: events with their blank lines, and comments between
them (`EventStream.Part`). Its messages are the data of the events that have no name or the name
`message`, in order (`EventStream.messagesOf_text`). Each event is read for itself: a name and data
that were not given out are forgotten at the blank line.

So comments and events with other names, heartbeats and the like, may come and go in a body, and
neither the stream nor a client that reads it shows a difference (`heartbeats_not_heard`).
-/

namespace MachiningViewer.Progress

namespace EventStream

/-! ### Bodies -/

/-- No line ends among the characters. -/
def IsLine (cs : List Char) : Prop :=
  '\n' ∉ cs ∧ '\r' ∉ cs

instance (cs : List Char) : Decidable (IsLine cs) :=
  inferInstanceAs (Decidable (_ ∧ _))

/-- The values that lines give to a field, in order. -/
def valuesOf (name : String) (lines : List (List Char)) : List (List Char) :=
  lines.filterMap fun line =>
    match Line.ofChars line with
    | .field n value => if n = name.toList then some value else none
    | .blank | .comment => none

/-- The name that lines give to their event, which is the last one. -/
def nameOf (lines : List (List Char)) : List Char :=
  (valuesOf "event" lines).getLast?.getD []

/-- The data that lines give to their event, if they give any: one line for each of them. -/
def dataOf? (lines : List (List Char)) : Option String :=
  match valuesOf "data" lines with
  | [] => none
  | values => some (String.ofList (['\n'].intercalate values))

/-- Is an event of this name a message? -/
def IsMessageName (name : List Char) : Prop :=
  name = [] ∨ name = "message".toList

instance (name : List Char) : Decidable (IsMessageName name) :=
  inferInstanceAs (Decidable (_ ∨ _))

/-- A part of the body of a stream. -/
inductive Part where
  /-- A comment between events. -/
  | comment (text : List Char) (h : IsLine text)
  /-- The lines of an event, comments among them, without the blank one at its end. -/
  | event (lines : List (List Char)) (h : ∀ line ∈ lines, line ≠ [] ∧ IsLine line)

namespace Part

/-- The lines of a part. -/
def lines : Part → List (List Char)
  | comment text _ => [':' :: text]
  | event lines _ => lines ++ [[]]

/-- The text of a part, whose lines end with line feeds. -/
def text (p : Part) : List Char :=
  p.lines.flatMap (· ++ ['\n'])

/-- The message of a part, if it has one. -/
def message? : Part → Option String
  | comment _ _ => none
  | event lines _ => if IsMessageName (nameOf lines) then dataOf? lines else none

/-- The part is a comment or an event that is no message. -/
def IsSilent : Part → Prop
  | comment _ _ => True
  | event lines _ => ¬ IsMessageName (nameOf lines)

instance : (p : Part) → Decidable p.IsSilent
  | comment _ _ => isTrue trivial
  | event lines _ => inferInstanceAs (Decidable (¬ IsMessageName (nameOf lines)))

end Part

/-- A silent part is inserted between two others, or at the front or the end. -/
inductive Insertion : List Part → List Part → Prop
  | insert {before after : List Part} {p : Part} (h : p.IsSilent) :
    Insertion (before ++ after) (before ++ p :: after)

/-- A body of complete parts that does not start with a byte order mark. -/
structure Body where
  parts : List Part
  noMark : (parts.flatMap Part.text).head? ≠ some '\uFEFF'

namespace Body

/-- The text of a body. -/
def text (b : Body) : List Char :=
  b.parts.flatMap Part.text

/-- The bytes of a body. -/
def bytes (b : Body) : List UInt8 :=
  Text.Utf8.encode (String.ofList b.text)

/-- The data of the messages of a body, in order. -/
def messages (b : Body) : List String :=
  b.parts.filterMap Part.message?

end Body

/-! ### Lines -/

theorem Part.isLine {p : Part} : ∀ line ∈ p.lines, IsLine line := by
  intro line hline
  cases p with
  | comment text h =>
    obtain rfl := List.mem_singleton.1 hline
    exact ⟨by simpa using h.1, by simpa using h.2⟩
  | event lines h =>
    rcases List.mem_append.1 hline with hline | hline
    · exact (h line hline).2
    · obtain rfl := List.mem_singleton.1 hline
      exact ⟨List.not_mem_nil, List.not_mem_nil⟩

/-- A line is read up to its line feed. -/
theorem cutLine?_line {line : List Char} (h : IsLine line) (rest : List Char) :
    cutLine? (line ++ '\n' :: rest) = some (line, rest) := by
  induction line with
  | nil => rfl
  | cons c line ih =>
    obtain ⟨hfeed, hreturn⟩ := h
    rw [List.mem_cons, not_or] at hfeed hreturn
    have hc : c ≠ '\r' := Ne.symm hreturn.1
    have hend : ¬ (c = '\n' ∨ c = '\r') := not_or.2 ⟨Ne.symm hfeed.1, hc⟩
    rw [List.cons_append, cutLine?.eq_4 _ _ (fun h => absurd h hc) (fun _ h => absurd h hc),
      if_neg hend, ih ⟨hfeed.2, hreturn.2⟩]
    rfl

theorem linesOf_append {lines : List (List Char)} (h : ∀ line ∈ lines, IsLine line)
    (rest : List Char) :
    linesOf (lines.flatMap (· ++ ['\n']) ++ rest) = lines.map Line.ofChars ++ linesOf rest := by
  induction lines with
  | nil => rfl
  | cons line lines ih =>
    obtain ⟨hline, hlines⟩ := List.forall_mem_cons.1 h
    rw [List.flatMap_cons, List.append_assoc, List.append_assoc, List.singleton_append,
      linesOf_of_some (cutLine?_line hline _), ih hlines]
    rfl

/-! ### Events -/

/-- What a line adds to an event. -/
def Draft.read (d : Draft) : Line → Draft
  | .field name value => d.add name value
  | .blank | .comment => d

/-- **An event is read for itself**, and given out at its blank line. -/
theorem events_block {ls : List Line} (h : .blank ∉ ls) (d : Draft) (ls' : List Line) :
    events d (ls ++ .blank :: ls') =
      (ls.foldl Draft.read d).event?.toList ++ events .empty ls' := by
  induction ls generalizing d with
  | nil => rfl
  | cons l ls ih =>
    rw [List.mem_cons, not_or] at h
    rw [List.foldl_cons, ← ih h.2]
    cases l with
    | blank => exact absurd rfl h.1
    | comment | field => rfl

theorem valuesOf_cons (name : String) (line : List Char) (lines : List (List Char)) :
    valuesOf name (line :: lines) = valuesOf name [line] ++ valuesOf name lines :=
  List.filterMap_append (l := [line])

theorem read_ofChars (d : Draft) (line : List Char) :
    d.read (Line.ofChars line) =
      ⟨(valuesOf "event" [line]).getLast?.getD d.name,
        (valuesOf "data" [line]).reverse ++ d.data⟩ := by
  unfold valuesOf
  rw [List.filterMap_cons, List.filterMap_cons, List.filterMap_nil]
  cases Line.ofChars line with
  | blank | comment => rfl
  | field n value =>
    -- Only the fields `event` and `data` leave a trace in the draft.
    by_cases hevent : n = "event".toList
    · subst hevent
      rfl
    · by_cases hdata : n = "data".toList
      · subst hdata
        rfl
      · simp only [Draft.read, Draft.add, hevent, hdata, if_false]
        rfl

/-- The fields of lines are gathered: the last name, and all of the data. -/
theorem foldl_read (lines : List (List Char)) (d : Draft) :
    (lines.map Line.ofChars).foldl Draft.read d =
      ⟨(valuesOf "event" lines).getLast?.getD d.name,
        (valuesOf "data" lines).reverse ++ d.data⟩ := by
  induction lines generalizing d with
  | nil => rfl
  | cons line lines ih =>
    rw [List.map_cons, List.foldl_cons, ih, read_ofChars, valuesOf_cons "event" line lines,
      valuesOf_cons "data" line lines, List.getLast?_append, Option.getD_or, List.reverse_append,
      List.append_assoc]

theorem ofChars_ne_blank {line : List Char} (h : line ≠ []) : Line.ofChars line ≠ .blank := by
  unfold Line.ofChars
  split
  · exact absurd rfl h
  · exact nofun
  · exact nofun

theorem isMessage_iff (e : Event) : e.isMessage = true ↔ IsMessageName e.name.toList := by
  rw [Event.isMessage, Bool.or_eq_true, IsMessageName, String.isEmpty_iff, beq_iff_eq,
    String.toList_eq_nil_iff, String.toList_inj]

/-- The event that lines make. -/
theorem event?_lines (lines : List (List Char)) :
    ((lines.map Line.ofChars).foldl Draft.read .empty).event? =
      (dataOf? lines).map fun data => ⟨String.ofList (nameOf lines), data⟩ := by
  -- A draft has its data in reverse.
  rw [foldl_read, Draft.event?, dataOf?]
  cases hvalues : valuesOf "data" lines with
  | nil => rfl
  | cons value values =>
    have hsome : ((value :: values).reverse ++ Draft.empty.data).isEmpty = false := by simp
    rw [hsome, if_neg Bool.false_ne_true]
    simp only [Draft.empty, List.append_nil, List.reverse_reverse]
    rfl

/-- **What a part gives out.** -/
theorem events_part (p : Part) (ls : List Line) :
    ((events .empty (p.lines.map Line.ofChars ++ ls)).filter (·.isMessage)).map (·.data) =
      p.message?.toList ++ ((events .empty ls).filter (·.isMessage)).map (·.data) := by
  cases p with
  | comment text h => rfl
  | event lines h =>
    -- The lines of an event are not blank, so its block ends where the part does and not before.
    have hblank : .blank ∉ lines.map Line.ofChars := by
      intro hmem
      obtain ⟨line, hline, heq⟩ := List.mem_map.1 hmem
      exact ofChars_ne_blank (h line hline).1 heq
    have hlines : (Part.event lines h).lines.map Line.ofChars ++ ls =
        lines.map Line.ofChars ++ .blank :: ls := by
      rw [Part.lines, List.map_append, List.append_assoc]
      rfl
    rw [hlines, events_block hblank, event?_lines, List.filter_append, List.map_append,
      Part.message?]
    congr 1
    cases dataOf? lines with
    | none => split <;> rfl
    | some data =>
      have hname := isMessage_iff ⟨String.ofList (nameOf lines), data⟩
      rw [String.toList_ofList] at hname
      by_cases hmessage : IsMessageName (nameOf lines)
      · simp [hmessage, hname.2 hmessage]
      · simp [hmessage, hname]

/-- **The messages of a body** are those of its parts. -/
theorem messagesOf_text (parts : List Part) :
    messagesOf (parts.flatMap Part.text) = parts.filterMap Part.message? := by
  induction parts with
  | nil => rfl
  | cons p parts ih =>
    rw [List.flatMap_cons, messagesOf, eventsOf_eq, Part.text, linesOf_append p.isLine, events_part,
      ← eventsOf_eq, ← messagesOf, ih]
    cases hp : p.message? with
    | none => rw [List.filterMap_cons_none hp]; rfl
    | some m => rw [List.filterMap_cons_some hp]; rfl

/-- A body may have any lines, as long as the last one is blank: the others are split into parts at
the blank ones. -/
theorem exists_parts {lines : List (List Char)} (h : ∀ line ∈ lines, IsLine line) :
    ∃ parts : List Part, parts.flatMap Part.text = (lines ++ [[]]).flatMap (· ++ ['\n']) := by
  -- The induction is on the lines, behind those of an event that has been started.
  suffices hstarted : ∀ started : List (List Char),
      (∀ line ∈ started, line ≠ [] ∧ IsLine line) → ∃ parts : List Part,
        parts.flatMap Part.text = (started ++ lines ++ [[]]).flatMap (· ++ ['\n']) from
    hstarted [] (List.forall_mem_nil _)
  intro started hstarted
  induction lines generalizing started with
  | nil =>
    refine ⟨[.event started hstarted], ?_⟩
    rw [List.append_nil]
    exact List.append_nil _
  | cons line lines ih =>
    obtain ⟨hline, hlines⟩ := List.forall_mem_cons.1 h
    by_cases hblank : line = []
    · obtain ⟨parts, hparts⟩ := ih hlines [] (List.forall_mem_nil _)
      refine ⟨.event started hstarted :: parts, ?_⟩
      rw [List.flatMap_cons, hparts, hblank, Part.text, Part.lines, ← List.flatMap_append]
      simp
    · have hmore : ∀ l ∈ started ++ [line], l ≠ [] ∧ IsLine l :=
        List.forall_mem_append.2 ⟨hstarted, List.forall_mem_singleton.2 ⟨hblank, hline⟩⟩
      obtain ⟨parts, hparts⟩ := ih hlines (started ++ [line]) hmore
      exact ⟨parts, by rw [hparts, List.append_assoc started, List.singleton_append]⟩

/-! ### Silent parts -/

theorem Part.IsSilent.message? {p : Part} (h : p.IsSilent) : p.message? = none := by
  cases p with
  | comment => rfl
  | event lines hlines => exact if_neg h

/-- **Silent parts have no messages**, wherever they are inserted or deleted. -/
theorem messages_eq_of_eqvGen {ps qs : List Part} (h : Relation.EqvGen Insertion ps qs) :
    ps.filterMap Part.message? = qs.filterMap Part.message? := by
  induction h with
  | rel _ _ h =>
    obtain ⟨hp⟩ := h
    rw [List.filterMap_append, List.filterMap_append, List.filterMap_cons_none hp.message?]
  | refl _ => rfl
  | symm _ _ _ ih => exact ih.symm
  | trans _ _ _ _ _ ih ih' => exact ih.trans ih'

/-- An answer brings a whole body. -/
structure Carries (r : Http.Response) (b : Body) : Prop where
  success : r.isSuccess = true
  body : r.arrived = b.bytes
  whole : r.isWhole = true

theorem Body.decodePart_bytes (b : Body) : Text.Utf8.decodePart b.bytes = (b.text, []) :=
  Text.Utf8.decodePart_encode b.text

theorem Body.messages_text (b : Body) : EventStream.messages b.text = b.messages := by
  show messagesOf (withoutMark (b.parts.flatMap Part.text)) = b.messages
  rw [withoutMark_eq_self b.noMark]
  exact messagesOf_text b.parts

namespace Carries

variable {r : Http.Response} {b : Body}

theorem items (h : Carries r b) : EventStream.items r = b.messages.map .message := by
  unfold EventStream.items
  rw [h.body, b.decodePart_bytes]
  simp [h.whole, b.messages_text]

theorem readStream (h : Carries r b) : readStream (.ok r) = .ok (b.messages.map .message) := by
  unfold Progress.readStream
  simp only [h.success, if_true, h.items]

theorem delivered (h : Carries r b) {pieces : List (List UInt8)}
    (hpieces : pieces.flatten = b.bytes) :
    Receiving.delivered pieces true = b.messages.map .message ++ [.ending] := by
  have hmark : (Text.Utf8.decodePart r.arrived).1.head? ≠ some '\uFEFF' := by
    rw [h.body, b.decodePart_bytes]
    exact b.noMark
  rw [← h.whole, delivered_eq_items (hpieces.trans h.body.symm) hmark, h.items]

end Carries

end EventStream

namespace Client

variable {c : Client} {s : Subscription} {stream : StreamId}

/-- What happens to the reader of a generation whose stream delivers items, one after the other. -/
def receiving (generation : Nat) (items : List Item) : List Input :=
  items.map fun item => .happening (.receive generation item)

/-- The reader of the current subscription reads from a stream. -/
structure Reads (c : Client) (s : Subscription) (stream : StreamId) : Prop where
  active : c.active = some s
  stream : s.stream? = some stream
  generation_eq : c.state.generation = s.generation

theorem reads_run {is : List Input} (hs : (initial.run is).active = some s)
    (hstream : s.stream? = some stream) : (initial.run is).Reads s stream := by
  rcases coherent_or_gone_run is with hc | hgone
  · exact ⟨hs, hstream, hc.generation_eq s hs⟩
  · rw [hgone.no_subscription] at hs
    cases hs

theorem Reads.step (h : c.Reads s stream) (item : Item) :
    c.step (.receive s.generation item) = c.received s item := by
  have hawaits : s.awaits (.receive s.generation item) := by
    simp [Subscription.awaits, h.stream]
  exact step_of_awaits h.active hawaits

/-- **A message** that is read is applied to the state if it is an event, and the reader reads on.
-/
theorem Reads.after_message (h : c.Reads s stream) (payload : String) :
    let c' := c.after (.happening (.receive s.generation (.message payload)))
    c'.Reads s stream ∧
      c'.state = (Event.decode? payload).toList.foldl State.apply c.state := by
  have hon : c.readsOn s (.message payload) = true := by simp [readsOn, h.generation_eq]
  have hstep : c.after (.happening (.receive s.generation (.message payload))) =
      (c.hear s (.message payload)).1 := by
    show (c.step (.receive s.generation (.message payload))).1 = _
    rw [h.step, received, hon]
    rfl
  simp only [hstep, hear]
  -- A payload that is no event leaves the client as it is; the stream is read on in both cases.
  cases Event.decode? payload with
  | none => exact ⟨h, rfl⟩
  | some e =>
    simp only [if_pos h.generation_eq]
    exact ⟨⟨h.active, h.stream, h.generation_eq⟩, rfl⟩

/-- **The end** of a stream that is read leaves the state disconnected. -/
theorem Reads.after_ending (h : c.Reads s stream) :
    (c.after (.happening (.receive s.generation .ending))).state =
      { c.state with phase := .disconnected } := by
  show (c.step (.receive s.generation .ending)).1.state = _
  rw [h.step, received]
  simp only [hear, disconnect, writeCurrent_of_eq _ h.generation_eq]
  rfl

/-- **A stream that is read to its end** leaves the state to which the events among its messages
lead, disconnected. -/
theorem Reads.run (h : c.Reads s stream) (messages : List String) :
    (c.run (receiving s.generation (messages.map .message ++ [.ending]))).state =
      { (messages.filterMap Event.decode?).foldl State.apply c.state with
        phase := .disconnected } := by
  induction messages generalizing c with
  | nil => exact h.after_ending
  | cons m messages ih =>
    obtain ⟨hreads, hstate⟩ := h.after_message m
    rw [List.map_cons, List.cons_append, receiving, List.map_cons, run_cons, ← receiving,
      ih hreads, hstate]
    cases hm : Event.decode? m with
    | none => rw [List.filterMap_cons_none hm]; rfl
    | some e => rw [List.filterMap_cons_some hm]; rfl

end Client

open EventStream in
/-- **Heartbeats are not heard.** When comments and events with other names are inserted into a body
or deleted from it, in any way, the stream delivers the same, which is the data of the messages in
order, and then its end; and that does not depend on the pieces in which the body comes. A client
that reads the stream to its end is the same afterwards: the events among the messages have been
applied to its state, in order, and it is disconnected. -/
theorem heartbeats_not_heard {b b' : Body} (h : Relation.EqvGen Insertion b.parts b'.parts)
    {r r' : Http.Response} (hr : Carries r b) (hr' : Carries r' b') :
    (readStream (.ok r) = .ok (b.messages.map .message) ∧
      readStream (.ok r') = .ok (b.messages.map .message)) ∧
    ∀ pieces pieces' : List (List UInt8), pieces.flatten = b.bytes → pieces'.flatten = b'.bytes →
      Receiving.delivered pieces true = b.messages.map .message ++ [.ending] ∧
      Receiving.delivered pieces' true = b.messages.map .message ++ [.ending] ∧
      ∀ (is : List Input) (s : Subscription) (stream : StreamId),
        (Client.initial.run is).active = some s → s.stream? = some stream →
        let c := Client.initial.run is
        let c' := c.run (Client.receiving s.generation (Receiving.delivered pieces true))
        c.run (Client.receiving s.generation (Receiving.delivered pieces' true)) = c' ∧
          c'.state = { (b.messages.filterMap Event.decode?).foldl State.apply c.state with
            phase := .disconnected } := by
  have hmessages : b.messages = b'.messages := messages_eq_of_eqvGen h
  refine ⟨⟨hr.readStream, by rw [hr'.readStream, hmessages]⟩, ?_⟩
  intro pieces pieces' hpieces hpieces'
  have hfirst := hr.delivered hpieces
  have hsecond := hr'.delivered hpieces'
  rw [← hmessages] at hsecond
  refine ⟨hfirst, hsecond, ?_⟩
  intro is s stream hs hstream
  simp only [hfirst, hsecond, true_and]
  exact (Client.reads_run hs hstream).run b.messages

/-- A message with a stage. -/
def stagePart : EventStream.Part :=
  .event ["data: \x7b\"stage\":\"milling\"\x7d".toList] (by decide)

/-- A heartbeat. But for its name it would be such a message itself. -/
def heartbeat : EventStream.Part :=
  .event ["event: heartbeat".toList, "data: \x7b\"stage\":\"drilling\"\x7d".toList] (by decide)

/-- A body with a message. -/
def stageBody : EventStream.Body :=
  ⟨[stagePart], by decide⟩

/-- A body with the same message between a comment and a heartbeat. -/
def beatingBody : EventStream.Body :=
  ⟨[.comment " keep-alive".toList (by decide), stagePart, heartbeat], by decide⟩

/-- An answer with all of an event stream. -/
def streamAnswer (body : List UInt8) : Http.Response :=
  ⟨200, some "text/event-stream", none, body, true⟩

/-- A run that subscribes to a job and gets its stream. -/
def listening : List Input :=
  [.call (.subscribe 1), .happening (.turn 1), .happening (.answer 1 (.ok 7))]

open EventStream in
/-- The client learns the stage of the message, also when the bytes come one by one. -/
theorem stage_heard_while_beating :
    readStream (.ok (streamAnswer beatingBody.bytes)) =
        .ok [.message "\x7b\"stage\":\"milling\"\x7d"] ∧
      ((Client.initial.run listening).run (Client.receiving 1
          (Receiving.delivered (beatingBody.bytes.map fun byte => [byte]) true))).state =
        ⟨some 1, .disconnected, 0.0, "milling", 1⟩ := by
  -- One heartbeat after the stage, then one before it.
  have hinsert : Relation.EqvGen Insertion stageBody.parts beatingBody.parts :=
    .trans _ [stagePart, heartbeat] _
      (.rel _ _ (@Insertion.insert [stagePart] [] heartbeat (by decide)))
      (.rel _ _ (@Insertion.insert [] [stagePart, heartbeat] _ trivial))
  have hplain : Carries (streamAnswer stageBody.bytes) stageBody := ⟨rfl, rfl, rfl⟩
  have hbeating : Carries (streamAnswer beatingBody.bytes) beatingBody := ⟨rfl, rfl, rfl⟩
  obtain ⟨⟨-, hstream⟩, hpieces⟩ := heartbeats_not_heard hinsert hplain hbeating
  obtain ⟨-, -, hclient⟩ := hpieces [stageBody.bytes] (beatingBody.bytes.map fun byte => [byte])
    (List.append_nil _) (List.flatMap_singleton' _)
  obtain ⟨hsame, hstate⟩ := hclient listening ⟨1, 1, .reading 7⟩ 7 rfl rfl
  refine ⟨hstream, ?_⟩
  rw [hsame, hstate]
  rfl

end MachiningViewer.Progress
