import Dialogue.Run.Stored
import Dialogue.Event
import Dialogue.Settings
import Dialogue.Proofs.Stored.Record

/-!
# Stored forms lose nothing

Flows, runs with all that is nested in them, events, wakeups and settings come
back from the trees that they are stored as.  What this takes of a value is that
it is one of its type: numbers are finite and within the bounds of their type,
names ascend, and identifiers and instants are read as they are written.
-/

namespace Dialogue

theorem Identifier.stored_ne_null (id : Identifier) : id.stored ≠ .null := nofun

theorem Instant.stored_ne_null (t : Instant) : t.stored ≠ .null := nofun

/-! ## Flows -/

namespace Flow

/-- A flow whose configurations can be stored. -/
def Storable (flow : Flow) : Prop := ∀ node ∈ flow.nodes, Values.Storable node.config

theorem recovers_label (label : Option String) :
    Record.Yields (some none) (.nullable .string) (label.map Json.string) label :=
  Record.yields_optional (fun _ _ => Decoder.recovers_string _) fun _ => nofun

theorem Node.recovers {node : Node} (h : Values.Storable node.config) :
    Node.decoder.Recovers node.stored node := by
  have hconfig := Values.recovers h
  exact Record.recovers_ofFields (node.id, node.kind, node.label, node.config, ()) (by decide)
    (by simp [Node.record, recovers_label, Decoder.recovers_string, hconfig]) rfl

theorem Edge.recovers (edge : Edge) : Edge.decoder.Recovers edge.stored edge :=
  Record.recovers_ofFields (edge.id, edge.source, edge.target, edge.label, ()) (by decide)
    (by simp [Edge.record, recovers_label, Decoder.recovers_string]) rfl

theorem recovers {flow : Flow} (h : flow.Storable) : Flow.decoder.Recovers flow.stored flow := by
  have hnodes : (Decoder.list Node.decoder).Recovers (.array (flow.nodes.map Node.stored))
      flow.nodes :=
    Decoder.recovers_list fun node hnode => Node.recovers (h node hnode)
  have hedges : (Decoder.list Edge.decoder).Recovers (.array (flow.edges.map Edge.stored))
      flow.edges :=
    Decoder.recovers_list fun edge _ => Edge.recovers edge
  exact Record.recovers_ofFields (flow.id, flow.name, flow.nodes, flow.edges, ()) (by decide)
    (by simp [record, recovers_label, Decoder.recovers_string, hnodes, hedges]) rfl

end Flow

/-! ## Suspensions and wakeups -/

namespace Reason

/-- A reason whose instant is read as it is written. -/
def Storable : Reason → Prop
  | .reply _ => True
  | .timer resumeAt => resumeAt.Readable

theorem recovers {reason : Reason} (h : reason.Storable) :
    Reason.decoder.Recovers reason.stored reason := by
  cases reason with
  | reply node =>
      exact Decoder.recovers_variant 0 (node, ()) (by simp) rfl rfl (by decide)
        (by simp [Decoder.recovers_string]) rfl
  | timer resumeAt =>
      have htime := Instant.recovers h
      exact Decoder.recovers_variant 1 (resumeAt, ()) (by simp) rfl rfl (by decide)
        (by simp [htime]) rfl

end Reason

theorem Payload.recovers (payload : Payload) :
    Payload.decoder.Recovers payload.stored payload := by
  cases payload with
  | reply text =>
      exact Decoder.recovers_variant 0 (text, ()) (by simp) rfl rfl (by decide)
        (by simp [Decoder.recovers_string]) rfl
  | select node =>
      exact Decoder.recovers_variant 1 (node, ()) (by simp) rfl rfl (by decide)
        (by simp [Decoder.recovers_string]) rfl
  | elapsed => exact Decoder.recovers_tagged 2 (by simp) rfl rfl fun _ => rfl

namespace Suspension

/-- A suspension whose token and instants are read as they are written. -/
structure Storable (suspension : Suspension) : Prop where
  token : suspension.token.Storable
  reason : suspension.reason.Storable
  since : suspension.since.Readable
  expiresAt : ∀ t ∈ suspension.expiresAt, t.Readable

theorem recovers {suspension : Suspension} (h : suspension.Storable) :
    Suspension.decoder.Recovers suspension.stored suspension := by
  have hexpires : Record.Yields (some none) (.nullable Instant.decoder)
      (suspension.expiresAt.map Instant.stored) suspension.expiresAt :=
    Record.yields_optional (fun t ht => Instant.recovers (h.expiresAt t ht)) Instant.stored_ne_null
  exact Record.recovers_ofFields
    (suspension.token, suspension.reason, suspension.since, suspension.expiresAt, ()) (by decide)
    (by simp [record, Identifier.recovers h.token, Reason.recovers h.reason,
      Instant.recovers h.since, hexpires]) rfl

theorem stored_ne_null (suspension : Suspension) : suspension.stored ≠ .null :=
  Json.ofFields_ne_null

end Suspension

namespace Wakeup

/-- A wakeup whose token is read as it is written. -/
def Storable (wakeup : Wakeup) : Prop := ∀ token ∈ wakeup.token, token.Storable

theorem recovers {wakeup : Wakeup} (h : wakeup.Storable) :
    Wakeup.decoder.Recovers wakeup.stored wakeup := by
  have htoken : Record.Yields (some none) (.nullable Identifier.decoder)
      (wakeup.token.map Identifier.stored) wakeup.token :=
    Record.yields_optional (fun id hid => Identifier.recovers (h id hid)) Identifier.stored_ne_null
  exact Record.recovers_ofFields (wakeup.token, wakeup.payload, ()) (by decide)
    (by simp [record, Payload.recovers, htoken]) rfl

end Wakeup

/-! ## Failures and history -/

theorem Status.recovers (status : Status) : Status.decoder.Recovers status.stored status := by
  cases status <;> exact Decoder.recovers_choice rfl rfl

theorem FailureKind.recovers (kind : FailureKind) :
    FailureKind.decoder.Recovers kind.stored kind := by
  cases kind <;> exact Decoder.recovers_choice rfl rfl

namespace Failure

theorem recovers {failure : Failure} (h : failure.time.Readable) :
    Failure.decoder.Recovers failure.stored failure :=
  Record.recovers_ofFields (failure.kind, failure.message, failure.node, failure.time, ())
    (by decide)
    (by simp [record, FailureKind.recovers, Decoder.recovers_string, Instant.recovers h]) rfl

theorem stored_ne_null (failure : Failure) : failure.stored ≠ .null := Json.ofFields_ne_null

end Failure

namespace Note

/-- A note whose number is a size and whose identifier is read as it is written. -/
def Storable : Note → Prop
  | .dispatched part _ | .dispatchError part _ => part ≤ twoTo 64 - 1
  | .subflow _ run _ _ => run.Storable
  | .queueAssigned _ | .assignmentError .. | .unknownNodeType _ | .invalidSelection _
  | .failure .. => True

theorem recovers {note : Note} (h : note.Storable) : Note.decoder.Recovers note.stored note := by
  cases note with
  | dispatched part message =>
      have hpart : Decoder.size.Recovers (.nat part) part := Decoder.recovers_natural "usize" h
      exact Decoder.recovers_variant 0 (part, message, ()) (by simp) rfl rfl (by decide)
        (by simp [hpart, Decoder.recovers_string]) rfl
  | dispatchError part message =>
      have hpart : Decoder.size.Recovers (.nat part) part := Decoder.recovers_natural "usize" h
      exact Decoder.recovers_variant 1 (part, message, ()) (by simp) rfl rfl (by decide)
        (by simp [hpart, Decoder.recovers_string]) rfl
  | queueAssigned queue =>
      exact Decoder.recovers_variant 2 (queue, ()) (by simp) rfl rfl (by decide)
        (by simp [Decoder.recovers_string]) rfl
  | assignmentError queue message =>
      exact Decoder.recovers_variant 3 (queue, message, ()) (by simp) rfl rfl (by decide)
        (by simp [Decoder.recovers_string]) rfl
  | unknownNodeType kind =>
      exact Decoder.recovers_variant 4 (kind, ()) (by simp) rfl rfl (by decide)
        (by simp [Decoder.recovers_string]) rfl
  | invalidSelection reply =>
      exact Decoder.recovers_variant 5 (reply, ()) (by simp) rfl rfl (by decide)
        (by simp [Decoder.recovers_string]) rfl
  | subflow flow run status nodes =>
      have hrun := Identifier.recovers h
      have hnodes : (Decoder.list .string).Recovers (.strings nodes) nodes :=
        Decoder.recovers_list fun node _ => Decoder.recovers_string node
      exact Decoder.recovers_variant 6 (flow, run, status, nodes, ()) (by simp) rfl rfl (by decide)
        (by simp [hrun, hnodes, Status.recovers, Decoder.recovers_string]) rfl
  | failure kind message =>
      exact Decoder.recovers_variant 7 (kind, message, ()) (by simp) rfl rfl (by decide)
        (by simp [FailureKind.recovers, Decoder.recovers_string]) rfl

end Note

namespace Visit

/-- A visit whose instant and notes can be stored. -/
structure Storable (visit : Visit) : Prop where
  enteredAt : visit.enteredAt.Readable
  notes : ∀ note ∈ visit.notes, note.Storable

/-- Notes are left out where there are none, and then they are absent. -/
theorem recovers {visit : Visit} (h : visit.Storable) :
    Visit.decoder.Recovers visit.stored visit := by
  obtain ⟨node, enteredAt, notes⟩ := visit
  have htime := Instant.recovers h.enteredAt
  have hnotes : (Decoder.list Note.decoder).Recovers (.array (notes.map Note.stored)) notes :=
    Decoder.recovers_list fun note hnote => Note.recovers (h.notes note hnote)
  cases notes with
  | nil =>
      exact Record.recovers_ofFields (node, enteredAt, [], ()) (by decide)
        (by simp [record, Decoder.recovers_string, htime]) rfl
  | cons note rest =>
      exact Record.recovers_ofFields (node, enteredAt, note :: rest, ()) (by decide)
        (by simpa [record, Decoder.recovers_string, htime] using hnotes) rfl

end Visit

/-! ## Runs -/

/-- A level whose values, numbers, identifiers and instants can be stored. -/
structure Level.Storable (level : Level) : Prop where
  id : level.id.Storable
  parent : ∀ id ∈ level.parent, id.Storable
  vars : Values.Storable level.vars
  contact : Values.Storable level.contact
  history : ∀ visit ∈ level.history, visit.Storable
  depth : level.depth ≤ twoTo 32 - 1
  cursor : level.cursor ≤ twoTo 64 - 1
  suspension : ∀ suspension ∈ level.suspension, suspension.Storable
  failure : ∀ failure ∈ level.failure, failure.time.Readable
  createdAt : level.createdAt.Readable
  updatedAt : level.updatedAt.Readable

namespace Run

/-- A run all of whose levels can be stored. -/
def Storable (run : Run) : Prop := ∀ level ∈ run.levels, level.Storable

/-- A run is stored with its nested run as one of its fields. -/
theorem stored_eq (run : Run) :
    run.stored =
      .ofFields (run.toLevel.storedFields ++ optionalField "nested" (run.child?.map stored)) := by
  obtain ⟨level, nested⟩ := run
  cases nested with
  | nil => exact congrArg Json.ofFields (List.append_nil _).symm
  | cons child below => rfl

theorem stored_ne_null (run : Run) : run.stored ≠ .null := by
  rw [stored_eq]
  exact Json.ofFields_ne_null

/-- The fields of a level and its nested run make the run. -/
theorem ofColumns_child (run : Run) :
    ofColumns (run.id, run.flow, run.contactId, run.parent, run.vars, run.contact, run.node,
      run.history, run.status, run.depth, run.cursor, run.suspension, run.child?, run.failure,
      run.createdAt, run.updatedAt, ()) = run := by
  obtain ⟨level, nested⟩ := run
  cases nested <;> rfl

theorem levels_child {run child : Run} (h : run.child? = some child) :
    run.levels = run.toLevel :: child.levels := by
  obtain ⟨level, nested⟩ := run
  cases nested with
  | nil => cases h
  | cons next below =>
      obtain rfl := Option.some.inj h
      rfl

theorem Storable.child {run child : Run} (h : run.Storable) (hchild : run.child? = some child) :
    child.Storable := by
  intro level hlevel
  rw [Storable, levels_child hchild] at h
  exact h level (.tail _ hlevel)

/-- A run is recovered by a decoder of as many levels as it has.  The induction is on the levels:
each recovers its own fields, and its nested run by the decoder of one level less. -/
theorem recovers_within (levels : Nat) {run : Run} (h : run.Storable)
    (hlevels : run.levels.length ≤ levels) :
    (decoderWithin levels).Recovers run.stored run := by
  induction levels generalizing run with
  | zero => exact absurd hlevels (Nat.not_succ_le_zero _)
  | succ levels ih =>
      have hown : run.toLevel.Storable := h _ (.head _)
      have hparent : Record.Yields (some none) (.nullable Identifier.decoder)
          (run.parent.map Identifier.stored) run.parent :=
        Record.yields_optional (fun id hid => Identifier.recovers (hown.parent id hid))
          Identifier.stored_ne_null
      have hhistory : (Decoder.list Visit.decoder).Recovers
          (.array (run.history.map Visit.stored)) run.history :=
        Decoder.recovers_list fun visit hvisit => Visit.recovers (hown.history visit hvisit)
      have hdepth : Decoder.word32.Recovers (.nat run.depth) run.depth :=
        Decoder.recovers_natural "u32" hown.depth
      have hcursor : Decoder.size.Recovers (.nat run.cursor) run.cursor :=
        Decoder.recovers_natural "usize" hown.cursor
      have hsuspension : Record.Yields (some none) (.nullable Suspension.decoder)
          (run.suspension.map Suspension.stored) run.suspension :=
        Record.yields_optional (fun s hs => Suspension.recovers (hown.suspension s hs))
          Suspension.stored_ne_null
      have hfailure : Record.Yields (some none) (.nullable Failure.decoder)
          (run.failure.map Failure.stored) run.failure :=
        Record.yields_optional (fun f hf => Failure.recovers (hown.failure f hf))
          Failure.stored_ne_null
      have hnested : Record.Yields (some none) (.nullable (decoderWithin levels))
          (run.child?.map stored) run.child? := by
        refine Record.yields_optional (fun child hchild => ?_) stored_ne_null
        refine ih (h.child hchild) ?_
        rw [levels_child hchild] at hlevels
        exact Nat.le_of_succ_le_succ hlevels
      rw [stored_eq]
      exact Record.recovers_ofFields _ (by simp [record, Record.names])
        (by simp [record, Level.storedFields, Decoder.recovers_string, Identifier.recovers hown.id,
          hparent, Values.recovers hown.vars, Values.recovers hown.contact, hhistory,
          Status.recovers, hdepth, hcursor, hsuspension, hnested, hfailure,
          Instant.recovers hown.createdAt, Instant.recovers hown.updatedAt])
        (ofColumns_child run)

/-- Every level is stored in a container of its own. -/
theorem length_levels_le_height (run : Run) :
    run.levels.length ≤ (Document.ofJson run.stored).height := by
  obtain ⟨level, nested⟩ := run
  induction nested generalizing level with
  | nil => exact Nat.succ_pos _
  | cons child below ih =>
      have hnested : Json.given ((Run.mk level (child :: below)).toLevel.storedFields ++
          optionalField "nested" ((Run.mk level (child :: below)).child?.map stored)) "nested" =
            some (Run.mk child below).stored := by
        simp [child?]
      rw [stored_eq]
      exact Nat.lt_of_le_of_lt (ih child) (Json.height_lt_of_given hnested)

theorem recovers {run : Run} (h : run.Storable) : Run.decoder.Recovers run.stored run :=
  fun source => recovers_within _ h (Nat.le_succ_of_le run.length_levels_le_height) source

end Run

/-! ## Events and settings -/

namespace Event

/-- An event whose identifier and instants are read as they are written. -/
structure Storable (event : Event) : Prop where
  run : event.run.Storable
  time : event.time.Readable
  reason : ∀ reason, event.what = .runPaused reason → reason.Storable

theorem recovers {event : Event} (h : event.Storable) :
    Event.decoder.Recovers event.stored event := by
  obtain ⟨run, flow, contactId, node, time, what⟩ := event
  have hrun := Identifier.recovers h.run
  have htime := Instant.recovers h.time
  cases what with
  | nodeEntered =>
      exact Decoder.recovers_variant 0 (run, flow, contactId, node, time, ())
        (by simp [Occurrence.name, Occurrence.storedFields]) rfl rfl (by decide)
        (by simp [record, Occurrence.storedFields, Decoder.recovers_string, hrun, htime]) rfl
  | nodeCompleted =>
      exact Decoder.recovers_variant 1 (run, flow, contactId, node, time, ())
        (by simp [Occurrence.name, Occurrence.storedFields]) rfl rfl (by decide)
        (by simp [record, Occurrence.storedFields, Decoder.recovers_string, hrun, htime]) rfl
  | runPaused reason =>
      have hreason := Reason.recovers (h.reason reason rfl)
      exact Decoder.recovers_variant 2 (run, flow, contactId, node, reason, time, ())
        (by simp [Occurrence.name, Occurrence.storedFields]) rfl rfl (by decide)
        (by simp [record, Occurrence.storedFields, Decoder.recovers_string, hrun, htime,
          hreason]) rfl
  | runCompleted =>
      exact Decoder.recovers_variant 3 (run, flow, contactId, node, time, ())
        (by simp [Occurrence.name, Occurrence.storedFields]) rfl rfl (by decide)
        (by simp [record, Occurrence.storedFields, Decoder.recovers_string, hrun, htime]) rfl
  | runFailed kind message =>
      exact Decoder.recovers_variant 4 (run, flow, contactId, node, kind, message, time, ())
        (by simp [Occurrence.name, Occurrence.storedFields]) rfl rfl (by decide)
        (by simp [record, Occurrence.storedFields, Decoder.recovers_string, hrun, htime,
          FailureKind.recovers]) rfl

end Event

namespace Settings

/-- Settings within the bounds of their types. -/
structure Storable (settings : Settings) : Prop where
  maxDepth : settings.maxDepth ≤ twoTo 32 - 1
  maxSteps : settings.maxSteps ≤ twoTo 64 - 1
  eventCapacity : settings.eventCapacity ≤ twoTo 64 - 1
  inputTimeout : ∀ millis ∈ settings.inputTimeout, millis ≤ twoTo 64 - 1
  timerCapacity : settings.timerCapacity ≤ twoTo 64 - 1

/-- A time limit that is not set is stored as `null`. -/
theorem recovers {settings : Settings} (h : settings.Storable) :
    Settings.decoder.Recovers settings.stored settings := by
  have hdepth : Decoder.word32.Recovers (.nat settings.maxDepth) settings.maxDepth :=
    Decoder.recovers_natural "u32" h.maxDepth
  have hsteps : Decoder.size.Recovers (.nat settings.maxSteps) settings.maxSteps :=
    Decoder.recovers_natural "usize" h.maxSteps
  have hevents : Decoder.size.Recovers (.nat settings.eventCapacity) settings.eventCapacity :=
    Decoder.recovers_natural "usize" h.eventCapacity
  have htimers : Decoder.size.Recovers (.nat settings.timerCapacity) settings.timerCapacity :=
    Decoder.recovers_natural "usize" h.timerCapacity
  have htimeout : (Decoder.nullable .word64).Recovers
      ((settings.inputTimeout.map Json.nat).getD .null) settings.inputTimeout := by
    cases hlimit : settings.inputTimeout with
    | none => exact Decoder.recovers_null
    | some millis =>
        have hmillis : Decoder.word64.Recovers (.nat millis) millis :=
          Decoder.recovers_natural "u64" (h.inputTimeout millis hlimit)
        exact hmillis.nullable nofun
  exact Record.recovers_ofFields
    (settings.maxDepth, settings.maxSteps, settings.eventCapacity, settings.inputTimeout,
      settings.timerCapacity, ())
    (by decide) (by simp [record, hdepth, hsteps, hevents, htimeout, htimers]) rfl

end Settings

/-! ## All of them -/

/-- What is stored of a run, a flow, an event, a wakeup or settings is read back as it was. -/
theorem stored_forms_lose_nothing :
    (∀ run : Run, run.Storable → Run.decoder.ofTree run.stored = .ok run) ∧
    (∀ flow : Flow, flow.Storable → Flow.decoder.ofTree flow.stored = .ok flow) ∧
    (∀ event : Event, event.Storable → Event.decoder.ofTree event.stored = .ok event) ∧
    (∀ wakeup : Wakeup, wakeup.Storable → Wakeup.decoder.ofTree wakeup.stored = .ok wakeup) ∧
    ∀ settings : Settings, settings.Storable →
      Settings.decoder.ofTree settings.stored = .ok settings :=
  ⟨fun _ h => Run.recovers h .tree, fun _ h => Flow.recovers h .tree,
    fun _ h => Event.recovers h .tree, fun _ h => Wakeup.recovers h .tree,
    fun _ h => Settings.recovers h .tree⟩

/-- A level that waits at its second node, with some notes. -/
def Level.sample (id : Nat) (parent : Option Identifier) (depth : Nat) : Level where
  id := ⟨id⟩
  flow := "survey"
  contactId := "ann"
  parent := parent
  vars := [("answers", .array [.boolean true, .null]), ("name", .object [("first", .string "Ann")])]
  contact := []
  node := "ask"
  history := [⟨"begin", ⟨60, 500⟩, []⟩,
    ⟨"ask", ⟨60, 500⟩, [.dispatched 0 "m1", .subflow "intro" ⟨9⟩ .completed ["begin", "end"],
      .failure .dispatch "offline"]⟩]
  status := .paused
  depth := depth
  cursor := 1
  suspension := some ⟨⟨77⟩, .timer ⟨60, 500⟩, ⟨60, 500⟩, some ⟨60, 500⟩⟩
  failure := some ⟨.timeout, "no reply", "ask", ⟨60, 500⟩⟩
  createdAt := ⟨60, 500⟩
  updatedAt := ⟨60, 500⟩

theorem Level.storable_sample {id : Nat} {parent : Option Identifier} {depth : Nat}
    (htime : Instant.Readable ⟨60, 500⟩) (hid : Identifier.Storable ⟨id⟩)
    (hparent : ∀ id ∈ parent, id.Storable) (hdepth : depth ≤ twoTo 32 - 1) :
    (sample id parent depth).Storable where
  id := hid
  parent := hparent
  vars := by
    constructor
    · exact List.pairwise_pair.mpr (by decide)
    · simp [sample, Value.StorableFields, Value.Storable, Value.StorableItems, Fields.Ascending]
  contact := ⟨List.Pairwise.nil, trivial⟩
  history := by
    have hask : ∀ note ∈ [Note.dispatched 0 "m1",
        .subflow "intro" ⟨9⟩ .completed ["begin", "end"], .failure .dispatch "offline"],
        note.Storable := by
      simp [Note.Storable, Identifier.Storable]
    simp only [sample, List.mem_cons, List.not_mem_nil, or_false, forall_eq_or_imp, forall_eq]
    exact ⟨⟨htime, nofun⟩, ⟨htime, hask⟩⟩
  depth := hdepth
  cursor := by simp [sample]
  suspension := by
    have htoken : Identifier.Storable ⟨77⟩ := by simp [Identifier.Storable]
    simp only [sample, Option.mem_def, Option.some.injEq, forall_eq']
    exact ⟨htoken, htime, htime, by simpa using htime⟩
  failure := by simpa [sample] using htime
  createdAt := htime
  updatedAt := htime

/-- A run that waits two levels down. -/
theorem stored_forms_lose_nothing_sample :
    let run : Run := ⟨.sample 1 none 0, [.sample 2 (some ⟨1⟩) 1, .sample 3 (some ⟨2⟩) 2]⟩
    let node : Flow.Node := ⟨"ask", "Menu", some "Question", [("limit", .string "3")]⟩
    let flow : Flow := ⟨"survey", none, [node], [⟨"e", "ask", "ask", some "again"⟩]⟩
    let event : Event := ⟨⟨1⟩, "survey", "ann", "ask", ⟨60, 500⟩, .runPaused (.timer ⟨60, 500⟩)⟩
    let wakeup : Wakeup := ⟨some ⟨77⟩, .elapsed⟩
    let settings : Settings := { inputTimeout := some 5000 }
    (run.Storable ∧ Run.decoder.ofTree run.stored = .ok run) ∧
      (flow.Storable ∧ Flow.decoder.ofTree flow.stored = .ok flow) ∧
      (event.Storable ∧ Event.decoder.ofTree event.stored = .ok event) ∧
      (wakeup.Storable ∧ Wakeup.decoder.ofTree wakeup.stored = .ok wakeup) ∧
      (settings.Storable ∧ Settings.decoder.ofTree settings.stored = .ok settings) := by
  intro run node flow event wakeup settings
  obtain ⟨hruns, hflows, hevents, hwakeups, hsettings⟩ := stored_forms_lose_nothing
  have htime : Instant.Readable ⟨60, 500⟩ := by rfl
  have hrun : run.Storable := by
    have hids : ∀ n < 10, Identifier.Storable ⟨n⟩ := fun n hn =>
      Nat.lt_of_lt_of_le hn (by decide)
    simp only [run, Run.Storable, Run.levels, List.mem_cons, List.not_mem_nil, or_false,
      forall_eq_or_imp, forall_eq]
    exact ⟨Level.storable_sample htime (hids 1 (by decide)) nofun (by decide),
      Level.storable_sample htime (hids 2 (by decide)) (by simpa using hids 1 (by decide))
        (by decide),
      Level.storable_sample htime (hids 3 (by decide)) (by simpa using hids 2 (by decide))
        (by decide)⟩
  have hflow : flow.Storable := by
    simp only [flow, Flow.Storable, List.mem_cons, List.not_mem_nil, or_false, forall_eq]
    exact ⟨List.pairwise_singleton _ _, trivial, trivial⟩
  have hevent : event.Storable := by
    refine ⟨by simp [event, Identifier.Storable], htime, fun reason hreason => ?_⟩
    cases hreason
    exact htime
  have hwakeup : wakeup.Storable := by simp [wakeup, Wakeup.Storable, Identifier.Storable]
  have hbounds : settings.Storable := by constructor <;> simp [settings]
  exact ⟨⟨hrun, hruns run hrun⟩, ⟨hflow, hflows flow hflow⟩, ⟨hevent, hevents event hevent⟩,
    ⟨hwakeup, hwakeups wakeup hwakeup⟩, ⟨hbounds, hsettings settings hbounds⟩⟩

end Dialogue
