import Dialogue.Proofs.Drive.Verbatim
import Dialogue.Proofs.Engine.Catalog
import Dialogue.Proofs.Engine.Collapse
import Dialogue.Proofs.Engine.Payload
import Dialogue.Proofs.Run.Termination

/-!
# Answers that are sent back

What a contact answers to a menu is kept as a text, and is never read as a template:
wherever a sequence refers to the variable of the menu, in the same drive or in a
later one and on whichever level of the run, the answer is sent as it is.  The
definitions of flows may change all the while.  Two things are asked for only: that
no other answer is written in the variable, and that whenever the run is driven
again, every level of it but the innermost still stands at a node that runs another
flow.  Where a level does not, what is nested in it is left behind with its
variables, and a flow that has been run to its end may lose the answers to its menus.
-/

namespace Dialogue

open Template

/-- Levels that wait for one suspension are an intact chain. -/
theorem Level.Hangs.intact {flows : Flows} {maxDepth : Nat} {suspension : Suspension}
    {level : Level} {below : List Level} (h : level.Hangs flows maxDepth suspension below) :
    level.Intact flows below := by
  induction h with
  | stop stands pauses => trivial
  | link holds waits rest ih => exact ⟨⟨_, holds.stands⟩, ih⟩

namespace Run

variable {run : Run} {name : String} {value : Value}

theorem Ordered.terminate (h : run.Ordered) (kind : FailureKind) (message : String)
    (time : Instant) : (run.terminate kind message time).Ordered := by
  intro level hlevel
  obtain rfl := List.mem_singleton.mp hlevel
  change (unwind kind message time run.toLevel run.nested).vars.Ascending
  rw [unwind_gathered]
  exact ascending_gathered h

/-- What the innermost level of a chain holds is gathered. -/
theorem get?_gathered_last {level : Level} {below : List Level}
    (h : ∀ other ∈ level :: below, other.vars.Ascending)
    (hheld : (below.getLast?.getD level).vars.get? name = some value) :
    (gathered level below).get? name = some value := by
  induction below generalizing level with
  | nil => exact hheld
  | cons child below ih =>
      have hbelow : ∀ other ∈ child :: below, other.vars.Ascending := by
        intro other hother
        exact h other (.tail _ hother)
      rw [List.getLast?_cons] at hheld
      rw [gathered, Fields.get?_union (ascending_gathered hbelow), ih hbelow hheld]
      rfl

/-- A run that is terminated still holds what it held. -/
theorem get?_terminate (h : run.Ordered) (hheld : run.innermost.vars.get? name = some value)
    (kind : FailureKind) (message : String) (time : Instant) :
    (run.terminate kind message time).innermost.vars.get? name = some value := by
  change (unwind kind message time run.toLevel run.nested).vars.get? name = some value
  rw [unwind_gathered]
  exact get?_gathered_last h hheld

end Run

/-- An order that wakes a run brings no variables of its own. -/
theorem Order.proper_of_wakeup {order : Order} {id : Identifier} {event : Wakeup}
    (h : order.wakeup? = some (id, event)) : order.Proper := by
  cases order with
  | start request => cases h
  | _ => trivial

namespace World

variable {world world' : World} {order : Order} {leg : Drive.Leg} {id : Identifier}
  {name text : String} {value : Value}

/-! ## Dictionaries -/

/-- A world of standard nodes in which the variables of every level of every stored run are a
dictionary. -/
structure Dictionaries (world : World) : Prop where
  loads : world.Loads
  runs : ∀ id run, world.store.find? id = some run → run.Ordered

theorem Loads.standard (h : world.Loads) (id : FlowId) (graph : Graph)
    (hflow : world.flow id = .ok graph) : graph.Standard := (h.sound hflow).standard

/-- A drive of an order begins with dictionaries, on a graph of standard nodes. -/
theorem Drives.ordered (h : world.Drives order leg) (hworld : world.Dictionaries)
    (hproper : order.Proper) : leg.run.Ordered ∧ leg.phase.graph.Standard := by
  cases h with
  | begin look place course done =>
      exact ⟨List.forall_mem_singleton.mpr hproper,
        hworld.loads.standard _ _ (flow_of_look look)⟩
  | resume wakes stored accepted timely look course done =>
      exact ⟨hworld.runs _ _ stored, hworld.loads.standard _ _ (flow_of_look look)⟩

theorem Drives.leaves_ordered (h : world.Drives order leg) (hworld : world.Dictionaries)
    (hproper : order.Proper) : leg.run'.Ordered := by
  obtain ⟨hordered, hstandard⟩ := h.ordered hworld hproper
  have hcourse : Drive.Course world.bounds leg.phase leg.world leg.run leg.world' leg.run' :=
    h.goes
  exact hcourse.ordered h.outset.1 hworld.loads.standard hstandard hordered

/-- Terminations leave dictionaries, and what a run holds. -/
theorem Endings.dictionaries (h : world.Endings world')
    (hruns : ∀ id run, world.store.find? id = some run → run.Ordered) :
    (∀ id run, world'.store.find? id = some run → run.Ordered) ∧
      ∀ id name value, (∃ run, world.store.find? id = some run ∧
          run.innermost.vars.get? name = some value) →
        ∃ run, world'.store.find? id = some run ∧
          run.innermost.vars.get? name = some value := by
  induction h with
  | refl => exact ⟨hruns, fun _ _ _ h => h⟩
  | tail _ ending ih =>
      obtain ⟨hruns, hheld⟩ := ih
      obtain ⟨stored, unended, words⟩ := ending
      constructor
      · intro id run hrun
        rw [store_terminate] at hrun
        split at hrun
        · obtain rfl := Option.some.inj hrun
          exact (hruns _ _ stored).terminate _ _ _
        · exact hruns id run hrun
      · intro id name value hbefore
        obtain ⟨run, hrun, hvalue⟩ := hheld id name value hbefore
        rw [store_terminate]
        split
        · next hid =>
          rw [← hid, stored] at hrun
          obtain rfl := Option.some.inj hrun
          exact ⟨_, rfl, Run.get?_terminate (hruns _ _ stored) hvalue _ _ _⟩
        · exact ⟨run, hrun, hvalue⟩

theorem Dictionaries.carryOut (h : world.Dictionaries) (hworld : world.Ready)
    (hproper : order.Proper) : (world.carryOut order).Dictionaries := by
  refine ⟨h.loads.carryOut hworld order, ?_⟩
  cases hflows : order.keepsFlows with
  | false =>
      rw [(carryOut_flows hworld hflows).1]
      exact h.runs
  | true =>
      rcases carryOut_drives hworld hflows with ⟨leg, hdrives⟩ | hstill | hendings
      · intro id run hrun
        rw [hdrives.find?] at hrun
        split at hrun
        · obtain rfl := Option.some.inj hrun
          exact hdrives.leaves_ordered h hproper
        · exact h.runs id run hrun
      · rw [hstill.store]
        exact h.runs
      · exact (hendings.dictionaries h.runs).1

theorem Dictionaries.atTime (h : world.Dictionaries) (now : Instant) :
    (world.atTime now).Dictionaries := ⟨⟨h.loads.registry, h.loads.loaded⟩, h.runs⟩

theorem dictionaries_after {settings : Settings} {start : Instant} {definitions : List Flow}
    {send : Ledger → String → Message → Except DispatchError String}
    {assign : Ledger → String → String → Except AssignmentError Unit} {supply : Supply}
    {orders : List (Instant × Order)} (hproper : ∀ order ∈ orders, order.2.Proper) :
    ((opened settings start definitions send assign supply).after orders).Dictionaries :=
  after_induction Order.Proper Dictionaries (fun now h => h.atTime now)
    (fun hready hproper h => h.carryOut hready hproper) (ready_opened ..)
    ⟨loads_opened .., by simp [opened, Store.find?]⟩ hproper

/-! ## Variables that are spared -/

/-- An order writes nothing in a variable of a run, and if it drives the run, every level of it but
the innermost stands at a node that runs another flow. -/
structure Spares (world : World) (id : Identifier) (name : String) (order : Order) : Prop where
  unwritten : ∀ leg, world.Drives order leg → leg.run.id = id →
    ∀ answer, leg.run.innermost.written? world.flow leg.phase.payload ≠ some (name, answer)
  intact : ∀ leg, world.Drives order leg → leg.run.id = id →
    leg.run.Intact world.flow world.bounds.settings

/-- Orders of which each one spares a variable when its time comes. -/
def SparesAll (world : World) (id : Identifier) (name : String) : List (Instant × Order) → Prop
  | [] => True
  | order :: rest => (world.atTime order.1).Spares id name order.2 ∧
      ((world.atTime order.1).carryOut order.2).SparesAll id name rest

/-- A world in which a variable of a stored run holds a value, and in which steps may be taken. -/
structure Holding (world : World) (id : Identifier) (name : String) (value : Value) : Prop
    extends world.Dictionaries where
  numbered : world.Numbered
  steps : 0 < world.bounds.settings.maxSteps
  held : ∃ run, world.store.find? id = some run ∧ run.innermost.vars.get? name = some value

/-- The drive of a run whose chain is intact takes a variable along, with what is to be written in
it. -/
theorem Drives.due (h : world.Drives order leg) (hworld : world.Dictionaries)
    (hproper : order.Proper) (hintact : leg.run.Intact world.flow world.bounds.settings)
    (hdue : (leg.run.innermost.varsAfter world.flow leg.phase.payload).get? name = some value) :
    leg.Due world.bounds world.flow name value := by
  obtain ⟨hordered, hstandard⟩ := h.ordered hworld hproper
  have hable : ∀ graph payload, leg.phase ≠ .walk graph 0 (some payload) := by
    obtain ⟨graph, payload, hphase⟩ := h.phase
    rw [hphase]
    exact nofun
  refine ⟨h.outset.1, ?_, hable, hstandard, hordered, hdue⟩
  cases h with
  | begin look place course done => rfl
  | resume wakes stored accepted timely look course done => exact ⟨flow_of_look look, hintact⟩

/-- An order that drives a stored run begins none. -/
theorem Drives.of_stored (h : world.Drives order leg) (hnumbered : world.Numbered) {run : Run}
    (hrun : world.store.find? leg.run.id = some run) :
    leg.run = run ∧ ∃ event, order.wakeup? = some (leg.run.id, event) := by
  cases h with
  | begin look place course done =>
      have htaken := Option.isSome_of_eq_some hrun
      exact absurd rfl (hnumbered.newRun_ne (still_of_look look) htaken)
  | resume wakes stored accepted timely look course done =>
      exact ⟨Option.some.inj (stored.symm.trans hrun), _, wakes⟩

namespace Holding

/-- A drive of the run takes the value along, if the order spares it. -/
theorem due (h : world.Holding id name value) (hdrives : world.Drives order leg)
    (hid : leg.run.id = id) (hspares : world.Spares id name order) :
    leg.Due world.bounds world.flow name value := by
  subst hid
  obtain ⟨run, hrun, hheld⟩ := h.held
  obtain ⟨hsame, event, hwakes⟩ := hdrives.of_stored h.numbered hrun
  have hproper := Order.proper_of_wakeup hwakes
  refine hdrives.due h.toDictionaries hproper (hspares.intact leg hdrives rfl) ?_
  rw [Level.varsAfter, Fields.get?_written (hspares.unwritten leg hdrives rfl), hsame]
  exact hheld

theorem atTime (h : world.Holding id name value) (now : Instant) :
    (world.atTime now).Holding id name value :=
  ⟨h.toDictionaries.atTime now, h.numbered, h.steps, h.held⟩

/-- A drive of another run, or one that takes the value along, leaves it. -/
theorem of_drive (hworld : world.Ready) (hdict : world.Dictionaries) (hnumbered : world.Numbered)
    (hsteps : 0 < world.bounds.settings.maxSteps) (hproper : order.Proper)
    (hdrives : world.Drives order leg) (hdue : leg.Due world.bounds world.flow name value) :
    (world.carryOut order).Holding leg.run.id name value where
  toDictionaries := hdict.carryOut hworld hproper
  numbered := hnumbered.carryOut hworld order
  steps := by
    rw [bounds_carryOut hworld]
    exact hsteps
  held := by
    have hcourse : Drive.Course world.bounds leg.phase leg.world leg.run leg.world' leg.run' :=
      hdrives.goes
    exact ⟨leg.run', hdrives.stored,
      hcourse.keeps_due hdue.flow hdict.loads.standard hsteps hdue.due⟩

/-- An order that spares a variable leaves its value, whatever it does to flows and to other
runs. -/
theorem carryOut (h : world.Holding id name value) (hworld : world.Ready)
    (hproper : order.Proper) (hspares : world.Spares id name order) :
    (world.carryOut order).Holding id name value := by
  obtain ⟨run, hrun, hheld⟩ := h.held
  have hkept (hsame : (world.carryOut order).store.find? id = world.store.find? id) :
      (world.carryOut order).Holding id name value :=
    ⟨h.toDictionaries.carryOut hworld hproper, h.numbered.carryOut hworld order,
      (bounds_carryOut hworld).symm ▸ h.steps, run, hsame.trans hrun, hheld⟩
  cases hflows : order.keepsFlows with
  | false =>
      apply hkept
      rw [(carryOut_flows hworld hflows).1]
  | true =>
      rcases carryOut_drives hworld hflows with ⟨leg, hdrives⟩ | hstill | hendings
      · by_cases hid : leg.run.id = id
        · have hdue := h.due hdrives hid hspares
          subst hid
          exact of_drive hworld h.toDictionaries h.numbered h.steps hproper hdrives hdue
        · apply hkept
          rw [hdrives.find?, if_neg hid]
      · apply hkept
        rw [hstill.store]
      · exact ⟨h.toDictionaries.carryOut hworld hproper, h.numbered.carryOut hworld order,
          (bounds_carryOut hworld).symm ▸ h.steps,
          (hendings.dictionaries h.runs).2 id name value h.held⟩

/-- Orders that all spare a variable leave its value. -/
theorem after {orders : List (Instant × Order)} (h : world.Holding id name value)
    (hworld : world.Ready) (hproper : ∀ order ∈ orders, order.2.Proper)
    (hspares : world.SparesAll id name orders) : (world.after orders).Holding id name value := by
  induction orders generalizing world with
  | nil => exact h
  | cons order rest ih =>
      obtain ⟨hfirst, hrest⟩ := hspares
      have hworld' := hworld.atTime order.1
      exact ih ((h.atTime order.1).carryOut hworld' (hproper order (.head _)) hfirst)
        (hworld'.carryOut order.2) (fun other hother => hproper other (.tail _ hother)) hrest

end Holding

/-! ## Chains that are intact -/

/-- Orders leave the settings alone. -/
theorem settings_after (hworld : world.Ready) (orders : List (Instant × Order)) :
    (world.after orders).bounds.settings = world.bounds.settings :=
  after_induction (fun _ => True) (fun after => after.bounds.settings = world.bounds.settings)
    (fun _ h => h) (fun hready _ h => (congrArg Bounds.settings (bounds_carryOut hready)).trans h)
    hworld rfl fun _ _ => trivial

/-- Where runs have their shape, their chains are intact. -/
theorem Drives.intact {settings : Settings} (h : world.Drives order leg)
    (hshaped : world.Shaped world.flow settings) :
    leg.run.Intact world.flow world.bounds.settings := by
  have hfit := (h.fits hshaped).fit
  cases h with
  | begin look place course done => exact .inl rfl
  | resume wakes stored accepted timely look course done =>
      obtain ⟨-, hsteps, suspension, -, hhangs⟩ := hfit
      exact .inr ⟨hsteps, hhangs.intact⟩

/-! ## Answers -/

/-- An order drives a run with a reply, which the menu takes where the innermost level of the run
stands. -/
structure Replies (world : World) (order : Order) (leg : Drive.Leg) (name text : String) :
    Prop where
  drives : world.Drives order leg
  reply : leg.phase.payload = some (.reply text)
  taken : ∃ menu, leg.run.innermost.Stands world.flow (.menu menu) ∧ menu.saveAs = some name ∧
    menu.Accepts text
  intact : leg.run.Intact world.flow world.bounds.settings

/-- A reply is due in the variable of the menu. -/
theorem Replies.due (h : world.Replies order leg name text) (hworld : world.Dictionaries)
    (hproper : order.Proper) :
    leg.Due world.bounds world.flow name (.string (Text.trim text)) := by
  obtain ⟨menu, hstands, hname, haccepts⟩ := h.taken
  refine h.drives.due hworld hproper h.intact ?_
  rw [h.reply, Level.varsAfter, Level.written?_reply hstands hname haccepts]
  exact (Fields.get?_insert _ _ _ _).trans (if_pos rfl)

/-- A reply is brought to a run by an order that brings no variables. -/
theorem Replies.proper (h : world.Replies order leg name text) : order.Proper := by
  obtain ⟨drives, reply, -, -⟩ := h
  cases drives with
  | begin look place course done => cases reply
  | resume wakes stored accepted timely look course done => exact Order.proper_of_wakeup wakes

/-- What a contact answers is never run as a template.  A reference to a variable that holds a text
is rendered to the text.  So, whatever was ordered in a world that was opened with nothing but
flows, and however flows are changed, a reply that a menu takes is sent as it is, without the blanks
around it, by every sequence that refers to the variable of the menu: by those that the reply leads
to, and by those of later drives of the run, on all its levels, as long as no other answer is
written in the variable and the chain of levels is intact whenever the run is driven.  It is always
intact as long as no definition changes once its flow has been loaded. -/
theorem replies_are_quoted {name : String} (hname : IsName name) :
    (∀ (view : View) (before text after : String), Literal before.toList → Literal after.toList →
      view.vars.get? name = some (.string text) →
      view.render (before ++ reference name ++ after) = before ++ text ++ after) ∧
    ∀ (settings : Settings) (start : Instant) (definitions : List Flow)
      (send : Ledger → String → Message → Except DispatchError String)
      (assign : Ledger → String → String → Except AssignmentError Unit) (supply : Supply)
      (orders : List (Instant × Order)) (now : Instant) (order : Order) (leg : Drive.Leg)
      (text : String), (∀ earlier ∈ orders, earlier.2.Proper) →
      let opening := opened settings start definitions send assign supply
      let world := (opening.after orders).atTime now
      (world.Replies order leg name text →
        leg.Quotes world.bounds name (Text.trim text) ∧
        ∀ later now' order' leg', (∀ other ∈ later, other.2.Proper) →
          (world.carryOut order).SparesAll leg.run.id name later →
          let world' := ((world.carryOut order).after later).atTime now'
          world'.Spares leg.run.id name order' → world'.Drives order' leg' →
          leg'.run.id = leg.run.id → leg'.Quotes world'.bounds name (Text.trim text)) ∧
      (opening.Steady orders → world.Drives order leg →
        leg.run.Intact world.flow world.bounds.settings) := by
  refine ⟨?_, ?_⟩
  · intro view before text after hbefore hafter hheld
    exact View.render_text hbefore hname hafter hheld
  · intro settings start definitions send assign supply orders now order leg text hproper opening
      world
    have hopening : opening.Ready := ready_opened ..
    have hworld : world.Ready := (ready_after hopening orders).atTime now
    have hlimits : world.bounds.settings = settings := settings_after hopening orders
    constructor
    · intro hreplies
      have hnumbered : world.Numbered :=
        Numbered.after (numbered_opened _ _ _ _ _ _) hopening orders
      have hdict : world.Dictionaries := (dictionaries_after hproper).atTime now
      have hready' := hworld.carryOut order
      by_cases hsteps : 0 < settings.maxSteps
      · have hdue := hreplies.due hdict hreplies.proper
        have hholding := Holding.of_drive hworld hdict hnumbered (hlimits.symm ▸ hsteps)
          hreplies.proper hreplies.drives hdue
        refine ⟨hdue.quotes hname hdict.loads.standard (hlimits.symm ▸ hsteps), ?_⟩
        intro later now' order' leg' hlater hspares world' hspares' hdrives' hid
        have hholding' : world'.Holding leg.run.id name (.string (Text.trim text)) :=
          (hholding.after hready' hlater hspares).atTime now'
        exact (hholding'.due hdrives' hid hspares').quotes hname hholding'.loads.standard
          hholding'.steps
      · -- Where no step may be taken, nothing is sent.
        have hnone : settings.maxSteps = 0 := Nat.eq_zero_of_not_pos hsteps
        have hquotes {world : World} {order : Order} {leg : Drive.Leg}
            (hdrives : world.Drives order leg) (hlimits : world.bounds.settings = settings) :
            leg.Quotes world.bounds name (Text.trim text) := by
          obtain ⟨graph, payload, hphase⟩ := hdrives.phase
          exact Drive.Leg.quotes_of_no_steps hphase (hlimits ▸ hnone)
        refine ⟨hquotes hreplies.drives hlimits, ?_⟩
        intro later now' order' leg' hlater hspares world' hspares' hdrives' hid
        refine hquotes hdrives' ?_
        exact ((settings_after hready' later).trans
          (congrArg Bounds.settings (bounds_carryOut hworld))).trans hlimits
    · intro hsteady hdrives
      have hshaped : world.Shaped world.flow settings :=
        (hsteady.kept settings start definitions send assign supply).shaped.atTime now
      exact hdrives.intact hshaped

end World

/-! ## A question in a nested flow -/

/-- A flow that runs another one, and then greets with a name. -/
def Flow.greeting (id inner : FlowId) : Flow where
  id := id
  nodes := [⟨"begin", "START", none, []⟩,
    ⟨"call", "SUBFLOW", none, [("flow_id", .string inner)]⟩,
    ⟨"greet", "CONTENT", none, [("parts", .array [
      .object [("value", .string ("hi " ++ reference "name"))]])]⟩]
  edges := [⟨"first", "begin", "call", none⟩, ⟨"second", "call", "greet", none⟩]

/-- A flow that asks for a name, and then runs another one. -/
def Flow.enquiring (id inner : FlowId) : Flow where
  id := id
  nodes := [⟨"begin", "START", none, []⟩,
    ⟨"ask", "MENU", none, [("variable", .string "name")]⟩,
    ⟨"more", "SUBFLOW", none, [("flow_id", .string inner)]⟩]
  edges := [⟨"first", "begin", "ask", none⟩, ⟨"second", "ask", "more", none⟩]

/-- A flow that sends its thanks at the node where another one was to be run. -/
def Flow.thanking (id : FlowId) : Flow where
  id := id
  nodes := [⟨"begin", "START", none, []⟩,
    ⟨"more", "CONTENT", none, [("parts", .array [.object [("value", .string "thanks")]])]⟩]
  edges := [⟨"first", "begin", "more", none⟩]

/-- A level stands at a menu that takes every reply and keeps it in a variable. -/
def Level.asksFor (flows : Flows) (name : String) (level : Level) : Bool :=
  ((flows level.flow).toOption.bind (·.find? level.node)).any fun node =>
    match node.behaviour with
    | .menu menu => menu.saveAs == some name && menu.choices.isEmpty
    | _ => false

theorem Level.menu_of_asksFor {flows : Flows} {name : String} {level : Level}
    (h : level.asksFor flows name = true) (text : String) :
    ∃ menu, level.Stands flows (.menu menu) ∧ menu.saveAs = some name ∧ menu.Accepts text := by
  obtain ⟨node, hnode, hmenu⟩ := (Option.any_eq_true _ _).mp h
  obtain ⟨graph, hgraph, hnode⟩ := Option.bind_eq_some_iff.mp hnode
  cases hbehaviour : node.behaviour with
  | menu menu =>
      simp only [hbehaviour, Bool.and_eq_true, beq_iff_eq, List.isEmpty_iff] at hmenu
      exact ⟨menu, ⟨graph, node, toOption_eq_some_iff.mp hgraph, hnode, hbehaviour⟩, hmenu.1,
        .inl hmenu.2⟩
  | _ => simp [hbehaviour] at hmenu

/-- A payload is written in no variable of a name. -/
def Level.leaves (flows : Flows) (payload : Payload) (name : String) (level : Level) : Bool :=
  (level.written? flows (some payload)).all (·.1 != name)

theorem Level.unwritten_of_leaves {flows : Flows} {payload : Payload} {name : String}
    {level : Level} (h : level.leaves flows payload name = true) (answer : String) :
    level.written? flows (some payload) ≠ some (name, answer) := by
  intro hwritten
  rw [leaves, hwritten] at h
  simp at h

/-- Whether a variable of a run holds a text. -/
def Run.holdsText (name text : String) (run : Run) : Bool :=
  match run.innermost.vars.get? name with
  | some (.string held) => held == text
  | _ => false

theorem Run.get?_of_holdsText {name text : String} {run : Run}
    (h : run.holdsText name text = true) :
    run.innermost.vars.get? name = some (.string text) := by
  unfold holdsText at h
  split at h
  · next held hheld => rw [hheld, beq_iff_eq.mp h]
  · cases h

/-- Whether a run has noted that a flow was run in it to its end. -/
def Run.hasRun (flow : FlowId) (run : Run) : Bool :=
  run.history.any fun visit => visit.notes.any fun
    | .subflow other _ status _ => other == flow && status == .completed
    | _ => false

namespace World

variable {world : World} {order : Order} {id : Identifier}

/-- The messages that were sent in a world, latest first. -/
def sentMessages (world : World) : List (String × Message) :=
  world.ledger.entries.filterMap fun
    | .sent contactId message _ => some (contactId, message)
    | .assigned .. => none

/-- A run that waits, of a flow that loads, is driven by an event in time. -/
theorem drives_waiting (hworld : world.Ready) {event : Wakeup} {test : Run → Bool}
    (hwakes : order.wakeup? = some (id, event))
    (h : (world.store.find? id).any (fun run =>
      (Engine.checkResumable run event).toOption.any (!·.isOverdue world.bounds.now) &&
        (world.flow run.flow).toOption.isSome && test run) = true) :
    ∃ leg graph, world.Drives order leg ∧ world.store.find? id = some leg.run ∧
      leg.run.id = id ∧ leg.phase = .level graph (some event.payload) ∧ test leg.run = true := by
  obtain ⟨run, hrun, htests⟩ := (Option.any_eq_true _ _).mp h
  obtain rfl := Store.id_of_find? hrun
  simp only [Bool.and_eq_true] at htests
  obtain ⟨⟨haccepts, hloads⟩, htest⟩ := htests
  obtain ⟨suspension, haccepted, htimely⟩ := (Option.any_eq_true _ _).mp haccepts
  obtain ⟨graph, hgraph⟩ := Option.isSome_iff_exists.mp hloads
  have hchecked := toOption_eq_some_iff.mp haccepted
  have hflow := toOption_eq_some_iff.mp hgraph
  obtain ⟨leg, hdrives, rfl⟩ :=
    drives_resume hworld hwakes hrun hchecked (by simpa using htimely) hflow
  obtain ⟨-, graph', hphase⟩ := hdrives.of_wakeup hwakes hrun
  exact ⟨leg, graph', hdrives, hrun, rfl, hphase, htest⟩

/-- The order that wakes a stored run spares a variable, if the event is written in none of its name
and the chain is intact. -/
theorem spares_of_wakeup {event : Wakeup} {run : Run} {name : String}
    (hwakes : order.wakeup? = some (id, event)) (hstored : world.store.find? id = some run)
    (hunwritten : ∀ answer,
      run.innermost.written? world.flow (some event.payload) ≠ some (name, answer))
    (hintact : run.Intact world.flow world.bounds.settings) : world.Spares id name order := by
  obtain rfl := Store.id_of_find? hstored
  have hsame {leg : Drive.Leg} (h : world.Drives order leg) :
      leg.run = run ∧ ∃ graph, leg.phase = .level graph (some event.payload) :=
    h.of_wakeup hwakes hstored
  constructor
  · intro leg hdrives _ answer
    obtain ⟨hrun, graph, hphase⟩ := hsame hdrives
    rw [hrun, hphase]
    exact hunwritten answer
  · intro leg hdrives _
    rw [(hsame hdrives).1]
    exact hintact

/-- A sample with a flow that runs another one and then greets; the other one asks for a name, and
runs a third one. -/
def sampleGreeting : World :=
  opened {} ⟨0, 0⟩ [.greeting "outer" "inner", .enquiring "inner" "leaf", .asking "leaf"]
    (fun _ _ _ => .ok "sent") (fun _ _ _ => .ok ()) {}

/-- An answer that looks like a template is sent as it is, two nested flows later. -/
theorem replies_are_quoted_sample :
    let id : Identifier := ⟨sampleGreeting.supply.firstRun⟩
    let order : Order := .resume id (.reply " \x7b\x7bvip\x7d\x7d ")
    let order' : Order := .resume id (.reply "yes")
    let world := (sampleGreeting.after
      [(⟨0, 0⟩, .start { flow := "outer", contactId := "ann" })]).atTime ⟨1, 0⟩
    let world' := ((world.carryOut order).after []).atTime ⟨2, 0⟩
    IsName "name" ∧ ∃ leg leg',
      world.Replies order leg "name" " \x7b\x7bvip\x7d\x7d " ∧ leg.run.nested.length = 1 ∧
      world'.Spares leg.run.id "name" order' ∧ world'.Drives order' leg' ∧
      leg'.run.nested.length = 2 ∧ leg'.Quotes world'.bounds "name" "\x7b\x7bvip\x7d\x7d" ∧
      (world'.carryOut order').sentMessages =
        [("ann", ⟨.text, "hi \x7b\x7bvip\x7d\x7d", none⟩)] := by
  intro id order order' world world'
  have hname : IsName "name" := ⟨'n', ['a', 'm', 'e'], rfl, rfl, List.all_eq_true.mp (by decide)⟩
  have hproper : ∀ order ∈ [((⟨0, 0⟩ : Instant), Order.start
      { flow := "outer", contactId := "ann" })], order.2.Proper := by
    simp [Order.Proper, Fields.Ascending]
  have hworld : world.Ready := (ready_after (ready_opened {} ⟨0, 0⟩ _ _ _ {}) _).atTime _
  have hworld' : world'.Ready := (hworld.carryOut order).atTime _
  obtain ⟨leg, graph, hdrives, -, hid, hphase, htest⟩ := @drives_waiting world order id hworld
    (.reply " \x7b\x7bvip\x7d\x7d ")
    (fun run => run.innermost.asksFor world.flow "name" &&
      decide (run.Intact world.flow world.bounds.settings) && run.nested.length == 1)
    rfl (by decide +kernel)
  obtain ⟨leg', graph', hdrives', hstored', hid', hphase', htest'⟩ :=
    @drives_waiting world' order' id hworld' (.reply "yes")
      (fun run => run.innermost.leaves world'.flow (.reply "yes") "name" &&
        decide (run.Intact world'.flow world'.bounds.settings) && run.nested.length == 2)
      rfl (by decide +kernel)
  simp only [Bool.and_eq_true, decide_eq_true_eq, beq_iff_eq] at htest htest'
  obtain ⟨⟨hasks, hintact⟩, hlength⟩ := htest
  obtain ⟨⟨hother, hintact'⟩, hlength'⟩ := htest'
  have hreplies : world.Replies order leg "name" " \x7b\x7bvip\x7d\x7d " :=
    ⟨hdrives, by rw [hphase]; rfl, Level.menu_of_asksFor hasks _, hintact⟩
  have hspares : world'.Spares leg.run.id "name" order' := by
    rw [hid]
    exact @spares_of_wakeup world' order' id (.reply "yes") leg'.run "name" rfl hstored'
      (Level.unwritten_of_leaves hother) hintact'
  have hquotes := ((((replies_are_quoted hname).2 {} ⟨0, 0⟩ _ _ _ {} _ ⟨1, 0⟩ order leg
    " \x7b\x7bvip\x7d\x7d " hproper).1 hreplies).2 [] ⟨2, 0⟩ order' leg' (by simp) trivial
    hspares hdrives' (hid'.trans hid.symm))
  exact ⟨hname, leg, leg', hreplies, hlength, hspares, hdrives', hlength', hquotes,
    by decide +kernel⟩

/-- The flow of the question is replaced while the run waits in a flow below it.  It is run to its
end, and no other answer is written in the variable, but the answer is not sent. -/
theorem reply_is_not_quoted :
    let id : Identifier := ⟨sampleGreeting.supply.firstRun⟩
    let order : Order := .resume id (.reply " ann ")
    let order' : Order := .resume id (.reply "yes")
    let world := (sampleGreeting.after
      [(⟨0, 0⟩, .start { flow := "outer", contactId := "ann" })]).atTime ⟨1, 0⟩
    let world' := ((world.carryOut order).after
      [(⟨2, 0⟩, .define (.thanking "inner")), (⟨2, 0⟩, .invalidate "inner")]).atTime ⟨3, 0⟩
    (∃ leg, world.Replies order leg "name" " ann ") ∧
      (∃ leg, world'.Drives order' leg ∧
        leg.run.innermost.vars.get? "name" = some (.string (Text.trim " ann ")) ∧
        ∀ answer, leg.run.innermost.written? world'.flow leg.phase.payload ≠
          some ("name", answer)) ∧
      ((world'.carryOut order').store.find? id).any (·.hasRun "inner") = true ∧
      (world'.carryOut order').sentMessages =
        [("ann", ⟨.text, "hi ", none⟩), ("ann", ⟨.text, "thanks", none⟩)] ∧
      "hi " ≠ "hi " ++ Text.trim " ann " ++ "" := by
  intro id order order' world world'
  have hworld : world.Ready := (ready_after (ready_opened {} ⟨0, 0⟩ _ _ _ {}) _).atTime _
  have hworld' : world'.Ready := (ready_after (hworld.carryOut order) _).atTime _
  obtain ⟨leg, graph, hdrives, -, -, hphase, htest⟩ := @drives_waiting world order id hworld
    (.reply " ann ")
    (fun run => run.innermost.asksFor world.flow "name" &&
      decide (run.Intact world.flow world.bounds.settings))
    rfl (by decide +kernel)
  obtain ⟨leg', graph', hdrives', -, -, hphase', htest'⟩ :=
    @drives_waiting world' order' id hworld' (.reply "yes")
      (fun run => run.innermost.leaves world'.flow (.reply "yes") "name" &&
        run.holdsText "name" (Text.trim " ann "))
      rfl (by decide +kernel)
  simp only [Bool.and_eq_true, decide_eq_true_eq] at htest htest'
  refine ⟨⟨leg, hdrives, by rw [hphase]; rfl, Level.menu_of_asksFor htest.1 _, htest.2⟩,
    ⟨leg', hdrives', Run.get?_of_holdsText htest'.2, ?_⟩, by decide +kernel, by decide +kernel,
    by decide +kernel⟩
  intro answer
  rw [hphase']
  exact Level.unwritten_of_leaves htest'.1 answer

end World

end Dialogue
