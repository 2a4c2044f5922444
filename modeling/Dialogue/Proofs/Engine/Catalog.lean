import Dialogue.Proofs.Catalog
import Dialogue.Proofs.Engine.Drives
import Dialogue.Proofs.Engine.Numbering
import Dialogue.Proofs.Engine.Transcript

/-!
# The catalog of a world

Whatever is ordered of the engine, its catalog is used in three ways only: an order
puts a definition into the source, or an operation gets a flow, to start a run, to
resume one or to nest one, or it forgets one.  All of it is kept in a record, so
that what a catalog serves can be told from the record.  A run that is driven, and
every run nested in it that begins or is resumed on the way, is driven on the graph
that the catalog serves.
-/

namespace Dialogue

namespace Interaction

variable {Q : Type} {A : Q → Type} {α σ : Type}

/-- What a computation asks for and is answered, until a request is not answered. -/
def answered (answer : (q : Q) → σ → Option (A q) × σ) :
    Interaction Q A α → σ → List ((q : Q) × A q)
  | done _, _ => []
  | ask q next, s =>
    match answer q s with
    | (some a, s) => ⟨q, a⟩ :: (next a).answered answer s
    | (none, _) => []

end Interaction

/-- What may concern the catalog of a world: a request with its answer, or a definition that is put
into its source. -/
inductive Deal where
  | request (exchange : Exchange)
  | define (flow : Flow)

namespace Deal

/-- What a request does with a catalog. -/
def moveOf? : Request → Option Catalog.Move
  | .call (.flow id) => some (.get id)
  | .forget id => some (.forget id)
  | _ => none

/-- What is done with the catalog. -/
def move? : Deal → Option Catalog.Move
  | request exchange => moveOf? exchange.1
  | define flow => some (.define flow)

/-- What is done with the catalog on a record. -/
def moves (record : List Deal) : List Catalog.Move := record.filterMap move?

/-- Flows are got from a catalog, and forgotten, as the catalog has it. -/
structure Fits (registry : Registry) (catalog : Catalog) (deal : Deal) : Prop where
  got : ∀ id answer, deal = request ⟨.call (.flow id), answer⟩ →
    answer = (catalog.get registry id).1
  forgot : ∀ id answer, deal = request ⟨.forget id, answer⟩ → answer = (catalog.forget id).1

/-- On a record everything fits the catalog as it is by then, from one catalog to another one. -/
inductive Leads (registry : Registry) : Catalog → List Deal → Catalog → Prop
  | nil {catalog} : Leads registry catalog [] catalog
  | cons {catalog catalog' deal record} (fits : deal.Fits registry catalog)
      (rest : Leads registry ((moves [deal]).foldl (Catalog.move registry) catalog) record
        catalog') :
      Leads registry catalog (deal :: record) catalog'

variable {registry : Registry} {catalog catalog' catalog'' : Catalog} {deal : Deal}
  {record more past future : List Deal}

theorem moves_append (record more : List Deal) :
    moves (record ++ more) = moves record ++ moves more := List.filterMap_append

theorem Leads.append (h : Leads registry catalog record catalog')
    (h' : Leads registry catalog' more catalog'') :
    Leads registry catalog (record ++ more) catalog'' := by
  induction h with
  | nil => exact h'
  | cons fits rest ih => exact .cons fits (ih h')

/-- A record leads to the catalog after all its moves. -/
theorem Leads.eq (h : Leads registry catalog record catalog') :
    catalog' = (moves record).foldl (Catalog.move registry) catalog := by
  induction h with
  | nil => rfl
  | cons fits rest ih =>
      rw [← List.singleton_append, moves_append, List.foldl_append]
      exact ih

/-- Everything on a record fits the catalog after the moves before it. -/
theorem Leads.fits (h : Leads registry catalog (past ++ deal :: future) catalog') :
    deal.Fits registry ((moves past).foldl (Catalog.move registry) catalog) := by
  induction past generalizing catalog with
  | nil =>
      cases h with
      | cons fits rest => exact fits
  | cons first past ih =>
      cases h with
      | cons fits rest =>
          rw [← List.singleton_append, moves_append, List.foldl_append]
          exact ih rest

end Deal

/-- The operation that an order comes to, or the definition that it puts into the source. -/
def Order.operation (bounds : Bounds) : Order → Flow ⊕ (α : Type) × Operating α
  | .start request => .inr ⟨_, Engine.start bounds request⟩
  | .resume run event => .inr ⟨_, Engine.resume bounds run event⟩
  | .cancel run => .inr ⟨_, Engine.cancel bounds run⟩
  | .expire run => .inr ⟨_, Engine.expire bounds run⟩
  | .expireDue time => .inr ⟨_, Engine.expireDue bounds time⟩
  | .fire firing => .inr ⟨_, Engine.handleFiring bounds firing⟩
  | .recover => .inr ⟨_, Engine.recover⟩
  | .invalidate flow => .inr ⟨_, Engine.invalidateFlow flow⟩
  | .define flow => .inl flow

namespace World

variable {world : World} {order : Order} {α : Type}

/-- What an order may do with the catalog. -/
def dealings (world : World) (order : Order) : List Deal :=
  match order.operation world.bounds with
  | .inr ⟨_, operation⟩ => (operation.answered (answer 0) world).map .request
  | .inl flow => [.define flow]

/-- What orders may do with the catalog, one after the other. -/
def record (world : World) : List (Instant × Order) → List Deal
  | [] => []
  | order :: rest =>
    (world.atTime order.1).dealings order.2 ++
      ((world.atTime order.1).carryOut order.2).record rest

/-- An order that comes to an operation is carried out by letting it proceed. -/
theorem carryOut_operation {operation : Operating α}
    (h : order.operation world.bounds = .inr ⟨α, operation⟩) :
    world.carryOut order = (world.proceed 0 operation).2 := by
  cases order <;> cases h <;> rfl

/-- A request concerns the catalog only if it gets a flow or forgets one. -/
theorem catalog_answer (who : Ticket) {q : Request} (h : Deal.moveOf? q = none) :
    (world.answer who q).2.catalog = world.catalog := by
  cases q with
  | call call =>
      cases call with
      | flow id => cases h
      | send contactId message =>
          unfold answer answerCall
          dsimp only
          split <;> rfl
      | _ => rfl
  | tryLock key =>
      unfold answer
      dsimp only
      split <;> rfl
  | forget id => cases h
  | _ => rfl

/-- No request that concerns the catalog has to wait. -/
theorem moveOf?_of_blocked {who : Ticket} {q : Request} (h : (world.answer who q).1 = none) :
    Deal.moveOf? q = none := by
  unfold Deal.moveOf?
  split
  · cases h
  · cases h
  · rfl

theorem registry_answer (who : Ticket) (q : Request) :
    (world.answer who q).2.registry = world.registry := by
  cases q with
  | call call =>
      cases call with
      | send contactId message =>
          unfold answer answerCall
          dsimp only
          split <;> rfl
      | _ => rfl
  | tryLock key =>
      unfold answer
      dsimp only
      split <;> rfl
  | _ => rfl

/-- A request that is answered fits the catalog, and does with it what it says. -/
theorem leads_answer (who : Ticket) (q : Request) {reply : q.Answer}
    (h : (world.answer who q).1 = some reply) :
    Deal.Leads world.registry world.catalog [.request ⟨q, reply⟩]
      (world.answer who q).2.catalog := by
  by_cases hmove : Deal.moveOf? q = none
  · have hmoves : Deal.moves [.request ⟨q, reply⟩] = [] := List.filterMap_cons_none hmove
    have hleads : Deal.Leads world.registry world.catalog [.request ⟨q, reply⟩]
        ((Deal.moves [.request ⟨q, reply⟩]).foldl (Catalog.move world.registry) world.catalog) := by
      refine .cons ⟨?_, ?_⟩ .nil
      · intro id answer hdeal
        injection hdeal with hdeal
        obtain rfl := congrArg Sigma.fst hdeal
        cases hmove
      · intro id answer hdeal
        injection hdeal with hdeal
        obtain rfl := congrArg Sigma.fst hdeal
        cases hmove
    rw [hmoves] at hleads
    rw [catalog_answer who hmove]
    exact hleads
  · unfold Deal.moveOf? at hmove
    split at hmove
    · next id =>
      obtain rfl := Option.some.inj h
      refine .cons ⟨?_, nofun⟩ .nil
      rintro other answer hdeal
      cases hdeal
      rfl
    · next id =>
      obtain rfl := Option.some.inj h
      refine .cons ⟨nofun, ?_⟩ .nil
      rintro other answer hdeal
      cases hdeal
      rfl
    · exact absurd rfl hmove

/-- What an operation is answered on its way fits the catalog. -/
theorem leads_proceed (world : World) (who : Ticket) (operation : Operating α) :
    Deal.Leads world.registry world.catalog
        ((operation.answered (answer who) world).map .request)
        (world.proceed who operation).2.catalog ∧
      (world.proceed who operation).2.registry = world.registry := by
  induction operation generalizing world with
  | done value => exact ⟨.nil, rfl⟩
  | ask q next ih =>
      have hregistry := world.registry_answer who q
      unfold proceed Interaction.answered Interaction.runUntilBlocked
      rcases hanswer : world.answer who q with ⟨_ | reply, after⟩
      · have hcatalog := world.catalog_answer who (moveOf?_of_blocked (congrArg Prod.fst hanswer))
        rw [hanswer] at hregistry hcatalog
        refine ⟨?_, hregistry⟩
        change Deal.Leads world.registry world.catalog [] after.catalog
        rw [hcatalog]
        exact .nil
      · have hfirst := leads_answer who q (congrArg Prod.fst hanswer)
        rw [hanswer] at hregistry hfirst
        obtain ⟨hrest, hkept⟩ := ih reply after
        rw [hregistry] at hrest
        exact ⟨hfirst.append hrest, hkept.trans hregistry⟩

/-- What may be done with the catalog while an order is carried out fits the catalog. -/
theorem leads_carryOut (world : World) (order : Order) :
    Deal.Leads world.registry world.catalog (world.dealings order)
        (world.carryOut order).catalog ∧
      (world.carryOut order).registry = world.registry := by
  unfold dealings
  cases hoperation : order.operation world.bounds with
  | inr operation =>
      rw [carryOut_operation hoperation]
      exact world.leads_proceed 0 operation.2
  | inl flow =>
      cases order with
      | define other =>
          cases hoperation
          exact ⟨.cons ⟨nofun, nofun⟩ .nil, rfl⟩
      | _ => cases hoperation

/-- The record of orders fits the catalog all along. -/
theorem leads_after (world : World) (orders : List (Instant × Order)) :
    Deal.Leads world.registry world.catalog (world.record orders)
        (world.after orders).catalog ∧
      (world.after orders).registry = world.registry := by
  induction orders generalizing world with
  | nil => exact ⟨.nil, rfl⟩
  | cons order rest ih =>
      obtain ⟨hfirst, hregistry⟩ := (world.atTime order.1).leads_carryOut order.2
      obtain ⟨hrest, hkept⟩ := ih ((world.atTime order.1).carryOut order.2)
      rw [hregistry] at hrest
      exact ⟨hfirst.append hrest, hkept.trans hregistry⟩

end World

/-! ## The graphs that runs are driven on -/

namespace Drive

variable {bounds : Bounds} {flows : Flows} {whole part first second host lower : Leg}
  {outer : List Run} {waiting : Run}

/-- A stretch of a drive in a world with these flows; if it is the drive of a level, the level is
driven on the graph of its flow. -/
structure Leg.OnGraph (flows : Flows) (leg : Leg) : Prop where
  flow : leg.world.flow = flows
  graph : ∀ graph payload, leg.phase = .level graph payload → flows leg.run.flow = .ok graph

theorem Leg.Then.onGraph (h : first.Then bounds second) (hfirst : first.OnGraph flows) :
    second.OnGraph flows := by
  refine ⟨h.later.flow.trans hfirst.flow, ?_⟩
  -- What a stretch goes on with is not the drive of a whole level.
  cases h <;> nofun

theorem Leg.Hosts.onGraph (h : host.Hosts bounds waiting lower) (hhost : host.OnGraph flows) :
    lower.OnGraph flows := by
  have hflow := hhost.flow
  refine ⟨h.later.flow.trans hflow, ?_⟩
  intro graph payload hphase
  cases h with
  | nest hnode hsub hdepth hlook rest =>
      cases hphase
      rw [← hflow]
      exact hlook
  | pass hnode hsub hnested hlook rest =>
      cases hphase
      rw [← hflow]
      exact hlook

/-- Whatever is driven within a drive on the graph of its flow is driven on the graph of its own
flow. -/
theorem Part.onGraph (h : Part bounds whole outer part) (hwhole : whole.OnGraph flows) :
    part.OnGraph flows := by
  induction h with
  | whole goes => exact hwhole
  | after next rest ih => exact ih (next.onGraph hwhole)
  | within hosts rest ih => exact ih (hosts.onGraph hwhole)

end Drive

namespace World

variable {world : World} {order : Order} {leg : Drive.Leg}

/-- An order drives its run on the graph of its flow. -/
theorem Drives.onGraph (h : world.Drives order leg) : leg.OnGraph world.flow := by
  cases h with
  | begin look place course done =>
      have hstill := still_of_look look
      refine ⟨hstill.flow, ?_⟩
      intro graph payload hphase
      cases hphase
      exact flow_of_look look
  | resume wakes stored accepted timely look course done =>
      have hstill := still_of_look look
      refine ⟨hstill.flow, ?_⟩
      intro graph payload hphase
      cases hphase
      exact flow_of_look look

/-- What the catalog of a world serves is told by the record of the orders since its opening. -/
structure ServesByRecord (world : World) (flows : List Flow) (orders : List (Instant × Order)) :
    Prop where
  /-- Whoever gets a flow gets it from the catalog after all that is on the record before. -/
  got : ∀ past id answer future,
    world.record orders = past ++ .request ⟨.call (.flow id), answer⟩ :: future →
    answer = ((Catalog.after world.registry flows (Deal.moves past)).get world.registry id).1
  /-- Whoever forgets a flow is told whether it was loaded by then. -/
  forgot : ∀ past id answer future,
    world.record orders = past ++ .request ⟨.forget id, answer⟩ :: future →
    answer = ((Catalog.after world.registry flows (Deal.moves past)).forget id).1
  /-- Every run that is started, resumed or nested next is driven on the graph that is served. -/
  drives : ∀ now order leg, ((world.after orders).atTime now).Drives order leg →
    ∀ outer part graph payload, Drive.Part ((world.after orders).atTime now).bounds leg outer part →
      part.phase = .level graph payload →
      ((Catalog.after world.registry flows (Deal.moves (world.record orders))).get
        world.registry part.run.flow).1 = .ok graph

/-- A catalog serves one version of a flow until it is told otherwise: the one that the source held
when the flow was first got with success since it was last forgotten.  Every order to an engine
uses the catalog so, whoever gets or forgets flows on its way. -/
theorem catalog_serves_one_version (flows : List Flow) :
    (∀ registry moves id, Catalog.Serves registry flows moves id) ∧
      ∀ (world : World) (orders : List (Instant × Order)),
        ServesByRecord { world with catalog := .ofFlows flows } flows orders := by
  refine ⟨fun registry moves id => Catalog.serves registry flows moves id, fun world orders => ?_⟩
  obtain ⟨hleads, hregistry⟩ := leads_after { world with catalog := .ofFlows flows } orders
  have hcatalog := hleads.eq
  refine ⟨?_, ?_, ?_⟩
  · intro past id answer future hrecord
    rw [hrecord] at hleads
    exact hleads.fits.got id answer rfl
  · intro past id answer future hrecord
    rw [hrecord] at hleads
    exact hleads.fits.forgot id answer rfl
  · intro now order leg hdrives outer part graph payload hpart hphase
    have hserved := (hpart.onGraph hdrives.onGraph).graph graph payload hphase
    rw [← hserved]
    unfold Catalog.after World.flow World.look
    dsimp only [atTime]
    rw [← hcatalog, hregistry]

/-- A flow is defined anew after a run was nested in it: the next run is nested in the flow as it
was first served, and waits there for a reply. -/
theorem catalog_serves_one_version_sample :
    let orders : List (Instant × Order) :=
      [(⟨0, 0⟩, .start { flow := "outer", contactId := "ann" }),
        (⟨1, 0⟩, .define (.passing "inner"))]
    let world := (sample.after orders).atTime ⟨2, 0⟩
    let next : Order := .start { flow := "outer", contactId := "bob" }
    ∃ graph leg, Graph.load .standard (.asking "inner") = .ok graph ∧ world.Drives next leg ∧
      leg.run'.nested.map Level.node = ["ask"] ∧
      ∀ outer part graph' payload, Drive.Part world.bounds leg outer part →
        part.phase = .level graph' payload → part.run.flow = "inner" → graph' = graph := by
  intro orders world next
  let flows : List Flow := [.calling "outer" "inner", .asking "inner"]
  have hmoves : Deal.moves (sample.record orders) =
      [.get "outer", .get "inner", .define (.passing "inner")] := by rfl
  have hloads : (Graph.load .standard (.asking "inner")).toOption.isSome = true := by
    decide +kernel
  have hplace : (world.flow "outer").toOption.any (fun graph =>
      (Engine.startNode graph { flow := "outer", contactId := "bob" }).toOption.isSome) = true := by
    decide +kernel
  have hstored : (world.carryOut next).store.runs.all
      (fun run => decide (run.nested.map Level.node = ["ask"])) = true := by
    decide +kernel
  obtain ⟨graph, hgraph⟩ : ∃ graph, Graph.load .standard (.asking "inner") = .ok graph := by
    cases hload : Graph.load .standard (.asking "inner") with
    | error e => simp [hload, Except.toOption] at hloads
    | ok graph => exact ⟨graph, rfl⟩
  obtain ⟨leg, hdrives⟩ : ∃ leg, world.Drives next leg :=
    drives_of_loads ((ready_after (ready_opened ..) _).atTime _) hplace
  have hserved : Catalog.FirstServed .standard flows
      [.get "outer", .get "inner", .define (.passing "inner")] "inner" graph := by
    refine ⟨[.get "outer"], [.define (.passing "inner")], rfl, by simp, ?_, ?_⟩
    · have hheld : Catalog.held flows [.get "outer"] "inner" = some (.asking "inner") := by rfl
      rw [hheld, Catalog.graphOf, hgraph]
      rfl
    · intro before since hsplit
      cases before <;> simp at hsplit
  obtain ⟨hserves, hrecord⟩ := catalog_serves_one_version flows
  have hrun : (world.carryOut next).store.find? leg.run'.id = some leg.run' := by
    rw [hdrives.done, store_persist, if_pos rfl]
  refine ⟨graph, leg, hgraph, hdrives,
    of_decide_eq_true (List.all_eq_true.mp hstored leg.run' (Store.mem_of_find? hrun)), ?_⟩
  intro outer part graph' payload hpart hphase hflow
  have hgot : ((Catalog.after .standard flows
      [.get "outer", .get "inner", .define (.passing "inner")]).get .standard "inner").1 =
        .ok graph' := by
    rw [← hmoves, ← hflow]
    exact (hrecord sample orders).drives ⟨2, 0⟩ next leg hdrives outer part graph' payload hpart
      hphase
  exact Except.ok.inj (hgot.symm.trans ((hserves .standard _ "inner").first graph hserved))

/-- A start gets the flow of its run, and then the flow that is run in it. -/
example : (Deal.moves (sample.record [(⟨0, 0⟩, .start { flow := "outer", contactId := "ann" })]))
    = [.get "outer", .get "inner"] := by rfl

end World

end Dialogue
