import Mathlib.Data.List.Induction
import Dialogue.Proofs.Basic
import Dialogue.Proofs.World.Acting
import Dialogue.Proofs.Stored.Record

/-!
# What a catalog serves

Definitions are put into the source of a catalog, flows are got from it and
forgotten, in any order.  Which flow is loaded depends on the past of its own name
alone: it is the one that the source held when the flow was first got with success
since it was last forgotten.
-/

namespace Dialogue.Catalog

/-- What can be done with a catalog and its source. -/
inductive Move where
  /-- Put a definition into the source. -/
  | define (flow : Flow)
  | get (id : FlowId)
  | forget (id : FlowId)

/-- The definition that a move puts into the source. -/
def Move.definition? : Move → Option Flow
  | .define flow => some flow
  | _ => none

variable (registry : Registry) (flows : List Flow)

/-- A catalog after a move. -/
def move (catalog : Catalog) : Move → Catalog
  | .define flow => catalog.define flow
  | .get id => (catalog.get registry id).2
  | .forget id => (catalog.forget id).2

/-- A catalog of definitions after moves. -/
def after (moves : List Move) : Catalog := moves.foldl (move registry) (ofFlows flows)

/-- The definition that the source of a catalog holds after moves: the last one of its name. -/
def held (moves : List Move) (id : FlowId) : Option Flow :=
  (flows ++ moves.filterMap Move.definition?).reverse.find? fun flow => flow.id = id

/-- The graph of what a source holds under a name. -/
def graphOf (id : FlowId) : Option Flow → Except FlowError Graph
  | none => .error (.flowNotFound id)
  | some flow => (Graph.load registry flow).mapError .definition

/-- A flow was got after some moves and its graph could be loaded then, as at no time before since
it was last forgotten; and it was not forgotten after that. -/
def FirstServed (moves : List Move) (id : FlowId) (graph : Graph) : Prop :=
  ∃ earlier later, moves = earlier ++ .get id :: later ∧ .forget id ∉ later ∧
    graphOf registry id (held flows earlier id) = .ok graph ∧
    ∀ before since, earlier = before ++ .get id :: since → .forget id ∉ since →
      ∃ e, graphOf registry id (held flows before id) = .error e

variable {registry flows} {moves : List Move} {id : FlowId} {graph : Graph}

theorem after_snoc (m : Move) :
    after registry flows (moves ++ [m]) = (after registry flows moves).move registry m := by
  unfold after
  rw [List.foldl_append, List.foldl_cons, List.foldl_nil]

/-! ## The definitions -/

/-- A definition is held in the place of all before it of its name. -/
theorem held_define (flow : Flow) :
    held flows (moves ++ [.define flow]) id =
      if id = flow.id then some flow else held flows moves id := by
  have hmoves : (moves ++ [Move.define flow]).filterMap Move.definition? =
      moves.filterMap Move.definition? ++ [flow] := List.filterMap_append
  unfold held
  rw [hmoves, ← List.append_assoc, List.reverse_append, List.reverse_singleton,
    List.singleton_append, List.find?_cons]
  by_cases hid : id = flow.id
  · rw [if_pos hid, decide_eq_true hid.symm]
  · rw [if_neg hid, decide_eq_false fun h => hid h.symm]

/-- What is no definition leaves the source as it is. -/
theorem held_of_definition?_eq_none {m : Move} (h : m.definition? = none) :
    held flows (moves ++ [m]) id = held flows moves id := by
  have hmoves : (moves ++ [m]).filterMap Move.definition? =
      moves.filterMap Move.definition? := by
    rw [List.filterMap_append, List.filterMap_cons_none h, List.filterMap_nil, List.append_nil]
  unfold held
  rw [hmoves]

theorem get?_ofFlows (flows : List Flow) (id : FlowId) :
    (ofFlows flows).definitions.get? id = flows.reverse.find? fun flow => flow.id = id := by
  unfold ofFlows
  rw [Fields.get?_ofList, ← List.map_reverse]
  induction flows.reverse with
  | nil => rfl
  | cons flow rest ih =>
      rw [List.map_cons, Fields.get?_cons, ih, List.find?_cons]
      by_cases hid : id = flow.id
      · rw [if_pos hid, decide_eq_true hid.symm]
      · rw [if_neg hid, decide_eq_false fun h => hid h.symm]

/-- A catalog has the definitions that its source holds. -/
theorem definitions_after (registry : Registry) (flows : List Flow) (moves : List Move)
    (id : FlowId) :
    (after registry flows moves).definitions.get? id = held flows moves id := by
  induction moves using List.reverseRecOn with
  | nil =>
      unfold held
      rw [List.filterMap_nil, List.append_nil]
      exact get?_ofFlows flows id
  | append_singleton moves m ih =>
      rw [after_snoc]
      cases m with
      | define flow => rw [held_define, ← ih]; exact Fields.get?_insert _ _ _ _
      | get other =>
          rw [held_of_definition?_eq_none rfl, ← ih]
          exact congrArg (Fields.get? · id) (get_definitions _ registry other)
      | forget other => rw [held_of_definition?_eq_none rfl, ← ih]; rfl

/-- Loading a flow takes what the source holds. -/
theorem load_after (registry : Registry) (flows : List Flow) (moves : List Move) (id : FlowId) :
    (after registry flows moves).load registry id = graphOf registry id (held flows moves id) := by
  unfold load
  rw [definitions_after]
  rfl

/-! ## The loaded flows -/

theorem loaded_get (catalog : Catalog) (registry : Registry) (id other : FlowId) :
    (catalog.get registry id).2.loaded.get? other =
      if other = id then (catalog.get registry id).1.toOption else catalog.loaded.get? other := by
  unfold get
  by_cases hother : other = id
  · subst hother
    rw [if_pos rfl]
    cases hloaded : catalog.loaded.get? other with
    | some graph => exact hloaded
    | none =>
        cases catalog.load registry other with
        | error e => exact hloaded
        | ok graph => exact (Fields.get?_insert _ _ _ _).trans (if_pos rfl)
  · rw [if_neg hother]
    cases catalog.loaded.get? id with
    | some graph => rfl
    | none =>
        cases catalog.load registry id with
        | error e => rfl
        | ok graph => exact (Fields.get?_insert _ _ _ _).trans (if_neg hother)

theorem loaded_forget (catalog : Catalog) (id other : FlowId) :
    (catalog.forget id).2.loaded.get? other =
      if other = id then none else catalog.loaded.get? other := by
  have hfilter : catalog.loaded.filter (·.1 != id) =
      catalog.loaded.filter fun field => field.1 ≠ id := by
    apply List.filter_congr
    intro field _
    by_cases hfield : field.1 = id <;> simp [hfield]
  rw [← Fields.get?_filter_ne, ← hfilter]
  rfl

/-! ## Who is served first -/

section

variable {m : Move}

/-- What is served goes on to be served if it is not forgotten. -/
theorem FirstServed.append (h : FirstServed registry flows moves id graph) (hm : m ≠ .forget id) :
    FirstServed registry flows (moves ++ [m]) id graph := by
  obtain ⟨earlier, later, rfl, hkept, hloads, hfirst⟩ := h
  refine ⟨earlier, later ++ [m], by rw [List.append_assoc, List.cons_append], ?_, hloads, hfirst⟩
  rw [List.mem_append, List.mem_singleton, not_or]
  exact ⟨hkept, Ne.symm hm⟩

/-- A flow that was served after a move was served before it, unless the move has got it. -/
theorem FirstServed.of_append (h : FirstServed registry flows (moves ++ [m]) id graph) :
    m ≠ .forget id ∧ (FirstServed registry flows moves id graph ∨
      m = .get id ∧ graphOf registry id (held flows moves id) = .ok graph ∧
        ∀ before since, moves = before ++ .get id :: since → .forget id ∉ since →
          ∃ e, graphOf registry id (held flows before id) = .error e) := by
  obtain ⟨earlier, later, hmoves, hkept, hloads, hfirst⟩ := h
  rcases split_snoc hmoves with ⟨rfl, rfl, -⟩ | ⟨rest, rfl, rfl⟩
  · exact ⟨nofun, .inr ⟨rfl, hloads, hfirst⟩⟩
  · rw [List.mem_append, List.mem_singleton, not_or] at hkept
    exact ⟨Ne.symm hkept.2, .inl ⟨earlier, rest, rfl, hkept.1, hloads, hfirst⟩⟩

/-- If a flow could be loaded when it was got, and was not forgotten since, one is served. -/
theorem exists_firstServed {before since : List Move} (hmoves : moves = before ++ .get id :: since)
    (hkept : .forget id ∉ since)
    (hloads : graphOf registry id (held flows before id) = .ok graph) :
    ∃ first, FirstServed registry flows moves id first := by
  -- The first such time is found from any of them by going back.
  induction hlength : before.length using Nat.strongRecOn generalizing before since graph with
  | ind length ih =>
      by_cases hfirst : ∀ earlier between, before = earlier ++ .get id :: between →
          .forget id ∉ between → ∃ e, graphOf registry id (held flows earlier id) = .error e
      · exact ⟨graph, before, since, hmoves, hkept, hloads, hfirst⟩
      · push Not at hfirst
        obtain ⟨earlier, between, rfl, hbetween, hearlier⟩ := hfirst
        cases hgraph : graphOf registry id (held flows earlier id) with
        | error e => exact absurd hgraph (hearlier e)
        | ok other =>
            rw [List.append_assoc, List.cons_append] at hmoves
            refine ih earlier.length ?_ hmoves ?_ hgraph rfl
            · rw [← hlength, List.length_append, List.length_cons]
              omega
            · rw [List.mem_append, List.mem_cons, not_or, not_or]
              exact ⟨hbetween, nofun, hkept⟩

/-- A move that neither gets nor forgets a flow serves nobody with it. -/
theorem firstServed_snoc_iff (hforget : m ≠ .forget id) (hget : m ≠ .get id) :
    FirstServed registry flows (moves ++ [m]) id graph ↔
      FirstServed registry flows moves id graph := by
  constructor
  · intro h
    rcases h.of_append.2 with h | ⟨rfl, -⟩
    · exact h
    · exact absurd rfl hget
  · intro h
    exact h.append hforget

/-- Getting a flow serves the one that was served before, or what the source holds. -/
theorem firstServed_get_iff :
    FirstServed registry flows (moves ++ [.get id]) id graph ↔
      FirstServed registry flows moves id graph ∨
        (∀ first, ¬FirstServed registry flows moves id first) ∧
          graphOf registry id (held flows moves id) = .ok graph := by
  constructor
  · intro h
    rcases h.of_append.2 with h | ⟨-, hloads, hfirst⟩
    · exact .inl h
    · refine .inr ⟨?_, hloads⟩
      rintro first ⟨earlier, later, hmoves, hkept, hearlier, -⟩
      obtain ⟨e, herror⟩ := hfirst earlier later hmoves hkept
      rw [hearlier] at herror
      cases herror
  · rintro (h | ⟨hnone, hloads⟩)
    · exact h.append nofun
    · refine ⟨moves, [], rfl, List.not_mem_nil, hloads, ?_⟩
      intro before since hmoves hkept
      cases hgraph : graphOf registry id (held flows before id) with
      | error e => exact ⟨e, rfl⟩
      | ok other =>
          obtain ⟨first, hfirst⟩ := exists_firstServed hmoves hkept hgraph
          exact absurd hfirst (hnone first)

end

/-- What is got is the flow that was loaded, or that of the source where none was. -/
theorem toOption_get_iff {catalog : Catalog}
    (hloaded : ∀ graph, catalog.loaded.get? id = some graph ↔
      FirstServed registry flows moves id graph)
    (hload : catalog.load registry id = graphOf registry id (held flows moves id)) :
    (catalog.get registry id).1.toOption = some graph ↔
      FirstServed registry flows (moves ++ [.get id]) id graph := by
  rw [toOption_eq_some_iff, firstServed_get_iff, get_fst]
  cases hfound : catalog.loaded.get? id with
  | some first =>
      have hserved := (hloaded first).mp hfound
      constructor
      · intro h
        obtain rfl := Except.ok.inj h
        exact .inl hserved
      · rintro (h | ⟨hnone, -⟩)
        · rw [hloaded graph |>.mpr h] at hfound
          obtain rfl := Option.some.inj hfound
          rfl
        · exact absurd hserved (hnone first)
  | none =>
      have hnone (first : Graph) : ¬FirstServed registry flows moves id first := by
        intro h
        rw [(hloaded first).mpr h] at hfound
        cases hfound
      constructor
      · intro h
        exact .inr ⟨hnone, hload.symm.trans h⟩
      · rintro (h | ⟨-, h⟩)
        · exact absurd h (hnone graph)
        · exact hload.trans h

/-- A catalog has loaded a flow exactly if that is the one served first. -/
theorem loaded_after (registry : Registry) (flows : List Flow) (moves : List Move) (id : FlowId)
    (graph : Graph) :
    (after registry flows moves).loaded.get? id = some graph ↔
      FirstServed registry flows moves id graph := by
  induction moves using List.reverseRecOn generalizing graph with
  | nil =>
      constructor
      · intro h
        cases h
      · rintro ⟨earlier, later, hmoves, -⟩
        simp at hmoves
  | append_singleton moves m ih =>
      rw [after_snoc]
      cases m with
      | define flow =>
          have hforget : Move.define flow ≠ .forget id := nofun
          have hget : Move.define flow ≠ .get id := nofun
          rw [firstServed_snoc_iff hforget hget, ← ih]
          rfl
      | get other =>
          rw [move, loaded_get]
          by_cases hid : id = other
          · subst hid
            rw [if_pos rfl]
            exact toOption_get_iff ih (load_after registry flows moves id)
          · have hforget : Move.get other ≠ .forget id := nofun
            have hget : Move.get other ≠ .get id := by simpa using Ne.symm hid
            rw [if_neg hid, firstServed_snoc_iff hforget hget, ih]
      | forget other =>
          rw [move, loaded_forget]
          by_cases hid : id = other
          · subst hid
            rw [if_pos rfl]
            constructor
            · intro h
              cases h
            · intro h
              exact absurd rfl h.of_append.1
          · have hforget : Move.forget other ≠ .forget id := by simpa using Ne.symm hid
            have hget : Move.forget other ≠ .get id := nofun
            rw [if_neg hid, firstServed_snoc_iff hforget hget, ih]

/-! ## What is got -/

/-- What a catalog of definitions gives under a name after moves. -/
structure Serves (registry : Registry) (flows : List Flow) (moves : List Move) (id : FlowId) :
    Prop where
  /-- What was served first is served again. -/
  first : ∀ graph, FirstServed registry flows moves id graph →
    ((after registry flows moves).get registry id).1 = .ok graph
  /-- Where nothing is served yet, it is what the source holds. -/
  fresh : (∀ graph, ¬FirstServed registry flows moves id graph) →
    ((after registry flows moves).get registry id).1 = graphOf registry id (held flows moves id)
  /-- While a flow is served, another definition changes nothing. -/
  define : ∀ flow graph, FirstServed registry flows moves id graph →
    (((after registry flows moves).define flow).get registry id).1 = .ok graph
  /-- What fails is not kept: it leaves the catalog as it was. -/
  fails : ∀ e, ((after registry flows moves).get registry id).1 = .error e →
    ((after registry flows moves).get registry id).2 = after registry flows moves
  /-- After a failure the next try is about what the source holds by then. -/
  afresh : ∀ e, ((after registry flows moves).get registry id).1 = .error e →
    ∀ more, .get id ∉ more →
      ((after registry flows (moves ++ .get id :: more)).get registry id).1 =
        graphOf registry id (held flows (moves ++ .get id :: more) id)
  /-- Whether a flow was loaded is what forgetting it answers. -/
  forgets : ((after registry flows moves).forget id).1 = true ↔
    ∃ graph, FirstServed registry flows moves id graph
  /-- Forgetting a flow concerns no other one. -/
  others : ∀ other, other ≠ id →
    (((after registry flows moves).forget id).2.get registry other).1 =
      ((after registry flows moves).get registry other).1

theorem get_of_loaded {catalog : Catalog} (h : catalog.loaded.get? id = some graph) :
    (catalog.get registry id).1 = .ok graph := by
  rw [get_fst, h]

/-- What nobody was served with after some moves, nobody is served with until it is got. -/
theorem not_firstServed_append {more : List Move}
    (h : ∀ graph, ¬FirstServed registry flows moves id graph) (hmore : .get id ∉ more) :
    ∀ graph, ¬FirstServed registry flows (moves ++ more) id graph := by
  induction more using List.reverseRecOn with
  | nil =>
      rw [List.append_nil]
      exact h
  | append_singleton more m ih =>
      rw [List.mem_append, List.mem_singleton, not_or] at hmore
      intro graph hserved
      rw [← List.append_assoc] at hserved
      rcases hserved.of_append.2 with hserved | ⟨rfl, -⟩
      · exact ih hmore.1 graph hserved
      · exact hmore.2 rfl

/-- Only what is not loaded can fail to be got. -/
theorem not_firstServed_of_error {e : FlowError}
    (h : ((after registry flows moves).get registry id).1 = .error e) :
    ∀ graph, ¬FirstServed registry flows (moves ++ [.get id]) id graph := by
  intro graph hserved
  rcases firstServed_get_iff.mp hserved with hserved | ⟨hnone, hloads⟩
  · rw [get_of_loaded ((loaded_after _ _ _ _ _).mpr hserved)] at h
    cases h
  · cases hloaded : (after registry flows moves).loaded.get? id with
    | some first => exact hnone first ((loaded_after _ _ _ _ _).mp hloaded)
    | none =>
        rw [get_fst, hloaded] at h
        dsimp only at h
        rw [load_after, hloads] at h
        cases h

theorem get_of_not_firstServed (h : ∀ graph, ¬FirstServed registry flows moves id graph) :
    ((after registry flows moves).get registry id).1 =
      graphOf registry id (held flows moves id) := by
  cases hloaded : (after registry flows moves).loaded.get? id with
  | some graph => exact absurd ((loaded_after _ _ _ _ _).mp hloaded) (h graph)
  | none =>
      rw [get_fst, hloaded]
      exact load_after registry flows moves id

theorem serves (registry : Registry) (flows : List Flow) (moves : List Move) (id : FlowId) :
    Serves registry flows moves id where
  first graph h := get_of_loaded ((loaded_after _ _ _ _ _).mpr h)
  fresh h := get_of_not_firstServed h
  define flow graph h := by
    have hloaded : ((after registry flows moves).define flow).loaded.get? id = some graph :=
      (loaded_after _ _ _ _ _).mpr h
    exact get_of_loaded hloaded
  fails e h := get_snd_of_error h
  afresh e h more hmore := by
    apply get_of_not_firstServed
    rw [List.append_cons]
    exact not_firstServed_append (not_firstServed_of_error h) hmore
  forgets := by
    change ((after registry flows moves).loaded.get? id).isSome = true ↔ _
    rw [Option.isSome_iff_exists]
    exact exists_congr fun graph => loaded_after registry flows moves id graph
  others other hother := by
    rw [get_fst, get_fst, loaded_forget, if_neg hother]
    rfl

end Dialogue.Catalog
