import Dialogue.Instant.Written
import Dialogue.Value
import Dialogue.Proofs.Decoding
import Dialogue.Proofs.Fields
import Dialogue.Proofs.Identifier

/-!
# Decoders that give back what was stored

A decoder recovers a value from a tree if it decodes the tree to that value,
wherever the tree comes from: read as it is, or set aside until the tag of its
union was known.  One law for each way of putting decoders together says what it
recovers, if its parts recover theirs.
-/

namespace Dialogue

/-! ## Trees -/

namespace Json

mutual

/-- The names of all objects in a tree ascend. -/
def Ordered : Json → Prop
  | .null | .boolean _ | .number _ | .string _ => True
  | .array items => OrderedItems items
  | .object fields => Fields.Ascending fields ∧ OrderedFields fields

/-- The names of all objects in several trees ascend. -/
def OrderedItems : List Json → Prop
  | [] => True
  | item :: rest => item.Ordered ∧ OrderedItems rest

/-- The names of all objects in named trees ascend. -/
def OrderedFields : List (String × Json) → Prop
  | [] => True
  | (_, value) :: rest => value.Ordered ∧ OrderedFields rest

end

end Json

/-- Pairs in ascending order are a dictionary already. -/
theorem Fields.ofList_of_ascending {α : Type} {fields : Fields α} (h : fields.Ascending) :
    Fields.ofList fields = fields := union_nil h

/-- A new dictionary is in order. -/
theorem Fields.ascending_ofList {α : Type} (pairs : List (String × α)) :
    (Fields.ofList pairs).Ascending := by
  have hfold (base : Fields α) (hbase : base.Ascending) : Fields.Ascending
      (pairs.foldl (fun fields pair => Fields.insert pair.1 pair.2 fields) base) := by
    induction pairs generalizing base with
    | nil => exact hbase
    | cons pair rest ih => exact ih _ (hbase.insert pair.1 pair.2)
  exact hfold [] List.Pairwise.nil

mutual

/-- A tree in order comes back from its document. -/
theorem Document.toJson_ofJson : (json : Json) → json.Ordered →
    (Document.ofJson json).toJson = .ok json
  | .null, _ | .boolean _, _ | .number _, _ | .string _, _ => rfl
  | .array items, h => by
    rw [Document.ofJson, Document.toJson, Document.itemTrees_ofItems items h]
    rfl
  | .object fields, h => by
    rw [Document.ofJson, Document.toJson, Document.fieldTrees_ofFields fields h.2]
    change Except.ok (Json.ofFields fields) = _
    rw [Json.ofFields, Fields.ofList_of_ascending h.1]

theorem Document.itemTrees_ofItems : (items : List Json) → Json.OrderedItems items →
    Document.itemTrees (Document.ofItems items) = .ok items
  | [], _ => rfl
  | item :: rest, h => by
    rw [Document.ofItems, Document.itemTrees, Document.toJson_ofJson item h.1,
      Document.itemTrees_ofItems rest h.2]
    rfl

theorem Document.fieldTrees_ofFields : (fields : List (String × Json)) →
    Json.OrderedFields fields → Document.fieldTrees (Document.ofFields fields) = .ok fields
  | [], _ => rfl
  | (_, value) :: rest, h => by
    rw [Document.ofFields, Document.fieldTrees, Document.toJson_ofJson value h.1,
      Document.fieldTrees_ofFields rest h.2]
    rfl

end

/-! ## Values -/

namespace Value

mutual

/-- Every number in a value is finite, and the names of all its objects ascend. -/
def Storable : Value → Prop
  | .null | .boolean _ | .string _ => True
  | .number x => Decimal.isFinite x = true
  | .array items => StorableItems items
  | .object fields => Fields.Ascending fields ∧ StorableFields fields

/-- All of several values are storable. -/
def StorableItems : List Value → Prop
  | [] => True
  | item :: rest => item.Storable ∧ StorableItems rest

/-- All of several named values are storable. -/
def StorableFields : List (String × Value) → Prop
  | [] => True
  | (_, value) :: rest => value.Storable ∧ StorableFields rest

end

mutual

/-- What a value is stored as stands for that value. -/
theorem ofJson_stored : (value : Value) → value.Storable → ofJson value.stored = value
  | .null, _ | .boolean _, _ | .string _, _ => rfl
  | .number x, h => by
    have hfinite : Decimal.isFinite x = true := h
    simp only [stored, Json.real, hfinite, if_true]
    rfl
  | .array items, h => by
    rw [stored, ofJson, ofItems_storedItems items h]
  | .object fields, h => by
    rw [stored, ofJson, ofFields_storedFields fields h.2]

theorem ofItems_storedItems : (items : List Value) → StorableItems items →
    ofItems (storedItems items) = items
  | [], _ => rfl
  | item :: rest, h => by
    rw [storedItems, ofItems, ofJson_stored item h.1, ofItems_storedItems rest h.2]

theorem ofFields_storedFields : (fields : List (String × Value)) → StorableFields fields →
    ofFields (storedFields fields) = fields
  | [], _ => rfl
  | (_, value) :: rest, h => by
    rw [storedFields, ofFields, ofJson_stored value h.1, ofFields_storedFields rest h.2]

end

theorem names_storedFields (fields : Values) :
    (storedFields fields).map Prod.fst = fields.map Prod.fst := by
  induction fields with
  | nil => rfl
  | cons field rest ih => exact congrArg (List.cons _) ih

theorem ascending_storedFields {fields : Values} (h : fields.Ascending) :
    Fields.Ascending (storedFields fields) := by
  have hnames : (fields.map Prod.fst).Pairwise (· < ·) := List.pairwise_map.mpr h
  rw [← names_storedFields] at hnames
  exact List.pairwise_map.mp hnames

mutual

theorem ordered_stored : (value : Value) → value.Storable → value.stored.Ordered
  | .null, _ | .boolean _, _ | .string _, _ => trivial
  | .number x, _ => by
    simp only [stored, Json.real]
    split <;> trivial
  | .array items, h => orderedItems_storedItems items h
  | .object fields, h => ⟨ascending_storedFields h.1, orderedFields_storedFields fields h.2⟩

theorem orderedItems_storedItems : (items : List Value) → StorableItems items →
    Json.OrderedItems (storedItems items)
  | [], _ => trivial
  | item :: rest, h => ⟨ordered_stored item h.1, orderedItems_storedItems rest h.2⟩

theorem orderedFields_storedFields : (fields : List (String × Value)) → StorableFields fields →
    Json.OrderedFields (storedFields fields)
  | [], _ => trivial
  | (_, value) :: rest, h => ⟨ordered_stored value h.1, orderedFields_storedFields rest h.2⟩

end

end Value

/-- Named values whose names ascend and which are storable. -/
structure Values.Storable (values : Values) : Prop where
  ascending : values.Ascending
  fields : Value.StorableFields values

/-! ## Decoders -/

namespace Decoder

variable {α β : Type} {decode : Decoder α} {json : Json} {a : α}

/-- A decoder gives a value back from a tree, wherever the tree comes from. -/
def Recovers (decode : Decoder α) (json : Json) (a : α) : Prop :=
  ∀ source, decode source (.ofJson json) = .ok a

theorem Recovers.map (h : decode.Recovers json a) (f : α → β) :
    (decode.map f).Recovers json (f a) := by
  intro source
  rw [Decoder.map, h source]
  rfl

theorem Recovers.refine (h : decode.Recovers json a) {f : α → Except String β} {b : β}
    (hf : f a = .ok b) : (decode.refine f).Recovers json b := by
  intro source
  simp only [Decoder.refine, h source, hf, bind, Except.bind]

theorem recovers_stringAs (wanted s : String) : (stringAs wanted).Recovers (.string s) s :=
  fun _ => rfl

theorem recovers_string (s : String) : Decoder.string.Recovers (.string s) s := fun _ => rfl

theorem recovers_natural (wanted : String) {largest n : Nat} (h : n ≤ largest) :
    (natural wanted largest).Recovers (.nat n) n := by
  intro source
  have hrange : (0 : Int) ≤ n ∧ (n : Int) ≤ largest := by omega
  simp only [natural, Json.nat, Document.ofJson, if_pos hrange, Int.toNat_natCast]

theorem recovers_null : (nullable decode).Recovers .null none := fun _ => rfl

/-- What may be `null` is recovered, unless that is how it is stored. -/
theorem Recovers.nullable (h : decode.Recovers json a) (hnull : json ≠ .null) :
    (nullable decode).Recovers json (some a) := by
  intro source
  have hdecode := h source
  cases json with
  | null => exact absurd rfl hnull
  | _ =>
      simp only [Document.ofJson] at hdecode ⊢
      simp only [Decoder.nullable, hdecode]
      rfl

theorem recovers_tree (h : json.Ordered) : Decoder.tree.Recovers json json := by
  intro source
  rw [tree, Document.toJson_ofJson json h]
  rfl

/-- A list is recovered if all its items are. -/
theorem recovers_list {f : α → Json} {items : List α}
    (h : ∀ item ∈ items, decode.Recovers (f item) item) :
    (list decode).Recovers (.array (items.map f)) items := by
  intro source
  have hitems : Decoder.items decode source (Document.ofItems (items.map f)) = .ok items := by
    induction items with
    | nil => rfl
    | cons item rest ih =>
        rw [List.map_cons, Document.ofItems, Decoder.items, h item (.head _) source,
          ih fun other hother => h other (.tail _ hother)]
        rfl
  rw [Document.ofJson, list, hitems]
  rfl

/-- One of several values is recovered from its first name, if no alternative before it has that
name. -/
theorem recovers_choice {alternatives : List (List String × α)} {i : Nat} {name : String}
    {names : List String} (hplace : place? name (alternatives.map Prod.fst) = some i)
    (hvalue : alternatives[i]? = some (names, a)) :
    (choice alternatives).Recovers (.string name) a := by
  intro source
  simp only [choice, Document.ofJson, alternative, hplace, hvalue, bind, Except.bind]

end Decoder

theorem Value.recovers {value : Value} (h : value.Storable) :
    Value.decoder.Recovers value.stored value := by
  have hmap := (Decoder.recovers_tree (value.ordered_stored h)).map Value.ofJson
  rw [value.ofJson_stored h] at hmap
  exact hmap

theorem Values.recovers {values : Values} (h : values.Storable) :
    Values.decoder.Recovers values.stored values := by
  intro source
  have hentries (fields : List (String × Value)) (hfields : Value.StorableFields fields) :
      Decoder.entries Value.decoder source (Document.ofFields (Value.storedFields fields)) =
        .ok fields := by
    induction fields with
    | nil => rfl
    | cons field rest ih =>
        rw [Value.storedFields, Document.ofFields, Decoder.entries,
          Value.recovers hfields.1 source, ih hfields.2]
        rfl
  rw [Values.stored, Values.decoder, Document.ofJson, Decoder.fields, hentries values h.fields]
  change Except.ok (Fields.ofList values) = _
  rw [Fields.ofList_of_ascending h.ascending]

/-! ## Identifiers and instants -/

/-- An identifier of 128 bits. -/
def Identifier.Storable (id : Identifier) : Prop := id.bits < twoTo 128

/-- An instant that is read as it is written. -/
def Instant.Readable (t : Instant) : Prop := Instant.read (t.write "Z") = .ok t

theorem Identifier.recovers {id : Identifier} (h : id.Storable) :
    Identifier.decoder.Recovers id.stored id :=
  (Decoder.recovers_stringAs _ id.text).refine (Identifier.read_text h)

theorem Instant.recovers {t : Instant} (h : t.Readable) :
    Instant.decoder.Recovers t.stored t := by
  refine (Decoder.recovers_stringAs _ (t.write "Z")).refine ?_
  have hread : Instant.read (t.write "Z") = .ok t := h
  rw [hread]
  rfl

end Dialogue
