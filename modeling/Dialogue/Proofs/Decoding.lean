import Dialogue.Behaviour.Config

/-!
# Decoding values that were changed

Configurations are records that are decoded from values.  Where the values of
some fields are changed in such a way that each of them decodes to a changed
value, the record decodes to the changed record: `Changes.decode`.
-/

namespace Dialogue

/-! ## Results in a row -/

/-- A result of two steps comes from a result of the first. -/
theorem bind_eq_ok {ε α β : Type} {first : Except ε α} {second : α → Except ε β} {b : β} :
    (first >>= second) = .ok b ↔ ∃ a, first = .ok a ∧ second a = .ok b := by
  constructor
  · intro h
    cases first with
    | error e => cases h
    | ok a => exact ⟨a, rfl, h⟩
  · rintro ⟨a, rfl, h⟩
    exact h

theorem map_eq_ok {ε α β : Type} {result : Except ε α} {f : α → β} {b : β} :
    result.map f = .ok b ↔ ∃ a, result = .ok a ∧ f a = b := by
  constructor
  · intro h
    cases result with
    | error e => cases h
    | ok a => exact ⟨a, rfl, Except.ok.inj h⟩
  · rintro ⟨a, rfl, rfl⟩
    rfl

/-! ## Values as documents -/

/-- The document that a value is decoded from. -/
def Value.document (value : Value) : Document := .ofJson value.toJson

/-- Named values as the fields of a document. -/
def Values.documents (values : Values) : List (String × Document) :=
  values.map fun (name, value) => (name, value.document)

theorem Value.document_object (values : Values) :
    (Value.object values).document = .object (Values.documents values) none := by
  have hfields : Document.ofFields (fieldsToJson values) = Values.documents values := by
    induction values with
    | nil => rfl
    | cons field rest ih => exact congrArg (List.cons _) ih
  change Document.object (Document.ofFields (fieldsToJson values)) none = _
  rw [hfields]

theorem Value.document_array (items : List Value) :
    (Value.array items).document = .array (items.map Value.document) none := by
  have hitems : Document.ofItems (itemsToJson items) = items.map Value.document := by
    induction items with
    | nil => rfl
    | cons item rest ih => exact congrArg (List.cons _) ih
  change Document.array (Document.ofItems (itemsToJson items)) none = _
  rw [hitems]

theorem Value.document_number (x : Float) :
    (∃ n, (Value.number x).document = .number n) ∨ (Value.number x).document = .null := by
  unfold document toJson
  cases integer? x with
  | some n => exact .inl ⟨_, rfl⟩
  | none =>
      simp only [Json.real]
      split
      · exact .inl ⟨_, rfl⟩
      · exact .inr rfl

mutual

/-- A clean tree is skipped without a fault. -/
theorem Document.skip_ofJson : (json : Json) → (Document.ofJson json).skip = .ok ()
  | .null | .boolean _ | .number _ | .string _ => rfl
  | .array items => by
    rw [Document.ofJson, Document.skip, Document.skipItems_ofItems items]
    rfl
  | .object fields => by
    rw [Document.ofJson, Document.skip, Document.skipFields_ofFields fields]
    rfl

theorem Document.skipItems_ofItems : (items : List Json) →
    Document.skipItems (Document.ofItems items) = .ok ()
  | [] => rfl
  | item :: rest => by
    rw [Document.ofItems, Document.skipItems, Document.skip_ofJson item]
    exact Document.skipItems_ofItems rest

theorem Document.skipFields_ofFields : (fields : List (String × Json)) →
    Document.skipFields (Document.ofFields fields) = .ok ()
  | [] => rfl
  | (_, value) :: rest => by
    rw [Document.ofFields, Document.skipFields, Document.skip_ofJson value]
    exact Document.skipFields_ofFields rest

end

theorem Value.skip_document (value : Value) :
    Except.fromFault value.document.skip = .ok () := by
  rw [document, Document.skip_ofJson]
  rfl

/-! ## Records -/

/-- Changes the values of fields, each as its name says. -/
def Fields.alter {α : Type} (change : String → α → α) (fields : Fields α) : Fields α :=
  fields.map fun (name, value) => (name, change name value)

namespace Record

/-- Changes values that are given in the order of a record's fields, each as the name of its field
says. -/
def alterItems (change : String → Value → Value) :
    {τ : Type} → Record τ → List Value → List Value
  | _, .field name _ _ _ rest, item :: items => change name item :: rest.alterItems change items
  | _, _, items => items

@[simp] theorem alterItems_nil (change : String → Value → Value) {τ : Type} (record : Record τ) :
    record.alterItems change [] = [] := by
  cases record <;> rfl

/-- Changes the values of the fields of a written record. -/
def alter {τ : Type} (record : Record τ) (change : String → Value → Value) : Value → Value
  | .object fields => .object (Fields.alter change fields)
  | .array items => .array (record.alterItems change items)
  | value => value

section

variable {α β : Type} {name : String} {absent : Option α} {decode : Decoder α} {rest : Record β}

/-- A field takes the first document of its name. -/
theorem put_own (more : rest.Draft) (source : Source) (document : Document) :
    put (.field name [] absent decode rest) (none, more) source name document =
      (decode source document).map fun value => some (some value, more) := by
  simp only [put, decide_true, Bool.true_or, if_true]
  cases decode source document <;> rfl

theorem put_again (value : α) (more : rest.Draft) (source : Source) (document : Document) :
    put (.field name [] absent decode rest) (some value, more) source name document =
      .error (duplicateField name) := by
  simp only [put, decide_true, Bool.true_or, if_true]

/-- A field leaves documents of other names to the other fields. -/
theorem put_other {key : String} (hkey : key ≠ name) (slot : Option α) (more : rest.Draft)
    (source : Source) (document : Document) :
    put (.field name [] absent decode rest) (slot, more) source key document =
      (rest.put more source key document).map (Option.map fun more => (slot, more)) := by
  have hother : (decide (key = name) || List.contains [] key) = false := by simp [hkey]
  simp only [put, hother, Bool.false_eq_true, if_false]
  cases rest.put more source key document with
  | error e => rfl
  | ok found => cases found <;> rfl

/-- A field that was given keeps its value. -/
theorem finish_field (slot : Option α) (more : rest.Draft) :
    finish (.field name [] absent decode rest) (slot, more) =
      match slot.or absent with
      | none => .error (missingField name)
      | some value => (rest.finish more).map (Prod.mk value) := by
  simp only [finish]
  cases slot.or absent with
  | none => rfl
  | some value => cases rest.finish more <;> rfl

end

/-- A field of a name that the record does not have is skipped. -/
theorem putAll_none {τ : Type} {record : Record τ} {draft : record.Draft} {key : String}
    {written : Value} (h : record.put draft .tree key written.document = .ok none)
    (rest : List (String × Document)) :
    record.putAll .tree ((key, written.document) :: rest) draft =
      record.putAll .tree rest draft := by
  rw [putAll, h]
  change (Except.fromFault written.document.skip >>= fun _ => record.putAll .tree rest draft) = _
  rw [written.skip_document]
  rfl

theorem putAll_some {τ : Type} {record : Record τ} {draft next : record.Draft} {key : String}
    {written : Value} (h : record.put draft .tree key written.document = .ok (some next))
    (rest : List (String × Document)) :
    record.putAll .tree ((key, written.document) :: rest) draft =
      record.putAll .tree rest next := by
  rw [putAll, h]
  rfl

/-! ### Records of one field -/

section

variable {α : Type} {name : String} {absent : Option α} {decode : Decoder α}

/-- Fields of other names are skipped. -/
theorem putAll_skip {values : Values} (hvalues : ∀ field ∈ values, field.1 ≠ name)
    (slot : Option α) :
    putAll (.field name [] absent decode .done) .tree (Values.documents values) (slot, ()) =
      .ok (slot, ()) := by
  induction values with
  | nil => rfl
  | cons field rest ih =>
      obtain ⟨key, written⟩ := field
      have hkey : key ≠ name := hvalues _ (.head _)
      have hnone : put (.field name [] absent decode .done) (slot, ()) .tree key
          written.document = .ok none :=
        @put_other α Unit name absent decode .done key hkey slot () .tree written.document
      exact (putAll_none hnone _).trans (ih fun other hother => hvalues other (.tail _ hother))

/-- A field that is added to others is the one that is decoded. -/
theorem putAll_insert {values : Values} (hvalues : ∀ field ∈ values, field.1 ≠ name)
    {written : Value} {a : α} (hwritten : decode .tree written.document = .ok a) :
    putAll (.field name [] absent decode .done) .tree
        (Values.documents (Fields.insert name written values)) (none, ()) =
      .ok (some a, ()) := by
  have hown (rest : Values) (hrest : ∀ field ∈ rest, field.1 ≠ name) :
      putAll (.field name [] absent decode .done) .tree
        ((name, written.document) :: Values.documents rest) (none, ()) = .ok (some a, ()) := by
    have hsome : put (.field name [] absent decode .done) (none, ()) .tree name
        written.document = .ok (some (some a, ())) :=
      (@put_own α Unit name absent decode .done () .tree written.document).trans
        (map_eq_ok.mpr ⟨a, hwritten, rfl⟩)
    exact (putAll_some hsome _).trans (putAll_skip hrest (some a))
  induction values with
  | nil => exact hown [] hvalues
  | cons field rest ih =>
      obtain ⟨key, old⟩ := field
      have hkey : key ≠ name := hvalues _ (.head _)
      rw [Fields.insert]
      split
      · exact hown ((key, old) :: rest) hvalues
      · rw [if_neg fun h => hkey h.symm]
        have hnone : put (.field name [] absent decode .done) (none, ()) .tree key
            old.document = .ok none :=
          @put_other α Unit name absent decode .done key hkey none () .tree old.document
        exact (putAll_none hnone _).trans (ih fun other hother => hvalues other (.tail _ hother))

end

/-! ### Changed fields -/

/-- What a change of the values of fields does to the fields of a record, and to those that are
decoded so far. -/
inductive Changes (change : String → Value → Value) :
    {τ : Type} → (record : Record τ) → (τ → τ) → (record.Draft → record.Draft) → Prop
  | done : Changes change .done id id
  /-- What the field decodes to is changed, but not what it is where it is absent. -/
  | field {α β : Type} {name : String} {absent : Option α} {decode : Decoder α}
      {rest : Record β} {f : α → α} {g : β → β} {draft : rest.Draft → rest.Draft}
      (value : ∀ written a, decode .tree (Value.document written) = .ok a →
        decode .tree (change name written).document = .ok (f a))
      (missing : absent.map f = absent) (others : Changes change rest g draft) :
      Changes change (.field name [] absent decode rest) (Prod.map f g)
        (Prod.map (Option.map f) draft)

namespace Changes

variable {change : String → Value → Value} {τ : Type} {record : Record τ} {f : τ → τ}
  {draft : record.Draft → record.Draft}

/-- A field whose values are not changed. -/
theorem keep {α β : Type} {name : String} {absent : Option α} {decode : Decoder α}
    {rest : Record β} {g : β → β} {draft : rest.Draft → rest.Draft}
    (hname : ∀ written, change name written = written) (others : Changes change rest g draft) :
    Changes change (.field name [] absent decode rest) (Prod.map id g)
      (Prod.map (Option.map id) draft) := by
  refine .field (fun written a h => ?_) (by simp) others
  rw [hname]
  exact h

theorem blank (h : Changes change record f draft) : draft record.blank = record.blank := by
  induction h with
  | done => rfl
  | field value missing others ih => exact congrArg (Prod.mk none) ih

theorem put (h : Changes change record f draft) {before : record.Draft} {name : String}
    {written : Value} {result : Option record.Draft}
    (hput : record.put before .tree name written.document = .ok result) :
    record.put (draft before) .tree name (change name written).document =
      .ok (result.map draft) := by
  induction h with
  | done =>
      cases hput
      rfl
  | @field α β field absent decode rest f g draft value missing others ih =>
      obtain ⟨slot, more⟩ := before
      by_cases hname : name = field
      · subst hname
        cases slot with
        | some old =>
            rw [put_again] at hput
            cases hput
        | none =>
            rw [put_own] at hput
            obtain ⟨a, hdecoded, rfl⟩ := map_eq_ok.mp hput
            change Record.put (.field name [] absent decode rest) (none, draft more) _ _ _ = _
            rw [put_own, value written a hdecoded]
            rfl
      · rw [put_other hname] at hput
        obtain ⟨found, hmore, rfl⟩ := map_eq_ok.mp hput
        change Record.put (.field field [] absent decode rest) (slot.map f, draft more) _ _ _ = _
        rw [put_other hname, ih hmore]
        cases found <;> rfl

theorem putAll (h : Changes change record f draft) (values : Values)
    {before after : record.Draft}
    (hput : record.putAll .tree (Values.documents values) before = .ok after) :
    record.putAll .tree (Values.documents (Fields.alter change values)) (draft before) =
      .ok (draft after) := by
  induction values generalizing before with
  | nil =>
      cases hput
      rfl
  | cons field rest ih =>
      obtain ⟨name, written⟩ := field
      change record.putAll .tree ((name, written.document) :: Values.documents rest) before = _
        at hput
      change record.putAll .tree ((name, (change name written).document) ::
        Values.documents (Fields.alter change rest)) (draft before) = _
      obtain ⟨found, hfield, -⟩ := bind_eq_ok.mp hput
      have hfield' := h.put hfield
      cases found with
      | none =>
          rw [putAll_none hfield] at hput
          rw [putAll_none hfield']
          exact ih hput
      | some next =>
          rw [putAll_some hfield] at hput
          rw [putAll_some hfield']
          exact ih hput

theorem finish (h : Changes change record f draft) {before : record.Draft} {result : τ}
    (hfinish : record.finish before = .ok result) :
    record.finish (draft before) = .ok (f result) := by
  induction h with
  | done => rfl
  | @field α β field absent decode rest f g draft value missing others ih =>
      obtain ⟨slot, more⟩ := before
      rw [finish_field] at hfinish
      change Record.finish (.field field [] absent decode rest) (slot.map f, draft more) = _
      have hslot : (slot.map f).or absent = (slot.or absent).map f := by
        cases slot with
        | none => exact missing.symm
        | some a => rfl
      rw [finish_field, hslot]
      cases hvalue : slot.or absent with
      | none =>
          rw [hvalue] at hfinish
          cases hfinish
      | some a =>
          rw [hvalue] at hfinish
          obtain ⟨values, hmore, rfl⟩ := map_eq_ok.mp hfinish
          exact map_eq_ok.mpr ⟨_, ih hmore, rfl⟩

theorem fromItems (h : Changes change record f draft) {wanted : String} {length : Nat}
    {items : List Value} {result : τ} {left : List Document}
    (hitems : record.fromItems wanted none .tree length (items.map Value.document) =
      .ok (result, left)) :
    record.fromItems wanted none .tree length
        ((record.alterItems change items).map Value.document) = .ok (f result, left) := by
  induction h generalizing items length left with
  | done =>
      cases hitems
      rfl
  | @field α β field absent decode rest f g draft value missing others ih =>
      cases items with
      | nil =>
          simp only [List.map_nil, alterItems_nil, Record.fromItems] at hitems ⊢
          cases absent with
          | none => cases hitems
          | some a =>
              have hsame : f a = a := Option.some.inj missing
              obtain ⟨-, -, hitems⟩ := bind_eq_ok.mp hitems
              obtain ⟨⟨values, left'⟩, hrest, hresult⟩ := bind_eq_ok.mp hitems
              cases hresult
              have hempty : Record.fromItems wanted none rest .tree length
                  (([] : List Value).map Value.document) = .ok (values, left') := hrest
              have hrest' := ih hempty
              rw [alterItems_nil] at hrest'
              refine bind_eq_ok.mpr ⟨(), rfl, bind_eq_ok.mpr ⟨_, hrest', ?_⟩⟩
              rw [Prod.map, hsame]
      | cons item items =>
          simp only [List.map_cons, alterItems, Record.fromItems] at hitems ⊢
          obtain ⟨a, hvalue, hitems⟩ := bind_eq_ok.mp hitems
          obtain ⟨⟨values, left'⟩, hrest, hresult⟩ := bind_eq_ok.mp hitems
          cases hresult
          exact bind_eq_ok.mpr ⟨_, value item a hvalue, bind_eq_ok.mpr ⟨_, ih hrest, rfl⟩⟩

/-- What decodes as a record decodes as the changed record when its fields are changed. -/
theorem decode (h : Changes change record f draft) (title : String) {written : Value}
    {result : τ} (hdecoded : record.decoder title .tree written.document = .ok result) :
    record.decoder title .tree (record.alter change written).document = .ok (f result) := by
  cases written with
  | object values =>
      change record.decoder title .tree (Value.object (Fields.alter change values)).document = _
      rw [Value.document_object] at hdecoded ⊢
      rw [Record.decoder] at hdecoded ⊢
      obtain ⟨after, hput, hfinish⟩ := bind_eq_ok.mp hdecoded
      have hput' := h.putAll values hput
      rw [h.blank] at hput'
      exact bind_eq_ok.mpr ⟨_, hput', h.finish hfinish⟩
  | array items =>
      change record.decoder title .tree (Value.array (record.alterItems change items)).document = _
      rw [Value.document_array] at hdecoded ⊢
      rw [Record.decoder] at hdecoded ⊢
      obtain ⟨⟨values, left⟩, hitems, hleft⟩ := bind_eq_ok.mp hdecoded
      refine bind_eq_ok.mpr ⟨_, h.fromItems hitems, ?_⟩
      cases left with
      | nil =>
          cases hleft
          rfl
      | cons document left => cases hleft
  | number x =>
      obtain ⟨n, hdocument⟩ | hdocument := Value.document_number x
      · rw [hdocument] at hdecoded
        cases hdecoded
      · rw [hdocument] at hdecoded
        cases hdecoded
  | _ => cases hdecoded

end Changes

end Record

end Dialogue
