import Dialogue.Proofs.Stored.Decoder

/-!
# Records that give back what was stored

An object lists its fields in the order of their names, a record in the order of
its declaration, and a decoder fills the record in the order of the object.  What
it has filled so far is therefore told by the names it has met, whatever their
order: `Record.sketch`.  A record recovers what it finds under its names, and one
of several tagged records does so without the tag.
-/

namespace Dialogue

/-! ## Objects made of fields in any order -/

namespace Fields

variable {α : Type}

theorem get?_append (fields more : Fields α) (name : String) :
    get? (fields ++ more) name = (fields.get? name).or (more.get? name) := by
  rw [get?, List.lookup_append]
  rfl

/-- A dictionary has the value that was given last for a name. -/
theorem get?_ofList (pairs : List (String × α)) (name : String) :
    (ofList pairs).get? name = get? pairs.reverse name := by
  have hfold (base : Fields α) :
      (pairs.foldl (fun fields pair => insert pair.1 pair.2 fields) base).get? name =
        (get? pairs.reverse name).or (base.get? name) := by
    induction pairs generalizing base with
    | nil => rfl
    | cons pair rest ih =>
        obtain ⟨key, value⟩ := pair
        rw [List.foldl_cons, ih, get?_insert, List.reverse_cons, get?_append, Option.or_assoc,
          get?_cons]
        by_cases hkey : name = key <;> simp [hkey]
  exact (hfold []).trans Option.or_none

/-- In a dictionary every entry is found under its name. -/
theorem get?_of_mem {fields : Fields α} (h : fields.Ascending) {name : String} {value : α}
    (hmem : (name, value) ∈ fields) : fields.get? name = some value := by
  induction fields with
  | nil => cases hmem
  | cons field rest ih =>
      obtain ⟨key, old⟩ := field
      obtain ⟨hfirst, hrest⟩ := List.pairwise_cons.mp h
      rw [get?_cons]
      rcases List.mem_cons.mp hmem with heq | hmem
      · obtain ⟨rfl, rfl⟩ := Prod.mk.inj heq
        exact if_pos rfl
      · have hbefore : key < name := hfirst _ hmem
        rw [if_neg fun heq : name = key => String.lt_irrefl key (heq ▸ hbefore)]
        exact ih hrest hmem

/-- Without one name, a dictionary is the same under all others. -/
theorem get?_filter_ne (fields : Fields α) (tag name : String) :
    get? (fields.filter fun field => field.1 ≠ tag) name =
      if name = tag then none else fields.get? name := by
  induction fields with
  | nil => exact (ite_self _).symm
  | cons field rest ih =>
      obtain ⟨key, value⟩ := field
      rw [List.filter_cons, get?_cons]
      by_cases hkey : key = tag
      · subst hkey
        rw [if_neg (by simp), ih]
        by_cases hname : name = key <;> simp [hname]
      · rw [if_pos (by simpa using hkey), get?_cons, ih]
        by_cases hname : name = key
        · subst hname
          rw [if_pos rfl, if_pos rfl, if_neg hkey]
        · rw [if_neg hname, if_neg hname]

end Fields

namespace Json

/-- What is under a name in fields that are given in any order. -/
def given (pairs : List (String × Json)) (name : String) : Option Json :=
  Fields.get? pairs.reverse name

variable {pairs more : List (String × Json)} {name : String}

@[simp] theorem given_nil : given [] name = none := rfl

@[simp] theorem given_append :
    given (pairs ++ more) name = (given more name).or (given pairs name) := by
  rw [given, List.reverse_append, Fields.get?_append]
  rfl

@[simp] theorem given_cons {key : String} {json : Json} :
    given ((key, json) :: pairs) name =
      (given pairs name).or (if name = key then some json else none) := by
  rw [given, List.reverse_cons, Fields.get?_append, Fields.get?_cons]
  rfl

@[simp] theorem given_optionalField {key : String} {value : Option Json} :
    given (optionalField key value) name = if name = key then value else none := by
  cases value with
  | none => exact (ite_self _).symm
  | some json => exact given_cons

theorem ofFields_ne_null : Json.ofFields pairs ≠ .null := nofun

/-- A tree in an object is lower than the object. -/
theorem height_lt_of_given {json : Json} (h : given pairs name = some json) :
    (Document.ofJson json).height < (Document.ofJson (ofFields pairs)).height := by
  have hmem : (name, json) ∈ Fields.ofList pairs :=
    Fields.mem_of_get? ((Fields.get?_ofList pairs name).trans h)
  have hfields (fields : List (String × Json)) (hfield : (name, json) ∈ fields) :
      (Document.ofJson json).height ≤ Document.heightFields (Document.ofFields fields) := by
    induction fields with
    | nil => cases hfield
    | cons field rest ih =>
        obtain ⟨key, value⟩ := field
        rw [Document.ofFields, Document.heightFields]
        rcases List.mem_cons.mp hfield with heq | hrest
        · obtain ⟨rfl, rfl⟩ := Prod.mk.inj heq
          exact Nat.le_max_left _ _
        · exact Nat.le_trans (ih hrest) (Nat.le_max_right _ _)
  rw [ofFields, Document.ofJson, Document.height]
  exact Nat.lt_succ_of_le (hfields _ hmem)

end Json

/-! ## Records -/

namespace Record

variable {α β : Type}

/-- What a field decodes to: the tree it is given, or what it is where it is absent. -/
def Yields (absent : Option α) (decode : Decoder α) (found : Option Json) (a : α) : Prop :=
  match found with
  | some json => decode.Recovers json a
  | none => absent = some a

@[simp] theorem yields_some {absent : Option α} {decode : Decoder α} {json : Json} {a : α} :
    Yields absent decode (some json) a ↔ decode.Recovers json a := Iff.rfl

@[simp] theorem yields_none {absent : Option α} {decode : Decoder α} {a : α} :
    Yields absent decode none a ↔ absent = some a := Iff.rfl

/-- A field that is left out where it has no value yields what was put in. -/
theorem yields_optional {decode : Decoder α} {stored : α → Json} {value : Option α}
    (h : ∀ a ∈ value, decode.Recovers (stored a) a) (hnull : ∀ a, stored a ≠ .null) :
    Yields (some none) (.nullable decode) (value.map stored) value := by
  cases value with
  | none => rfl
  | some a => exact (h a rfl).nullable (hnull a)

/-- A record finds its values in named trees: each field under its first name, and no tree under its
other names. -/
@[simp] def Finds (given : String → Option Json) : {τ : Type} → Record τ → τ → Prop
  | _, .done, _ => True
  | _, .field name others absent decode rest, (a, more) =>
    Yields absent decode (given name) a ∧ (∀ other ∈ others, given other = none) ∧
      rest.Finds given more

/-- The names of the fields. -/
def names : {τ : Type} → Record τ → List String
  | _, .done => []
  | _, .field name _ _ _ rest => name :: rest.names

/-- The draft in which the fields of certain names have their values. -/
def sketch (met : List String) : {τ : Type} → (record : Record τ) → τ → record.Draft
  | _, .done, _ => ()
  | _, .field name _ _ _ rest, (a, more) =>
    (if name ∈ met then some a else none, rest.sketch met more)

theorem sketch_nil {τ : Type} (record : Record τ) (values : τ) :
    record.sketch [] values = record.blank := by
  induction record with
  | done => rfl
  | field name others absent decode rest ih =>
      change (_, rest.sketch [] values.2) = _
      rw [ih]
      rfl

/-- A name that no field has makes no difference. -/
theorem sketch_cons_of_notMem {key : String} (met : List String) {τ : Type} {record : Record τ}
    (hkey : key ∉ record.names) (values : τ) :
    record.sketch (key :: met) values = record.sketch met values := by
  induction record with
  | done => rfl
  | field name others absent decode rest ih =>
      obtain ⟨a, more⟩ := values
      obtain ⟨hname, hrest⟩ := not_or.mp fun hmem => hkey (List.mem_cons.mpr hmem)
      have hmem : name ∈ key :: met ↔ name ∈ met :=
        List.mem_cons.trans (or_iff_right fun heq => hname heq.symm)
      simp only [sketch, ih hrest]
      rw [ite_congr (propext hmem) (fun _ => rfl) fun _ => rfl]

variable {given : String → Option Json} {τ : Type} {record : Record τ} {values : τ}

/-- The next field of an object is filled in, or skipped if the record has no such field. -/
theorem Finds.put (h : record.Finds given values) (hnodup : record.names.Nodup) {key : String}
    {json : Json} (hgiven : given key = some json) {met : List String} (hnew : key ∉ met)
    (source : Source) :
    ∃ result, record.put (record.sketch met values) source key (.ofJson json) = .ok result ∧
      result.getD (record.sketch met values) = record.sketch (key :: met) values := by
  induction record with
  | done => exact ⟨none, rfl, rfl⟩
  | field name others absent decode rest ih =>
      obtain ⟨a, more⟩ := values
      obtain ⟨hvalue, hothers, hrest⟩ := h
      obtain ⟨hname, hnodup⟩ := List.nodup_cons.mp hnodup
      have hother : others.contains key = false := by
        rw [List.contains_eq_mem, decide_eq_false_iff_not]
        intro hmem
        rw [hothers key hmem] at hgiven
        cases hgiven
      simp only [Record.put, sketch, hother, Bool.or_false, decide_eq_true_eq]
      by_cases hkey : key = name
      · subst hkey
        rw [hgiven] at hvalue
        have hdecode : decode source (.ofJson json) = .ok a := hvalue source
        rw [if_pos rfl, if_neg hnew, if_pos List.mem_cons_self,
          sketch_cons_of_notMem met hname more]
        simp only [hdecode]
        exact ⟨_, rfl, rfl⟩
      · obtain ⟨result, hput, hresult⟩ := ih hrest hnodup
        have hmem : name ∈ key :: met ↔ name ∈ met :=
          List.mem_cons.trans (or_iff_right fun heq => hkey heq.symm)
        rw [if_neg hkey]
        simp only [hput, hmem, ← hresult]
        cases result with
        | none => exact ⟨none, rfl, rfl⟩
        | some draft => exact ⟨_, rfl, rfl⟩

/-- Once all names have been met, the draft is the record. -/
theorem Finds.finish (h : record.Finds given values) {met : List String}
    (hmet : ∀ name json, given name = some json → name ∈ met) :
    record.finish (record.sketch met values) = .ok values := by
  induction record with
  | done => rfl
  | field name others absent decode rest ih =>
      obtain ⟨a, more⟩ := values
      obtain ⟨hvalue, -, hrest⟩ := h
      have hslot : (if name ∈ met then some a else none).or absent = some a := by
        by_cases hname : name ∈ met
        · rw [if_pos hname]
          rfl
        · have hnone : given name = none := by
            cases hgiven : given name with
            | none => rfl
            | some json => exact absurd (hmet name json hgiven) hname
          rw [hnone] at hvalue
          rw [if_neg hname]
          exact hvalue
      simp only [Record.finish, sketch, hslot, ih hrest]
      rfl

/-- An object in order is decoded field by field to what the record finds in it. -/
theorem Finds.putAll (h : record.Finds given values) (hnodup : record.names.Nodup)
    {fields : Fields Json} (hfields : fields.Ascending) {met : List String}
    (hgiven : ∀ field ∈ fields, given field.1 = some field.2)
    (hmet : ∀ field ∈ fields, field.1 ∉ met) (source : Source) :
    record.putAll source (Document.ofFields fields) (record.sketch met values) =
      .ok (record.sketch (fields.names.reverse ++ met) values) := by
  induction fields generalizing met with
  | nil => rfl
  | cons field rest ih =>
      obtain ⟨key, json⟩ := field
      obtain ⟨hfirst, hrest⟩ := List.pairwise_cons.mp hfields
      obtain ⟨result, hput, hresult⟩ :=
        h.put hnodup (hgiven _ (.head _)) (hmet _ (.head _)) source
      have hlater : ∀ field ∈ rest, field.1 ∉ key :: met := by
        intro field hmem hname
        rcases List.mem_cons.mp hname with heq | hname
        · exact String.lt_irrefl key (heq ▸ hfirst field hmem)
        · exact hmet field (.tail _ hmem) hname
      have hnext := ih hrest (fun field hmem => hgiven field (.tail _ hmem)) hlater
      have hnames : Fields.names ((key, json) :: rest) = key :: Fields.names rest := rfl
      rw [Document.ofFields, Record.putAll, hput, hnames, List.reverse_cons, List.append_assoc]
      cases result with
      | none =>
          have hdraft : record.sketch met values = record.sketch (key :: met) values := hresult
          change (Except.fromFault (Document.ofJson json).skip >>= fun _ =>
            record.putAll source (Document.ofFields rest) (record.sketch met values)) = _
          rw [Document.skip_ofJson, hdraft]
          exact hnext
      | some draft =>
          have hdraft : draft = record.sketch (key :: met) values := hresult
          change record.putAll source (Document.ofFields rest) draft = _
          rw [hdraft]
          exact hnext

/-- A record recovers what it finds in an object. -/
theorem Finds.recovers (title : String) {fields : Fields Json} (hfields : fields.Ascending)
    (hnodup : record.names.Nodup) (h : record.Finds fields.get? values) :
    (record.decoder title).Recovers (.object fields) values := by
  intro source
  have hall := h.putAll hnodup hfields (fun field hmem => Fields.get?_of_mem hfields hmem)
    (fun field _ => List.not_mem_nil) source
  rw [sketch_nil, List.append_nil] at hall
  rw [Document.ofJson, decoder, hall]
  refine h.finish fun name json hget => ?_
  exact List.mem_reverse.mpr (List.mem_map.mpr ⟨_, Fields.mem_of_get? hget, rfl⟩)

/-- What is made of a record is recovered from fields given in any order. -/
theorem recovers_ofFields {title : String} {pairs : List (String × Json)} {make : τ → α} {a : α}
    (values : τ) (hnodup : record.names.Nodup) (h : record.Finds (Json.given pairs) values)
    (hmake : make values = a) : ((record.decoder title).map make).Recovers (.ofFields pairs) a := by
  have hgiven : Json.given pairs = (Fields.ofList pairs).get? :=
    funext fun name => (Fields.get?_ofList pairs name).symm
  rw [hgiven] at h
  exact hmake ▸ (h.recovers title (Fields.ascending_ofList pairs) hnodup).map make

end Record

/-! ## Tagged records -/

mutual

/-- A clean tree can be set aside. -/
theorem Document.exists_toJson : (json : Json) → ∃ tree, (Document.ofJson json).toJson = .ok tree
  | .null | .boolean _ | .number _ | .string _ => ⟨_, rfl⟩
  | .array items => by
    obtain ⟨trees, h⟩ := Document.exists_itemTrees items
    rw [Document.ofJson, Document.toJson, h]
    exact ⟨_, rfl⟩
  | .object fields => by
    obtain ⟨trees, h⟩ := Document.exists_fieldTrees fields
    rw [Document.ofJson, Document.toJson, h]
    exact ⟨_, rfl⟩

theorem Document.exists_itemTrees : (items : List Json) →
    ∃ trees, Document.itemTrees (Document.ofItems items) = .ok trees
  | [] => ⟨[], rfl⟩
  | item :: rest => by
    obtain ⟨tree, h⟩ := Document.exists_toJson item
    obtain ⟨trees, hrest⟩ := Document.exists_itemTrees rest
    rw [Document.ofItems, Document.itemTrees, h, hrest]
    exact ⟨_, rfl⟩

theorem Document.exists_fieldTrees : (fields : List (String × Json)) →
    ∃ trees, Document.fieldTrees (Document.ofFields fields) = .ok trees
  | [] => ⟨[], rfl⟩
  | (_, value) :: rest => by
    obtain ⟨tree, h⟩ := Document.exists_toJson value
    obtain ⟨trees, hrest⟩ := Document.exists_fieldTrees rest
    rw [Document.ofFields, Document.fieldTrees, h, hrest]
    exact ⟨_, rfl⟩

end

namespace Decoder

/-- Fields without the tag are set aside as they are. -/
theorem splitTag_kept {tag : String} {names : List (List String)} {source : Source}
    {fields : Fields Json} (hfields : ∀ json, (tag, json) ∉ fields) (found : Option Nat)
    (kept : List (String × Document)) :
    splitTag tag names source (Document.ofFields fields) found kept =
      .ok (found, kept.reverse ++ Document.ofFields fields) := by
  induction fields generalizing kept with
  | nil => exact congrArg (fun docs => Except.ok (found, docs)) (List.append_nil _).symm
  | cons field rest ih =>
      obtain ⟨key, json⟩ := field
      have hkey : key ≠ tag := fun heq => hfields json (heq ▸ .head _)
      obtain ⟨tree, htree⟩ := Document.exists_toJson json
      simp only [Document.ofFields, splitTag, if_neg hkey, htree]
      change splitTag tag names source (Document.ofFields rest) found _ = _
      rw [ih fun json hmem => hfields json (.tail _ hmem), List.reverse_cons, List.append_assoc]
      rfl

/-- The tag is taken out of an object in order, wherever it stands. -/
theorem splitTag_ofFields {tag name : String} {names : List (List String)} {i : Nat}
    (hplace : place? name names = some i) {fields : Fields Json} (hfields : fields.Ascending)
    (htag : fields.get? tag = some (.string name)) (source : Source)
    (kept : List (String × Document)) :
    splitTag tag names source (Document.ofFields fields) none kept =
      .ok (some i, kept.reverse ++
        Document.ofFields (fields.filter fun field => field.1 ≠ tag)) := by
  induction fields generalizing kept with
  | nil => cases htag
  | cons field rest ih =>
      obtain ⟨key, json⟩ := field
      obtain ⟨hfirst, hrest⟩ := List.pairwise_cons.mp hfields
      rw [Fields.get?_cons] at htag
      by_cases hkey : key = tag
      · subst hkey
        obtain rfl := Option.some.inj ((if_pos rfl).symm.trans htag)
        have hothers : ∀ json, (key, json) ∉ rest := fun json hmem =>
          String.lt_irrefl key (hfirst (key, json) hmem)
        have hfilter : rest.filter (fun field => field.1 ≠ key) = rest := by
          rw [List.filter_eq_self]
          rintro ⟨other, json⟩ hmem
          simp only [decide_eq_true_eq]
          rintro rfl
          exact hothers json hmem
        rw [Document.ofFields, splitTag, if_pos rfl]
        simp only [Document.ofJson, alternative, hplace, bind, Except.bind]
        rw [splitTag_kept hothers, List.filter_cons_of_neg (by simp), hfilter]
      · rw [if_neg fun heq => hkey heq.symm] at htag
        obtain ⟨tree, htree⟩ := Document.exists_toJson json
        rw [Document.ofFields, splitTag, if_neg hkey, htree,
          List.filter_cons_of_pos (by simpa using hkey)]
        change splitTag tag names source (Document.ofFields rest) none _ = _
        rw [ih hrest htag, List.reverse_cons, List.append_assoc]
        rfl

end Decoder

/-- A record recovers what it finds in tagged fields besides the tag. -/
theorem Record.recovers_untagged {τ : Type} {record : Record τ} {values : τ} (title : String)
    {tag : String} {pairs : List (String × Json)} (hnodup : record.names.Nodup)
    (h : record.Finds (fun name => if name = tag then none else Json.given pairs name) values) :
    (record.decoder title).Recovers
      (.object ((Fields.ofList pairs).filter fun field => field.1 ≠ tag)) values := by
  have hgiven : (fun name => if name = tag then none else Json.given pairs name) =
      Fields.get? ((Fields.ofList pairs).filter fun field => field.1 ≠ tag) := by
    funext name
    rw [Fields.get?_filter_ne, Fields.get?_ofList]
    rfl
  rw [hgiven] at h
  exact h.recovers title ((Fields.ascending_ofList pairs).filter _) hnodup

namespace Decoder

variable {α : Type} {tag title name : String} {alternatives : List (String × Decoder α)}
  {pairs : List (String × Json)} {a : α}

/-- One of several tagged records is recovered if its own decoder recovers it without the tag. -/
theorem recovers_tagged {decode : Decoder α} (i : Nat)
    (htag : Json.given pairs tag = some (.string name))
    (hplace : place? name (alternatives.map fun (name, _) => [name]) = some i)
    (hbody : alternatives[i]? = some (name, decode))
    (h : decode.Recovers (.object ((Fields.ofList pairs).filter fun field => field.1 ≠ tag)) a) :
    (tagged tag title alternatives).Recovers (.ofFields pairs) a := by
  intro source
  have hsplit := splitTag_ofFields hplace (Fields.ascending_ofList pairs)
    ((Fields.get?_ofList pairs tag).trans htag) source []
  rw [Json.ofFields, Document.ofJson]
  simp only [tagged, hsplit, hbody, closed, bind, Except.bind]
  exact h .aside

/-- One of several tagged records is recovered from what its fields yield. -/
theorem recovers_variant {τ : Type} {record : Record τ} {own : String} {make : τ → α} (i : Nat)
    (values : τ) (htag : Json.given pairs tag = some (.string name))
    (hplace : place? name (alternatives.map fun (name, _) => [name]) = some i)
    (hbody : alternatives[i]? = some (name, (record.decoder own).map make))
    (hnodup : record.names.Nodup)
    (h : record.Finds (fun name => if name = tag then none else Json.given pairs name) values)
    (hmake : make values = a) : (tagged tag title alternatives).Recovers (.ofFields pairs) a :=
  hmake ▸ recovers_tagged i htag hplace hbody ((Record.recovers_untagged own hnodup h).map make)

end Decoder

end Dialogue
