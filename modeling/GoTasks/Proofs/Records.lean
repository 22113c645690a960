import GoTasks.Proofs.Content
import GoTasks.Toml.Decode
import Mathlib.Data.List.Forall2

/-!
# Decoding records

A decoder means a reading of contents if it decodes just what the reading reads, to the same value.
Decoders of records mean readings too: a record is decoded exactly if it is given nothing but what
fits its fields, and each of its parts then holds what is given for the one field that fills it, or
the default.

A table is taken in entry by entry and an array item by item. Both are the same course over the
parts that are given, each with the field it is given for.
-/

namespace GoTasks.Toml

/-- Whether a decoder decodes just what a reading reads, to the same value. -/
def Decoder.Means {α : Type} (decode : Decoder α) (read? : Content → Option α) : Prop :=
  ∀ ⦃place : Span⦄ ⦃node : Node⦄ ⦃a : α⦄, node.Distinct →
    (decode place node = .ok a ↔ read? node.content = some a)

theorem bind_eq_ok_iff {ε α β : Type} {x : Except ε α} {f : α → Except ε β} {b : β} :
    x >>= f = .ok b ↔ ∃ a, x = .ok a ∧ f a = .ok b := by
  cases x with
  | error e => exact ⟨nofun, fun ⟨_, impossible, _⟩ => nomatch impossible⟩
  | ok a => exact ⟨fun same => ⟨a, rfl, same⟩, fun ⟨_, same, value⟩ => Except.ok.inj same ▸ value⟩

theorem map_eq_ok_iff {ε α β : Type} {f : α → β} {x : Except ε α} {b : β} :
    f <$> x = .ok b ↔ ∃ a, x = .ok a ∧ f a = b := by
  cases x with
  | error e => exact ⟨nofun, fun ⟨_, impossible, _⟩ => nomatch impossible⟩
  | ok a =>
      exact ⟨fun same => ⟨a, rfl, Except.ok.inj same⟩,
        fun ⟨_, same, value⟩ => congrArg Except.ok (Except.ok.inj same ▸ value)⟩

namespace Decoder

/-! ## Values -/

theorem means_textAs (expected : Expectation) : (textAs expected).Means Content.text? := by
  intro place node a distinct
  cases node with
  | scalar span value =>
      cases value <;> simp [textAs, refuse, Node.content, Content.text?]
  | array | tables | table => simp [textAs, refuse, Node.content, Content.text?]

theorem means_boolean : boolean.Means Content.boolean? := by
  intro place node a distinct
  cases node with
  | scalar span value =>
      cases value <;> simp [boolean, refuse, Node.content, Content.boolean?]
  | array | tables | table => simp [boolean, refuse, Node.content, Content.boolean?]

theorem means_unsigned : unsigned.Means Content.natural? := by
  intro place node a distinct
  cases node with
  | scalar span value =>
      cases value with
      | integer n =>
          simp only [unsigned, Node.content, Content.natural?]
          split <;> simp
      | _ => simp [unsigned, refuse, Node.content, Content.natural?]
  | array | tables | table => simp [unsigned, refuse, Node.content, Content.natural?]

theorem means_map {α β : Type} {decode : Decoder α} {read? : Content → Option α}
    (means : decode.Means read?) (f : α → β) :
    Means (fun place node => f <$> decode place node) fun content => (read? content).map f := by
  intro place node b distinct
  rw [map_eq_ok_iff, Option.map_eq_some_iff]
  exact exists_congr fun a => and_congr_left fun _ => means distinct

theorem mapM_eq_ok_iff {α : Type} {item : Decoder α} {read? : Content → Option α}
    (means : item.Means read?) (place : Span) {items : List Node} {as : List α}
    (distinct : ∀ node ∈ items, node.Distinct) :
    items.mapM (item place) = .ok as ↔ (items.map Node.content).mapM read? = some as := by
  induction items generalizing as with
  | nil => simp [pure, Except.pure]
  | cons node rest ih =>
      obtain ⟨first, others⟩ := List.forall_mem_cons.mp distinct
      simp only [List.mapM_cons, List.map_cons, bind_eq_ok_iff, Option.bind_eq_bind,
        Option.bind_eq_some_iff, means first, ih others, pure, Except.pure, Except.ok.injEq,
        Option.some.injEq]

theorem means_list_text (expected : Expectation) :
    (list (textAs expected)).Means Content.texts? := by
  intro place node as distinct
  cases distinct with
  | array distinct | tables distinct =>
      rw [list, mapM_eq_ok_iff (means_textAs expected) place distinct, Node.content,
        Node.contents_eq, Content.texts?]
  | scalar | table => simp [list, refuse, Node.content, Content.texts?]

end Decoder

/-! ## Fields -/

namespace Field

variable {σ α β : Type}

/-- Whether a field accepts just the contents that a test accepts. -/
def Accepts (field : Field σ) (test : Content → Bool) : Prop :=
  ∀ ⦃place : Span⦄ ⦃node : Node⦄, node.Distinct →
    ((∃ update, field.decode place node = .ok update) ↔ test node.content = true)

/-- Whether a field puts what is read from it into a part of a record, whatever was there. -/
def Fills (field : Field σ) (part : σ → α) (read? : Content → Option α) : Prop :=
  ∀ ⦃place : Span⦄ ⦃node : Node⦄ ⦃update : σ → σ⦄, node.Distinct →
    field.decode place node = .ok update → ∀ state, read? node.content = some (part (update state))

/-- Whether a field leaves a part of a record alone. -/
def Spares (field : Field σ) (part : σ → α) : Prop :=
  ∀ ⦃place : Span⦄ ⦃node : Node⦄ ⦃update : σ → σ⦄,
    field.decode place node = .ok update → ∀ state, part (update state) = part state

variable {name : String} {decode : Decoder β} {put : β → σ → σ}

@[simp] theorem name_of : (Field.of name decode put).name = name := rfl

theorem decode_of_eq_ok_iff {place : Span} {node : Node} {update : σ → σ} :
    (Field.of name decode put).decode place node = .ok update ↔
      ∃ b, decode place node = .ok b ∧ put b = update :=
  map_eq_ok_iff

theorem accepts_of {read? : Content → Option β} (means : decode.Means read?) :
    (Field.of name decode put).Accepts (Content.reads read?) := by
  intro place node distinct
  simp only [decode_of_eq_ok_iff, Content.reads, Option.isSome_iff_exists, means distinct]
  constructor
  · rintro ⟨_, b, decoded, -⟩
    exact ⟨b, decoded⟩
  · rintro ⟨b, decoded⟩
    exact ⟨_, b, decoded, rfl⟩

theorem fills_of_map {part : σ → α} {read? : Content → Option β} (means : decode.Means read?)
    (f : β → α) (filled : ∀ b state, part (put b state) = f b) :
    (Field.of name decode put).Fills part fun content => (read? content).map f := by
  intro place node update distinct decoded state
  obtain ⟨b, read, rfl⟩ := decode_of_eq_ok_iff.mp decoded
  simp only [(means distinct).mp read, Option.map_some, filled]

theorem fills_of {part : σ → β} {read? : Content → Option β} (means : decode.Means read?)
    (filled : ∀ b state, part (put b state) = b) : (Field.of name decode put).Fills part read? := by
  simpa only [Option.map_id'] using fills_of_map means (fun b => b) filled

theorem spares_of {part : σ → α} (spared : ∀ b state, part (put b state) = part state) :
    (Field.of name decode put).Spares part := by
  intro place node update decoded state
  obtain ⟨b, -, rfl⟩ := decode_of_eq_ok_iff.mp decoded
  exact spared b state

end Field

/-! ## What is given -/

namespace Record

variable {σ α : Type}

/-- A part of a document that is given for a field. -/
structure Given (σ : Type) where
  field : Field σ
  place : Span
  node : Node

namespace Given

/-- Take what is given into a record. -/
def take (state : σ) (given : Given σ) : Except Mismatch σ :=
  (· state) <$> given.field.decode given.place given.node

/-- The content that is given, under the name of its field. -/
def entry (given : Given σ) : String × Content :=
  (given.field.name, given.node.content)

end Given

variable (r : Record σ)

/-- Whether an entry of a table is given for a field. -/
def Matches (entry : Key × Node) (given : Given σ) : Prop :=
  r.fields.find? (·.name = entry.1.name) = some given.field ∧
    given.place = entry.1.span ∧ given.node = entry.2

/-- Whether a part of a document gives just some parts for the fields of a record, in order. -/
def Gives (place : Span) : Node → List (Given σ) → Prop
  | .table _ _ entries, given => List.Forall₂ r.Matches entries given
  | .array _ items, given | .tables items, given =>
    given = (r.fields.zip items).map fun pair => ⟨pair.1, place, pair.2⟩
  | .scalar .., _ => False

variable {r}

theorem foldlM_takeEntry_eq_ok_iff {entries : List (Key × Node)} {state result : σ} :
    entries.foldlM r.takeEntry state = .ok result ↔
      ∃ given, List.Forall₂ r.Matches entries given ∧
        given.foldlM Given.take state = .ok result := by
  induction entries generalizing state with
  | nil => simp
  | cons entry rest ih =>
      rw [List.foldlM_cons, bind_eq_ok_iff]
      constructor
      · rintro ⟨next, taken, folded⟩
        obtain ⟨given, matched, folded⟩ := ih.mp folded
        unfold takeEntry at taken
        split at taken
        · cases taken
        · next field found =>
          refine ⟨⟨field, entry.1.span, entry.2⟩ :: given, .cons ⟨found, rfl, rfl⟩ matched, ?_⟩
          rw [List.foldlM_cons, bind_eq_ok_iff]
          exact ⟨next, taken, folded⟩
      · rintro ⟨_, _ | @⟨_, ⟨field, _, _⟩, _, given, ⟨found, rfl, rfl⟩, matched⟩, folded⟩
        rw [List.foldlM_cons, bind_eq_ok_iff] at folded
        obtain ⟨next, taken, folded⟩ := folded
        refine ⟨next, ?_, ih.mpr ⟨given, matched, folded⟩⟩
        unfold takeEntry
        rw [found]
        exact taken

/-- A record is decoded by taking in what is given for its fields. -/
theorem decode_eq_ok_iff {place : Span} {node : Node} {result : σ} :
    r.decode place node = .ok result ↔
      ∃ given, r.Gives place node given ∧ given.foldlM Given.take r.default = .ok result := by
  cases node with
  | table kind span? entries => exact foldlM_takeEntry_eq_ok_iff
  | array | tables =>
      simp only [decode, Gives, exists_eq_left, List.foldlM_map]
      rfl
  | scalar span value => cases value <;> simp [decode, Gives, Decoder.refuse]

/-! ## What a record is decoded to -/

theorem exists_foldlM_take_iff {given : List (Given σ)} {state : σ} :
    (∃ result, given.foldlM Given.take state = .ok result) ↔
      ∀ x ∈ given, ∃ update, x.field.decode x.place x.node = .ok update := by
  induction given generalizing state with
  | nil => simp [pure, Except.pure]
  | cons x rest ih =>
      simp only [List.foldlM_cons, bind_eq_ok_iff, List.forall_mem_cons]
      constructor
      · rintro ⟨result, next, taken, folded⟩
        obtain ⟨update, decoded, -⟩ := map_eq_ok_iff.mp taken
        exact ⟨⟨update, decoded⟩, ih.mp ⟨result, folded⟩⟩
      · rintro ⟨⟨update, decoded⟩, others⟩
        obtain ⟨result, folded⟩ := ih.mpr others
        exact ⟨result, update state, map_eq_ok_iff.mpr ⟨update, decoded, rfl⟩, folded⟩

/-- A part of a record holds what is given for the field that fills it, or what it held before. -/
theorem part_of_foldlM_take {part : σ → α} {name : String} {read? : Content → Option α}
    {given : List (Given σ)} {state result : σ}
    (fills : ∀ x ∈ given, x.field.name = name → x.field.Fills part read?)
    (spares : ∀ x ∈ given, x.field.name ≠ name → x.field.Spares part)
    (distinct : ∀ x ∈ given, x.node.Distinct) (nodup : (given.map (·.field.name)).Nodup)
    (folded : given.foldlM Given.take state = .ok result) :
    part result = (((given.map Given.entry).lookup name).bind read?).getD (part state) := by
  induction given generalizing state with
  | nil =>
      cases folded
      rfl
  | cons x rest ih =>
      rw [List.foldlM_cons, bind_eq_ok_iff] at folded
      obtain ⟨next, taken, folded⟩ := folded
      obtain ⟨update, decoded, rfl⟩ := map_eq_ok_iff.mp taken
      rw [List.forall_mem_cons] at fills spares distinct
      obtain ⟨fresh, nodup⟩ := List.nodup_cons.mp nodup
      rw [ih fills.2 spares.2 distinct.2 nodup folded, List.map_cons, List.lookup_cons]
      by_cases here : name = x.field.name
      · subst here
        have absent : (rest.map Given.entry).lookup x.field.name = none := by
          rw [List.lookup_eq_none_iff, List.forall_mem_map]
          exact fun y member => bne_iff_ne.mpr fun same =>
            fresh (List.mem_map.mpr ⟨y, member, same.symm⟩)
        simp [absent, Given.entry, fills.1 rfl distinct.1 decoded state]
      · simp [Given.entry, beq_eq_false_iff_ne.mpr here, spares.1 (Ne.symm here) decoded state]

namespace Gives

variable {place : Span} {node : Node} {given : List (Given σ)}

theorem entriesFor? (gives : r.Gives place node given) :
    node.content.entriesFor? r.fieldNames = some (given.map Given.entry) := by
  cases node with
  | table kind span? entries =>
      rw [Node.content, Content.entriesFor?, Node.entryContents_eq]
      congr 1
      unfold Gives at gives
      induction gives with
      | nil => rfl
      | cons first others ih =>
          obtain ⟨found, -, same⟩ := first
          have name := List.find?_some found
          simp only [decide_eq_true_eq] at name
          rw [List.map_cons, List.map_cons, ih, Given.entry, name, same]
  | array span items | tables items =>
      rw [Gives] at gives
      subst gives
      rw [Node.content, Content.entriesFor?, Node.contents_eq, fieldNames, List.zip_map,
        List.map_map]
      rfl
  | scalar => exact gives.elim

/-- What is given comes with a field of the record, and its own names are distinct. -/
theorem sound (gives : r.Gives place node given) (distinct : node.Distinct) :
    ∀ x ∈ given, x.field ∈ r.fields ∧ x.node.Distinct := by
  cases distinct with
  | scalar => exact gives.elim
  | table nodup values =>
      unfold Gives at gives
      clear nodup
      induction gives with
      | nil => simp
      | cons first others ih =>
          obtain ⟨found, -, same⟩ := first
          rw [List.forall_mem_cons] at values ⊢
          exact ⟨⟨List.mem_of_find?_eq_some found, same ▸ values.1⟩, ih values.2⟩
  | array distinct | tables distinct =>
      rw [Gives] at gives
      subst gives
      rw [List.forall_mem_map]
      rintro ⟨field, item⟩ member
      exact (List.of_mem_zip member).imp_right (distinct item)

theorem nodup (gives : r.Gives place node given) (distinct : node.Distinct)
    (nodup : r.fieldNames.Nodup) : (given.map (·.field.name)).Nodup := by
  have entries_nodup := Content.nodup_of_entriesFor? nodup distinct.content gives.entriesFor?
  rwa [List.map_map] at entries_nodup

end Gives

theorem exists_gives (place : Span) {node : Node} {entries : List (String × Content)}
    (read : node.content.entriesFor? r.fieldNames = some entries)
    (known : ∀ entry ∈ entries, entry.1 ∈ r.fieldNames) : ∃ given, r.Gives place node given := by
  cases node with
  | scalar => cases read
  | array | tables => exact ⟨_, rfl⟩
  | table kind span? nodes =>
      rw [Node.content, Content.entriesFor?, Node.entryContents_eq, Option.some.injEq] at read
      subst read
      unfold Gives
      induction nodes with
      | nil => exact ⟨[], .nil⟩
      | cons entry rest ih =>
          rw [List.map_cons, List.forall_mem_cons] at known
          obtain ⟨given, matched⟩ := ih known.2
          obtain ⟨field, member, name⟩ := List.mem_map.mp known.1
          have isSome : (r.fields.find? (·.name = entry.1.name)).isSome :=
            List.find?_isSome.mpr ⟨field, member, by simpa using name⟩
          obtain ⟨found, foundEq⟩ := Option.isSome_iff_exists.mp isSome
          exact ⟨⟨found, entry.1.span, entry.2⟩ :: given, .cons ⟨foundEq, rfl, rfl⟩ matched⟩

section

variable {shape : List (String × (Content → Bool))} (names : r.fieldNames = shape.map (·.1))
  (accepts : ∀ field ∈ r.fields, ∀ test ∈ shape, field.name = test.1 → field.Accepts test.2)
include names accepts

/-- What is given for a field fits it exactly if the field decodes it. -/
theorem fitsField_entry_iff {x : Given σ} (member : x.field ∈ r.fields)
    (distinct : x.node.Distinct) :
    Content.fitsField shape x.entry = true ↔
      ∃ update, x.field.decode x.place x.node = .ok update := by
  rw [Content.fitsField_iff]
  constructor
  · rintro ⟨test, test_mem, name, fit⟩
    exact (accepts x.field member test test_mem name.symm distinct).mpr fit
  · intro decodes
    have known : x.field.name ∈ r.fieldNames := List.mem_map_of_mem member
    rw [names] at known
    obtain ⟨test, test_mem, name⟩ := List.mem_map.mp known
    exact ⟨test, test_mem, name,
      (accepts x.field member test test_mem name.symm distinct).mp decodes⟩

omit accepts in
theorem exists_gives_of_isRecord (place : Span) {node : Node}
    (isRecord : node.content.isRecord shape = true) : ∃ given, r.Gives place node given := by
  rw [Content.isRecord, Option.any_eq_true] at isRecord
  obtain ⟨entries, read, fits⟩ := isRecord
  rw [← names] at read
  refine exists_gives place read fun entry member => ?_
  obtain ⟨test, test_mem, name, -⟩ :=
    Content.fitsField_iff.mp (List.all_eq_true.mp fits entry member)
  rw [names]
  exact List.mem_map.mpr ⟨test, test_mem, name⟩

/-- A record is decoded exactly if it is given nothing but what fits its fields. -/
theorem exists_decode_iff {place : Span} {node : Node} (distinct : node.Distinct) :
    (∃ result, r.decode place node = .ok result) ↔ node.content.isRecord shape = true := by
  have fits_iff {given : List (Given σ)} (gives : r.Gives place node given) :
      node.content.isRecord shape = true ↔
        ∃ result, given.foldlM Given.take r.default = .ok result := by
    rw [Content.isRecord, ← names, gives.entriesFor?, Option.any_some, List.all_eq_true,
      List.forall_mem_map, exists_foldlM_take_iff]
    refine forall₂_congr fun x member => ?_
    obtain ⟨field_mem, x_distinct⟩ := gives.sound distinct x member
    exact fitsField_entry_iff names accepts field_mem x_distinct
  simp only [decode_eq_ok_iff]
  constructor
  · rintro ⟨result, given, gives, folded⟩
    exact (fits_iff gives).mpr ⟨result, folded⟩
  · intro isRecord
    obtain ⟨given, gives⟩ := exists_gives_of_isRecord names place isRecord
    obtain ⟨result, folded⟩ := (fits_iff gives).mp isRecord
    exact ⟨result, given, gives, folded⟩

end

/-- A part of a decoded record holds what is given for the field that fills it, or the default. -/
theorem part_of_decode (part : σ → α) (read? : Content → Option α) (name : String)
    (fieldNames_nodup : r.fieldNames.Nodup)
    (fills : ∀ field ∈ r.fields, field.name = name → field.Fills part read?)
    (spares : ∀ field ∈ r.fields, field.name ≠ name → field.Spares part)
    {place : Span} {node : Node} {result : σ} (distinct : node.Distinct)
    (decoded : r.decode place node = .ok result) :
    part result = ((node.content.given? r.fieldNames name).bind read?).getD (part r.default) := by
  obtain ⟨given, gives, folded⟩ := decode_eq_ok_iff.mp decoded
  have sound := gives.sound distinct
  rw [Content.given?, gives.entriesFor?, Option.bind_some]
  exact part_of_foldlM_take (fun x member => fills x.field (sound x member).1)
    (fun x member => spares x.field (sound x member).1) (fun x member => (sound x member).2)
    (gives.nodup distinct fieldNames_nodup) folded

/-- A reading of records: a content that is a record with some fields has a value. -/
def reading (shape : List (String × (Content → Bool))) (value : Content → σ)
    (content : Content) : Option σ :=
  if content.isRecord shape then some (value content) else none

theorem reading_eq_some_iff {shape : List (String × (Content → Bool))} {value : Content → σ}
    {content : Content} {a : σ} :
    reading shape value content = some a ↔ content.isRecord shape = true ∧ value content = a := by
  unfold reading
  split <;> simp_all

theorem means_reading {shape : List (String × (Content → Bool))} {value : Content → σ}
    (names : r.fieldNames = shape.map (·.1))
    (accepts : ∀ field ∈ r.fields, ∀ test ∈ shape, field.name = test.1 → field.Accepts test.2)
    (values : ∀ ⦃place : Span⦄ ⦃node : Node⦄ ⦃result : σ⦄, node.Distinct →
      r.decode place node = .ok result → result = value node.content) :
    Decoder.Means r.decode (reading shape value) := by
  intro place node result distinct
  rw [reading_eq_some_iff, ← exists_decode_iff names accepts distinct]
  constructor
  · intro decoded
    exact ⟨⟨result, decoded⟩, (values distinct decoded).symm⟩
  · rintro ⟨⟨result', decoded⟩, value_eq⟩
    rwa [← value_eq, ← values distinct decoded]

end Record

namespace Field

variable {σ α : Type} {name : String} {decode : Decoder α} {put : α → σ → σ}
  {shape : List (String × (Content → Bool))} {value : Content → α}

theorem accepts_of_reading (means : decode.Means (Record.reading shape value)) :
    (Field.of name decode put).Accepts (Content.isRecord shape) := by
  have same : Content.reads (Record.reading shape value) = Content.isRecord shape := by
    funext content
    rw [Bool.eq_iff_iff, Content.reads, Option.isSome_iff_exists]
    simp only [Record.reading_eq_some_iff, exists_and_left, exists_eq', and_true]
  rw [← same]
  exact accepts_of means

theorem fills_of_reading {part : σ → α} (means : decode.Means (Record.reading shape value))
    (filled : ∀ a state, part (put a state) = a) :
    (Field.of name decode put).Fills part fun content => some (value content) := by
  intro place node update distinct decoded state
  obtain ⟨-, read⟩ := Record.reading_eq_some_iff.mp (fills_of means filled distinct decoded state)
  exact congrArg some read

end Field
end GoTasks.Toml
