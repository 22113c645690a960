import GoTasks.Config.Parse
import GoTasks.Proofs.Records

/-!
# The settings of a configuration file

A configuration file is a record of sections, and a section is a record of settings. Both forms of
a record will do, names in any order or items in the order of the fields.

A text is a configuration exactly if it is a document of that shape and the configuration that the
document describes breaks no rule. Each setting is then what is given for it or its default, so that
neither other settings nor the order of sections and settings have any influence on it.
-/

namespace GoTasks.Config

open Toml Toml.Content

attribute [ext] Layout Tools Testing Linking Config

/-- The path that a content is, written as a text. -/
def path? (content : Content) : Option Path :=
  content.text?.map .ofText

/-- A section of configuration files: its name, and its fields with what they ask for. -/
structure SectionShape where
  name : String
  fields : List (String × (Content → Bool))

def projectSection : SectionShape where
  name := "project"
  fields := [("name", reads text?), ("entry", reads path?), ("output_dir", reads path?),
    ("config_dir", reads path?)]

def toolsSection : SectionShape where
  name := "tools"
  fields := [("go", reads text?), ("lint", reads texts?)]

def testSection : SectionShape where
  name := "test"
  fields := [("timeout_secs", reads natural?), ("packages", reads texts?), ("race", reads boolean?)]

def buildSection : SectionShape where
  name := "build"
  fields := [("strip", reads boolean?), ("stamp_version", reads boolean?)]

def sectionShapes : List SectionShape :=
  [projectSection, toolsSection, testSection, buildSection]

namespace SectionShape

def field? (shape : SectionShape) (name : String) : Content → Option Content :=
  given? (shape.fields.map (·.1)) name

/-- What a document gives for a field of a section. -/
def setting? (shape : SectionShape) (name : String) (document : Content) : Option Content :=
  (document.given? (sectionShapes.map (·.name)) shape.name).bind (shape.field? name)

end SectionShape

/-- What is asked of each section. -/
def sectionTests : List (String × (Content → Bool)) :=
  sectionShapes.map fun shape => (shape.name, isRecord shape.fields)

/-- Whether a document is a configuration file: it has no sections but the known ones, they have
no fields but the known ones, and what is given for a field is what it asks for. -/
def isConfiguration (document : Content) : Bool :=
  document.isRecord sectionTests

/-! ## What is described -/

def layoutFrom (setting? : String → Option Content) : Layout where
  name := ((setting? "name").bind text?).getD "go-proxy"
  entry? := (setting? "entry").bind path?
  outputDirectory := ((setting? "output_dir").bind path?).getD (.ofText "dist")
  configDirectory := ((setting? "config_dir").bind path?).getD (.ofText "./configs")

def toolsFrom (setting? : String → Option Content) : Tools where
  go := ((setting? "go").bind text?).getD "go"
  lint := ((setting? "lint").bind texts?).getD ["golangci-lint", "run"]

def testingFrom (setting? : String → Option Content) : Testing where
  timeoutSeconds := ((setting? "timeout_secs").bind natural?).getD 60
  packages := ((setting? "packages").bind texts?).getD ["./..."]
  race := ((setting? "race").bind boolean?).getD false

def linkingFrom (setting? : String → Option Content) : Linking where
  strip := ((setting? "strip").bind boolean?).getD true
  stampVersion := ((setting? "stamp_version").bind boolean?).getD true

/-- The configuration that a document describes: each field is what is given for it, or else its
default. -/
def described (document : Content) : Config where
  layout := layoutFrom fun name => projectSection.setting? name document
  tools := toolsFrom fun name => toolsSection.setting? name document
  testing := testingFrom fun name => testSection.setting? name document
  linking := linkingFrom fun name => buildSection.setting? name document

/-! ## Sections -/

theorem means_decodeText : decodeText.Means text? :=
  Decoder.means_textAs .text

theorem means_decodePath : decodePath.Means path? :=
  Decoder.means_map (Decoder.means_textAs .path) Path.ofText

theorem means_texts : (Decoder.list decodeText).Means texts? :=
  Decoder.means_list_text .text

theorem fills_entry : (Field.of "entry" decodePath fun path (layout : Layout) =>
    { layout with entry? := some path }).Fills Layout.entry? fun content =>
      (path? content).map some :=
  Field.fills_of_map means_decodePath some fun _ _ => rfl

theorem getD_map_some (given? : Option Content) :
    (given?.bind fun content => (path? content).map some).getD none = given?.bind path? := by
  cases given? with
  | none => rfl
  | some content =>
      rw [Option.bind_some, Option.bind_some]
      cases path? content <;> rfl

theorem means_layout : layoutRecord.decode.Means
    (Record.reading projectSection.fields fun content =>
      layoutFrom fun name => projectSection.field? name content) := by
  refine Record.means_reading rfl ?_ fun place node result distinct decoded =>
    Layout.ext ?_ ?_ ?_ ?_
  · simp [layoutRecord, projectSection, Field.accepts_of means_decodeText,
      Field.accepts_of means_decodePath]
  · exact Record.part_of_decode Layout.name text? "name" (by decide)
      (by simp [layoutRecord, Field.fills_of means_decodeText])
      (by simp [layoutRecord, Field.spares_of]) distinct decoded
  · exact (Record.part_of_decode Layout.entry? (fun content => (path? content).map some) "entry"
      (by decide) (by simp [layoutRecord, fills_entry]) (by simp [layoutRecord, Field.spares_of])
      distinct decoded).trans (getD_map_some _)
  · exact Record.part_of_decode Layout.outputDirectory path? "output_dir" (by decide)
      (by simp [layoutRecord, Field.fills_of means_decodePath])
      (by simp [layoutRecord, Field.spares_of]) distinct decoded
  · exact Record.part_of_decode Layout.configDirectory path? "config_dir" (by decide)
      (by simp [layoutRecord, Field.fills_of means_decodePath])
      (by simp [layoutRecord, Field.spares_of]) distinct decoded

theorem means_tools : toolsRecord.decode.Means (Record.reading toolsSection.fields fun content =>
    toolsFrom fun name => toolsSection.field? name content) := by
  refine Record.means_reading rfl ?_ fun place node result distinct decoded => Tools.ext ?_ ?_
  · simp [toolsRecord, toolsSection, Field.accepts_of means_decodeText,
      Field.accepts_of means_texts]
  · exact Record.part_of_decode Tools.go text? "go" (by decide)
      (by simp [toolsRecord, Field.fills_of means_decodeText])
      (by simp [toolsRecord, Field.spares_of]) distinct decoded
  · exact Record.part_of_decode Tools.lint texts? "lint" (by decide)
      (by simp [toolsRecord, Field.fills_of means_texts])
      (by simp [toolsRecord, Field.spares_of]) distinct decoded

theorem means_testing : testingRecord.decode.Means (Record.reading testSection.fields fun content =>
    testingFrom fun name => testSection.field? name content) := by
  refine Record.means_reading rfl ?_ fun place node result distinct decoded => Testing.ext ?_ ?_ ?_
  · simp [testingRecord, testSection, Field.accepts_of Decoder.means_unsigned,
      Field.accepts_of means_texts, Field.accepts_of Decoder.means_boolean]
  · exact Record.part_of_decode Testing.timeoutSeconds natural? "timeout_secs" (by decide)
      (by simp [testingRecord, Field.fills_of Decoder.means_unsigned])
      (by simp [testingRecord, Field.spares_of]) distinct decoded
  · exact Record.part_of_decode Testing.packages texts? "packages" (by decide)
      (by simp [testingRecord, Field.fills_of means_texts])
      (by simp [testingRecord, Field.spares_of]) distinct decoded
  · exact Record.part_of_decode Testing.race boolean? "race" (by decide)
      (by simp [testingRecord, Field.fills_of Decoder.means_boolean])
      (by simp [testingRecord, Field.spares_of]) distinct decoded

theorem means_linking : linkingRecord.decode.Means
    (Record.reading buildSection.fields fun content =>
      linkingFrom fun name => buildSection.field? name content) := by
  refine Record.means_reading rfl ?_ fun place node result distinct decoded => Linking.ext ?_ ?_
  · simp [linkingRecord, buildSection, Field.accepts_of Decoder.means_boolean]
  · exact Record.part_of_decode Linking.strip boolean? "strip" (by decide)
      (by simp [linkingRecord, Field.fills_of Decoder.means_boolean])
      (by simp [linkingRecord, Field.spares_of]) distinct decoded
  · exact Record.part_of_decode Linking.stampVersion boolean? "stamp_version" (by decide)
      (by simp [linkingRecord, Field.fills_of Decoder.means_boolean])
      (by simp [linkingRecord, Field.spares_of]) distinct decoded

/-! ## Documents -/

theorem sectionTests_eq : sectionTests =
    [("project", isRecord projectSection.fields), ("tools", isRecord toolsSection.fields),
      ("test", isRecord testSection.fields), ("build", isRecord buildSection.fields)] :=
  rfl

/-- A section that is missing is one that gives nothing. -/
theorem getD_from {α : Type} (from? : (String → Option Content) → α) (shape : SectionShape)
    (document : Content) :
    ((document.given? (sectionShapes.map (·.name)) shape.name).bind fun content =>
      some (from? fun name => shape.field? name content)).getD (from? fun _ => none) =
      from? fun name => shape.setting? name document := by
  unfold SectionShape.setting?
  cases document.given? _ shape.name <;> rfl

/-- A document is decoded to what it describes if it is a configuration file, and not otherwise. -/
theorem means_config : record.decode.Means (Record.reading sectionTests described) := by
  refine Record.means_reading rfl ?_ fun place node result distinct decoded =>
    Config.ext ?_ ?_ ?_ ?_
  · simp [record, sectionTests_eq, Field.accepts_of_reading means_layout,
      Field.accepts_of_reading means_tools, Field.accepts_of_reading means_testing,
      Field.accepts_of_reading means_linking]
  · rw [Record.part_of_decode Config.layout _ "project" (by decide)
      (by simpa [record] using Field.fills_of_reading means_layout fun _ _ => rfl)
      (by simp [record, Field.spares_of]) distinct decoded]
    exact getD_from layoutFrom projectSection node.content
  · rw [Record.part_of_decode Config.tools _ "tools" (by decide)
      (by simpa [record] using Field.fills_of_reading means_tools fun _ _ => rfl)
      (by simp [record, Field.spares_of]) distinct decoded]
    exact getD_from toolsFrom toolsSection node.content
  · rw [Record.part_of_decode Config.testing _ "test" (by decide)
      (by simpa [record] using Field.fills_of_reading means_testing fun _ _ => rfl)
      (by simp [record, Field.spares_of]) distinct decoded]
    exact getD_from testingFrom testSection node.content
  · rw [Record.part_of_decode Config.linking _ "build" (by decide)
      (by simpa [record] using Field.fills_of_reading means_linking fun _ _ => rfl)
      (by simp [record, Field.spares_of]) distinct decoded]
    exact getD_from linkingFrom buildSection node.content

/-- A document with distinct names is decoded exactly if it is a configuration file. -/
theorem ofDocument_eq_ok_iff {document : Node} (distinct : document.Distinct) {c : Config} :
    ofDocument document = .ok c ↔
      isConfiguration document.content = true ∧ described document.content = c := by
  rw [isConfiguration, ← Record.reading_eq_some_iff]
  exact means_config distinct

/-! ## Texts -/

section

variable {explain : String → String} {text : String} {c : Config}

theorem decodeText?_eq_ok_iff :
    decodeText? explain text = .ok c ↔
      ∃ document, content? text = some document ∧ isConfiguration document = true ∧
        described document = c := by
  rw [decodeText?, content?]
  cases held : document? text with
  | none => simp
  | some node =>
      simp only [Option.map_some, Option.some.injEq, exists_eq_left',
        ← ofDocument_eq_ok_iff (distinct_of_document? held)]
      cases ofDocument node <;> simp

/-- A text is a configuration exactly if it is a document, the document is a configuration file and
what it describes breaks no rule. -/
theorem parse_eq_ok_iff :
    parse explain text = .ok c ↔
      ∃ document, content? text = some document ∧ isConfiguration document = true ∧
        (described document).fault? = none ∧ described document = c := by
  have checked_iff (config : Config) :
      checked config = .ok c ↔ config.fault? = none ∧ config = c := by
    unfold checked
    cases config.fault? <;> simp
  rw [parse, bind_eq_ok_iff]
  simp only [decodeText?_eq_ok_iff, checked_iff]
  constructor
  · rintro ⟨_, ⟨document, held, shaped, rfl⟩, faultless, same⟩
    exact ⟨document, held, shaped, faultless, same⟩
  · rintro ⟨document, held, shaped, faultless, same⟩
    exact ⟨_, ⟨document, held, shaped, rfl⟩, faultless, same⟩

/-- A configuration that is read breaks no rule. -/
theorem isValid_of_parse (read : parse explain text = .ok c) : c.IsValid := by
  obtain ⟨document, -, -, faultless, rfl⟩ := parse_eq_ok_iff.mp read
  exact (fault?_eq_none_iff _).mp faultless

end

/-! ## Order -/

theorem orderBlind_section {fields : List (String × (Content → Bool))}
    (false_of_table : ∀ field ∈ fields, ∀ entries, field.2 (.table entries) = false) :
    OrderBlind (isRecord fields) :=
  orderBlind_isRecord fun field member => orderBlind_of_table (false_of_table field member)

theorem orderBlind_isConfiguration : OrderBlind isConfiguration := by
  refine orderBlind_isRecord ?_
  simp only [sectionTests_eq, List.forall_mem_cons, List.not_mem_nil, false_implies, implies_true,
    and_true]
  refine ⟨orderBlind_section ?_, orderBlind_section ?_, orderBlind_section ?_,
    orderBlind_section ?_⟩
  all_goals
    simp [projectSection, toolsSection, testSection, buildSection, reads, text?, path?, texts?,
      natural?, boolean?]

/-- What is read from a setting does not depend on the order of sections and settings. -/
theorem orderBlind_setting? {α : Type} {f : Content → Option α}
    (none_of_table : ∀ entries, f (.table entries) = none) (shape : SectionShape) (name : String) :
    OrderBlind fun document => (shape.setting? name document).bind f := by
  simp only [SectionShape.setting?, SectionShape.field?, Option.bind_assoc]
  exact orderBlind_given? (orderBlind_given? (orderBlind_of_table none_of_table) _ name) _ _

theorem orderBlind_described : OrderBlind described := by
  intro first second reordered distinct
  have same {α : Type} (f : Content → Option α)
      (none_of_table : ∀ entries, f (.table entries) = none) (shape : SectionShape) (name : String) :
      (shape.setting? name first).bind f = (shape.setting? name second).bind f :=
    orderBlind_setting? none_of_table shape name reordered distinct
  simp only [described, layoutFrom, toolsFrom, testingFrom, linkingFrom, same text? fun _ => rfl,
    same path? fun _ => rfl, same texts? fun _ => rfl, same natural? fun _ => rfl,
    same boolean? fun _ => rfl]

theorem toOption_eq_some_iff {ε α : Type} {x : Except ε α} {a : α} :
    x.toOption = some a ↔ x = .ok a := by
  cases x <;> simp [Except.toOption]

/-- A document is decoded exactly if it is a configuration file, and then to the configuration that
it describes. A text is a configuration exactly if it is such a document and what that describes
breaks no rule. Documents that differ in the order of sections and settings alone are the same
configuration. How a text is explained that is no document makes no difference. -/
theorem parse_described (explain : String → String) :
    (∀ document : Node, document.Distinct →
      (∀ c, ofDocument document = .ok c ↔
        isConfiguration document.content = true ∧ described document.content = c) ∧
      ∀ other : Node, other.Distinct → document.content.Reordered other.content →
        (ofDocument other).toOption = (ofDocument document).toOption) ∧
    ∀ text : String,
      (∀ c, parse explain text = .ok c ↔
        ∃ document, content? text = some document ∧ isConfiguration document = true ∧
          (described document).fault? = none ∧ described document = c) ∧
      ∀ (other : String) (document otherDocument : Content), content? text = some document →
        content? other = some otherDocument → document.Reordered otherDocument →
        (parse explain other).toOption = (parse explain text).toOption := by
  constructor
  · intro document distinct
    refine ⟨fun c => ofDocument_eq_ok_iff distinct, fun other otherDistinct reordered => ?_⟩
    have described_eq := orderBlind_described reordered distinct.content
    have shaped_eq := orderBlind_isConfiguration reordered distinct.content
    ext c
    rw [toOption_eq_some_iff, toOption_eq_some_iff, ofDocument_eq_ok_iff otherDistinct,
      ofDocument_eq_ok_iff distinct, described_eq, shaped_eq]
  · intro text
    refine ⟨fun c => parse_eq_ok_iff, ?_⟩
    intro other document otherDocument held otherHeld reordered
    have distinct := distinct_of_content? held
    have described_eq := orderBlind_described reordered distinct
    have shaped_eq := orderBlind_isConfiguration reordered distinct
    ext c
    rw [toOption_eq_some_iff, toOption_eq_some_iff, parse_eq_ok_iff, parse_eq_ok_iff]
    simp only [held, otherHeld, Option.some.injEq, exists_eq_left', described_eq, shaped_eq]

/-- Two texts with the same settings, in a different order and written in different ways. -/
theorem parse_described_swapped :
    let text := "[test]\nrace = true\ntimeout_secs = 120\n[project]\nname = \"edge\"\n"
    let other := "project.name = 'edge'\n[test]\ntimeout_secs = 120\nrace = true\n"
    let project : String × Content := ("project", .table [("name", .scalar (.text "edge"))])
    let race : String × Content := ("race", .scalar (.boolean true))
    let timeout : String × Content := ("timeout_secs", .scalar (.integer 120))
    let document : Content := .table [("test", .table [race, timeout]), project]
    let otherDocument : Content := .table [project, ("test", .table [timeout, race])]
    let c : Config := { Config.default with
      layout := { Layout.default with name := "edge" }
      testing := { Testing.default with timeoutSeconds := 120, race := true } }
    content? text = some document ∧ content? other = some otherDocument ∧
      document.Reordered otherDocument ∧ (document? text).map ofDocument = some (.ok c) ∧
      parse id text = .ok c ∧ parse id other = .ok c := by
  intro text other project race timeout document otherDocument c
  have held : content? text = some document := by decide +kernel
  have otherHeld : content? other = some otherDocument := by decide +kernel
  have reordered : document.Reordered otherDocument :=
    .trans (.inside [] [project] (.table (.swap timeout race []))) (.table (.swap project _ []))
  obtain ⟨documents, texts⟩ := parse_described id
  have decoded : (document? text).map ofDocument = some (.ok c) := by
    obtain ⟨node, read, same⟩ := Option.map_eq_some_iff.mp held
    rw [read, Option.map_some, (documents node (distinct_of_document? read)).1 c |>.mpr]
    rw [same]
    exact ⟨by decide +kernel, by decide +kernel⟩
  have parsed : parse id text = .ok c :=
    ((texts text).1 c).mpr ⟨document, held, by decide +kernel, by decide +kernel, by decide +kernel⟩
  refine ⟨held, otherHeld, reordered, decoded, parsed, ?_⟩
  rw [← toOption_eq_some_iff, (texts text).2 other document otherDocument held otherHeld reordered,
    parsed]
  rfl

end GoTasks.Config
