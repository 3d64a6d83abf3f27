import ScopeCascade.Config.Basic
import Mathlib.Data.List.Forall2

/-! Reading a configuration. A document has to hold values of some types at some of its nodes, which
are looked at in a fixed order: the first node without such a value is reported. If there is none,
each part of the configuration is what the nodes of its name say. -/
namespace ScopeCascade.Config

/-- What a block demands of one of its nodes: a first argument of a type. -/
structure Demand where
  block : String
  node : Kdl.Node
  expected : FieldType

namespace Demand

def Met (demand : Demand) : Prop :=
  match demand.expected with
  | .string => ∃ text, demand.node.argument? = some (.string text)
  | .boolean => ∃ on, demand.node.argument? = some (.bool on)

/-- What is reported of a demand that is not met. -/
def fault (demand : Demand) : ConfigError :=
  .invalidValue demand.block demand.node.name demand.expected

/-- The demand on a field of a block, if the block has a node of its name. -/
def ofField (block : String) (document : Kdl.Document) (name : String) (expected : FieldType) :
    List Demand :=
  ((document.get? name).map fun node => ⟨block, node, expected⟩).toList

/-- The demands on a document in the order in which they count. -/
def ofDocument (document : Kdl.Document) : List Demand :=
  let editor := Config.block document "editor"
  let cascade := Config.block document "cascade"
  let environment := Config.block document "environment"
  ofField "editor" editor "name" .string ++
    (ofField "editor" editor "version" .string ++
      (ofField "editor" editor "app-path" .string ++
        (ofField "editor" editor "support-path" .string ++
          (ofField "cascade" cascade "cache" .boolean ++
            environment.map fun node => ⟨"environment", node, .string⟩))))

/-- The error is about the first of the demands that is not met. -/
def FirstUnmet (demands : List Demand) (error : ConfigError) : Prop :=
  ∃ before demand after, demands = before ++ demand :: after ∧ (∀ earlier ∈ before, earlier.Met) ∧
    ¬ demand.Met ∧ error = demand.fault

end Demand

/-- A field has the value that the first argument of the first node of its name has; it has none if
there is no such node. -/
def Holds {α : Type} (form : α → Kdl.Value) (document : Kdl.Document) (name : String)
    (value : Option α) : Prop :=
  match document.get? name with
  | none => value = none
  | some node => ∃ held, node.argument? = some (form held) ∧ value = some held

/-- The configuration that a document describes. -/
structure Describes (document : Kdl.Document) (config : Config) : Prop where
  name : Holds .string (block document "editor") "name" config.name
  version : Holds .string (block document "editor") "version" config.version
  executable : ∃ text, Holds .string (block document "editor") "app-path" text ∧
    config.executable = text.map FilePath.ofText
  supportPath : ∃ text, Holds .string (block document "editor") "support-path" text ∧
    config.supportPath = text.map FilePath.ofText
  cache : Holds .bool (block document "cascade") "cache" config.cache
  /-- A variable stands where its name comes up first. -/
  order : config.environment.keys =
    ((block document "environment").map Kdl.Node.name).eraseDups
  /-- The last value of a variable counts, the first one from behind. -/
  values (name : String) :
    Holds .string (block document "environment").reverse name (config.environment.get? name)
  warnings : config.warnings =
    ((document.map Kdl.Node.name).filter (· ∉ ["editor", "cascade", "environment"])).map
        (⟨·, "top level"⟩) ++
      (((block document "editor").map Kdl.Node.name).filter
          (· ∉ ["name", "version", "app-path", "support-path"])).map (⟨·, "editor"⟩) ++
      (((block document "cascade").map Kdl.Node.name).filter (· ∉ ["cache"])).map (⟨·, "cascade"⟩)

/-- The result of a step that looks at some demands in turn: the fault of the first one that is not
met, or, if all of them are, a value with a property. -/
inductive Answers {α : Type} (property : α → Prop) : List Demand → Except ConfigError α → Prop
  | value {value : α} : property value → Answers property [] (.ok value)
  | met {demand : Demand} {later : List Demand} {result : Except ConfigError α} :
    demand.Met → Answers property later result → Answers property (demand :: later) result
  | unmet {demand : Demand} {later : List Demand} :
    ¬ demand.Met → Answers property (demand :: later) (.error demand.fault)

namespace Answers

variable {α β : Type} {property : α → Prop} {other : β → Prop} {demands later : List Demand}
  {result : Except ConfigError α}

theorem bind (answers : Answers property demands result) {next : α → Except ConfigError β}
    (step : ∀ value, property value → Answers other later (next value)) :
    Answers other (demands ++ later) (result >>= next) := by
  induction answers with
  | value holds => exact step _ holds
  | met isMet _ ih => exact .met isMet ih
  | unmet notMet => exact .unmet notMet

theorem property_of_ok {value : α} (answers : Answers property demands (.ok value)) :
    property value := by
  generalize is : Except.ok value = result at answers
  induction answers with
  | value holds => exact Except.ok.inj is ▸ holds
  | met _ _ ih => exact ih is
  | unmet _ => contradiction

theorem eq_error_iff (answers : Answers property demands result) (error : ConfigError) :
    result = .error error ↔ Demand.FirstUnmet demands error := by
  induction answers with
  | value _ =>
    refine iff_of_false nofun ?_
    rintro ⟨before, demand, after, split, _⟩
    exact absurd split (by simp)
  | met isMet _ ih =>
    rw [ih]
    constructor
    · rintro ⟨before, demand, after, rfl, earlier, notMet, rfl⟩
      exact ⟨_ :: before, demand, after, rfl, List.forall_mem_cons.mpr ⟨isMet, earlier⟩, notMet,
        rfl⟩
    · rintro ⟨before, demand, after, split, earlier, notMet, rfl⟩
      cases before with
      | nil =>
        obtain ⟨rfl, rfl⟩ := List.cons.inj split
        contradiction
      | cons first before =>
        obtain ⟨rfl, rfl⟩ := List.cons.inj split
        exact ⟨before, demand, after, rfl, (List.forall_mem_cons.mp earlier).2, notMet, rfl⟩
  | @unmet first rest notMet =>
    constructor
    · intro is
      exact ⟨[], first, rest, rfl, nofun, notMet, (Except.error.inj is).symm⟩
    · rintro ⟨before, demand, after, split, earlier, _, rfl⟩
      cases before with
      | nil => rw [(List.cons.inj split).1]
      | cons _ before =>
        obtain ⟨rfl, _⟩ := List.cons.inj split
        exact absurd (earlier _ List.mem_cons_self) notMet

end Answers

/-- Values of a type are read, and demands for it met, just where one of its forms stands. -/
structure Reads {α : Type} (expected : FieldType) (form : α → Kdl.Value)
    (read : Kdl.Value → Option α) : Prop where
  read_iff (value : Kdl.Value) (held : α) : read value = some held ↔ value = form held
  met_iff (block : String) (node : Kdl.Node) :
    Demand.Met ⟨block, node, expected⟩ ↔ ∃ held, node.argument? = some (form held)

theorem reads_string : Reads .string .string Kdl.Value.string? where
  read_iff value held := by cases value <;> simp [Kdl.Value.string?]
  met_iff _ _ := Iff.rfl

theorem reads_bool : Reads .boolean .bool Kdl.Value.bool? where
  read_iff value held := by cases value <;> simp [Kdl.Value.bool?]
  met_iff _ _ := Iff.rfl

namespace Reads

variable {α β : Type} {expected : FieldType} {form : α → Kdl.Value} {read : Kdl.Value → Option α}

/-- One demand on a node, and what is made of its argument. -/
theorem argument (reads : Reads expected form read) (block : String) (node : Kdl.Node)
    (make : α → β) {result : Except ConfigError β}
    (present : ∀ held, node.argument?.bind read = some held → result = .ok (make held))
    (absent : node.argument?.bind read = none →
      result = .error (.invalidValue block node.name expected)) :
    Answers (fun made => ∃ held, node.argument? = some (form held) ∧ made = make held)
      [⟨block, node, expected⟩] result := by
  cases found : node.argument?.bind read with
  | some held =>
    obtain ⟨value, argument, is⟩ := Option.bind_eq_some_iff.mp found
    have holds : node.argument? = some (form held) := by
      rw [argument, (reads.read_iff value held).mp is]
    rw [present held found]
    exact .met ((reads.met_iff block node).mpr ⟨held, holds⟩) (.value ⟨held, holds, rfl⟩)
  | none =>
    rw [absent found]
    refine .unmet fun isMet => ?_
    obtain ⟨held, holds⟩ := (reads.met_iff block node).mp isMet
    rw [holds, Option.bind_some, (reads.read_iff _ held).mpr rfl] at found
    contradiction

theorem field (reads : Reads expected form read) (block : String) (document : Kdl.Document)
    (name : String) :
    Answers (Holds form document name) (Demand.ofField block document name expected)
      (field? expected read block document name) := by
  unfold Holds Demand.ofField field?
  cases found : document.get? name with
  | none => exact .value rfl
  | some node =>
    have named : node.name = name := by
      rw [Kdl.Document.get?] at found
      exact of_decide_eq_true (List.find?_some found :)
    subst named
    exact reads.argument block node some (fun held is => by simp only [is])
      fun is => by simp only [is]

end Reads

/-- Pairs of the names of some nodes with the texts they hold. -/
def Entries : List Kdl.Node → List (String × String) → Prop :=
  List.Forall₂ fun node pair => node.name = pair.1 ∧ node.argument? = some (.string pair.2)

theorem answers_stringEntries (block : String) (nodes : Kdl.Document) :
    Answers (Entries nodes) (nodes.map fun node => ⟨block, node, .string⟩)
      (stringEntries block nodes) := by
  induction nodes with
  | nil => exact .value .nil
  | cons node rest ih =>
    rw [stringEntries, List.mapM_cons]
    change Answers _ ([⟨block, node, .string⟩] ++ rest.map _) _
    refine Answers.bind (reads_string.argument block node (fun text => (node.name, text))
      (fun text is => by rw [is]) fun is => by rw [is]) ?_
    rintro _ ⟨text, argument, rfl⟩
    rw [← List.append_nil (rest.map _)]
    exact ih.bind fun pairs entries => .value (.cons ⟨rfl, argument⟩ entries)

namespace Entries

variable {nodes : List Kdl.Node} {pairs : List (String × String)}

theorem names (entries : Entries nodes pairs) :
    pairs.map Prod.fst = nodes.map Kdl.Node.name := by
  induction entries with
  | nil => rfl
  | cons first _ ih => rw [List.map_cons, List.map_cons, ih, first.1]

theorem lookup (entries : Entries nodes pairs) (name : String) :
    Holds .string nodes name (pairs.lookup name) := by
  unfold Holds
  induction entries with
  | nil => rfl
  | @cons node pair _ _ first _ ih =>
    obtain ⟨named, argument⟩ := first
    rw [lookup_cons_ite, Kdl.Document.get?, List.find?_cons]
    by_cases same : name = pair.1
    · rw [if_pos same, named, same, decide_eq_true rfl]
      exact ⟨pair.2, argument, rfl⟩
    · rw [if_neg same, named, decide_eq_false (Ne.symm same)]
      exact ih

end Entries

theorem unknownNodes_eq (foundIn : String) (known : List String) (document : Kdl.Document) :
    unknownNodes foundIn known document =
      ((document.map Kdl.Node.name).filter (· ∉ known)).map (⟨·, foundIn⟩) := by
  rw [unknownNodes, List.filter_map, List.map_map]
  simp [Function.comp_def]

theorem answers_ofDocument (document : Kdl.Document) :
    Answers (Describes document) (Demand.ofDocument document) (ofDocument document) := by
  rw [ofDocument, Demand.ofDocument]
  refine (reads_string.field ..).bind fun name hasName => ?_
  refine (reads_string.field ..).bind fun version hasVersion => ?_
  refine (reads_string.field ..).bind fun executable hasExecutable => ?_
  refine (reads_string.field ..).bind fun supportPath hasSupportPath => ?_
  refine (reads_bool.field ..).bind fun cache hasCache => ?_
  rw [← List.append_nil (List.map _ _)]
  refine (answers_stringEntries ..).bind fun pairs entries => .value ?_
  refine ⟨hasName, hasVersion, ⟨executable, hasExecutable, rfl⟩, ⟨supportPath, hasSupportPath, rfl⟩,
    hasCache, ?_, ?_, ?_⟩
  · rw [InsertionMap.keys_ofList, entries.names]
  · intro name
    rw [InsertionMap.get?_ofList]
    exact Entries.lookup (List.rel_reverse entries) name
  · simp only [unknownNodes_eq]

/-- A document is refused just if one of its demands is not met, and the first of them is reported.
Otherwise it is read as the configuration that it describes. -/
theorem document_read_in_order (reader : Kdl.Reader) (document : Kdl.Document) :
    (∀ text, reader text = .ok document → parse reader text = ofDocument document) ∧
      (∀ error, ofDocument document = .error error ↔
        Demand.FirstUnmet (Demand.ofDocument document) error) ∧
      ∀ config, ofDocument document = .ok config → Describes document config := by
  have answers := answers_ofDocument document
  refine ⟨?_, answers.eq_error_iff, ?_⟩
  · intro text is
    rw [parse, is]
  · intro config is
    rw [is] at answers
    exact answers.property_of_ok

theorem document_read_in_order_with_repeated_names :
    let text := "editor \x7b name \"a\"; name 7; x \x7d\n" ++
      "environment \x7b A \"1\"; B \"2\"; A \"3\" \x7d"
    let node (name : String) (arguments : List Kdl.Value) : Kdl.Node := .mk name arguments [] none
    let document : Kdl.Document :=
      [.mk "editor" [] []
          (some [node "name" [.string "a"], node "name" [.number "7"], node "x" []]),
        .mk "environment" [] []
          (some [node "A" [.string "1"], node "B" [.string "2"], node "A" [.string "3"]])]
    let reader : Kdl.Reader := fun given =>
      if given = text then .ok document else .error "Failed to parse KDL document"
    let config : Config :=
      { name := some "a", environment := .ofList [("A", "3"), ("B", "2")]
        warnings := [⟨"x", "editor"⟩] }
    reader text = .ok document ∧ parse reader text = .ok config ∧ Describes document config := by
  intro text node document reader config
  have holds : reader text = .ok document := if_pos rfl
  have described : ofDocument document = .ok config := by decide +kernel
  have read := document_read_in_order reader document
  exact ⟨holds, (read.1 text holds).trans described, read.2.2 config described⟩

end ScopeCascade.Config
