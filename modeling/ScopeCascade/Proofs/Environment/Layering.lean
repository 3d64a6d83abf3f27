import ScopeCascade.Environment.Basic

/-! What a variable of a command's environment is: the value that the last layer with the variable
gives it. What each layer gives a name is said here name by name, apart from the order in which the
variables of the layer are set. Only a line or column that cannot be counted up keeps a build that
checks its sums from composing the environment. -/
namespace ScopeCascade

theorem Overflow.eq_of_next? {overflow : Overflow} {number next : USize}
    (counted : overflow.next? number = some next) : next = number + 1 := by
  cases overflow with
  | checked =>
    rw [next?] at counted
    split at counted
    · exact (Option.some.inj counted).symm
    · contradiction
  | wrapping => exact (Option.some.inj counted).symm

theorem Overflow.next?_eq_none_iff (overflow : Overflow) (number : USize) :
    overflow.next? number = none ↔ overflow = .checked ∧ number.toNat + 1 = USize.size := by
  have bounded : number.toNat < USize.size := number.toNat_lt_size
  cases overflow with
  | checked =>
    rw [next?]
    split
    · rename_i below
      exact iff_of_false nofun fun ⟨_, greatest⟩ => by omega
    · rename_i above
      exact iff_of_true rfl ⟨rfl, by omega⟩
  | wrapping => exact iff_of_false nofun nofun

/-- The line or the column is the greatest number of a machine word. -/
def Position.AtLimit (position : Position) : Prop :=
  position.line.toNat + 1 = USize.size ∨ position.column.toNat + 1 = USize.size

/-- The same of the caret or of the place where the input starts. -/
def TextView.AtLimit (view : TextView) : Prop :=
  view.caret.AtLimit ∨ ∃ start, view.inputStart = some start ∧ start.AtLimit

namespace Environment

/-- What each name is given, if anything. -/
abbrev Definitions := String → Option String

namespace Definitions

def ofEditor (defaults : ProcessDefaults) : Definitions
  | "TM_APP_NAME" => some defaults.appName
  | "TM_APP_VERSION" => some defaults.appVersion
  | "TM_APP_PATH" => defaults.executable.map FilePath.text
  | "TM_SUPPORT_PATH" => defaults.supportPath.map FilePath.text
  | _ => none

def ofBundle (bundle : Bundle) (context : EnvironmentContext) : Definitions
  | "TM_BUNDLE_PATH" => some bundle.path.text
  | "TM_BUNDLE_SUPPORT" => some (context.bundleSupportPath.getD bundle.supportPath).text
  | "TM_BUNDLE_UUID" => some bundle.uuid
  | "TM_BUNDLE_NAME" => some bundle.name
  | _ => none

def ofWindow (context : EnvironmentContext) : Definitions
  | "PWD" => context.workingDirectory.map FilePath.text
  | "TM_PROJECT_DIRECTORY" => context.projectRoot.map FilePath.text
  | _ => none

def ofTextView (view : TextView) : Definitions
  | "TM_LINE_NUMBER" => some (toString (view.caret.line + 1))
  | "TM_LINE_INDEX" => some (toString view.caret.column)
  | "TM_COLUMN_NUMBER" => some (toString (view.caret.column + 1))
  | "TM_INPUT_START_LINE" => view.inputStart.map fun start => toString (start.line + 1)
  | "TM_INPUT_START_LINE_INDEX" => view.inputStart.map fun start => toString start.column
  | "TM_INPUT_START_COLUMN" => view.inputStart.map fun start => toString (start.column + 1)
  | "TM_SELECTED_TEXT" => view.selectedText.filter fun text => !text.isEmpty
  | "TM_CURRENT_LINE" => view.currentLine
  | "TM_CURRENT_WORD" => view.currentWord
  | "TM_SCOPE" => view.scope.map ScopePath.text
  | "TM_FILEPATH" => view.filePath.map FilePath.text
  | "TM_FILENAME" => (view.filePath.bind FilePath.fileName?).map FilePath.text
  | "TM_DIRECTORY" =>
    ((view.filePath.bind FilePath.parent?).filter fun parent => !parent.isEmpty).map FilePath.text
  | "TM_SOFT_TABS" => some (if view.softTabs then "YES" else "NO")
  | "TM_TAB_SIZE" => some (toString view.tabSize)
  | _ => none

/-- All layers, the lowest first. -/
def layers (defaults : ProcessDefaults) (bundle : Bundle) (context : EnvironmentContext) :
    List Definitions :=
  [ofEditor defaults, defaults.shellVariables.get?, ofBundle bundle context,
    bundle.shellVariables.get?, context.shellVariables.get?, ofWindow context,
    fun name => context.text.bind fun view => ofTextView view name]

/-- The value is that of the last layer with the name; there is none if no layer has it. -/
def LastGives (layers : List Definitions) (name : String) : Option String → Prop
  | none => ∀ layer ∈ layers, layer name = none
  | some value => ∃ lower layer upper, layers = lower ++ layer :: upper ∧
      layer name = some value ∧ ∀ above ∈ upper, above name = none

theorem lastGives_findSome? (layers : List Definitions) (name : String) :
    LastGives layers name (layers.reverse.findSome? fun layer => layer name) := by
  cases found : layers.reverse.findSome? fun layer => layer name with
  | none =>
    intro layer member
    exact List.findSome?_eq_none_iff.mp found layer (List.mem_reverse.mpr member)
  | some value =>
    obtain ⟨above, layer, below, split, has, without⟩ := List.findSome?_eq_some_iff.mp found
    refine ⟨below.reverse, layer, above.reverse, ?_, has, fun other member => ?_⟩
    · rw [← List.reverse_reverse layers, split]
      simp
    · exact without other (List.mem_reverse.mp member)

end Definitions

namespace Layer

/-- What a layer leaves under a name: of several variables with the name the last one counts. -/
def value? (layer : Layer) (name : String) : Option String := layer.reverse.lookup name

theorem value?_nil (name : String) : value? [] name = none := rfl

theorem value?_cons (first : String × String) (rest : Layer) (name : String) :
    value? (first :: rest) name =
      (value? rest name).or (if name = first.1 then some first.2 else none) := by
  rw [value?, List.reverse_cons, List.lookup_append, lookup_cons_ite]
  rfl

theorem value?_append (layer above : Layer) (name : String) :
    value? (layer ++ above) name = (value? above name).or (value? layer name) := by
  rw [value?, List.reverse_append, List.lookup_append]
  rfl

theorem value?_optional (key : String) (value : Option String) (name : String) :
    value? (optional key value) name = if name = key then value else none := by
  cases value with
  | none => simp [optional, value?]
  | some value => simp [optional, value?, lookup_cons_ite]

theorem value?_optionalPath (key : String) (path : Option FilePath) (name : String) :
    value? (optionalPath key path) name = if name = key then path.map FilePath.text else none :=
  value?_optional key _ name

theorem value?_entries (values : Variables) (name : String) :
    value? values.entries name = values.get? name :=
  lookup_reverse values.distinct

theorem value?_ofDefaults (defaults : ProcessDefaults) :
    value? (ofDefaults defaults) = Definitions.ofEditor defaults := by
  funext name
  unfold Definitions.ofEditor
  split <;> simp_all [ofDefaults, value?_append, value?_cons, value?_optionalPath]

theorem value?_ofBundle (bundle : Bundle) (context : EnvironmentContext) :
    value? (Environment.ofBundle bundle context.bundleSupportPath) =
      Definitions.ofBundle bundle context := by
  funext name
  unfold Definitions.ofBundle
  split <;> simp_all [Environment.ofBundle, value?_cons, value?_nil]

theorem value?_ofWindow (context : EnvironmentContext) :
    value? (Environment.ofWindow context) = Definitions.ofWindow context := by
  funext name
  unfold Definitions.ofWindow
  split <;> simp_all [Environment.ofWindow, value?_append, value?_optionalPath]

theorem eq_of_ofPosition {overflow : Overflow} {line index column : String} {position : Position}
    {layer : Layer} (written : ofPosition overflow line index column position = some layer) :
    layer = [(line, toString (position.line + 1)), (index, toString position.column),
      (column, toString (position.column + 1))] := by
  obtain ⟨lineNumber, lineCounted, written⟩ := Option.bind_eq_some_iff.mp written
  obtain ⟨columnNumber, columnCounted, written⟩ := Option.bind_eq_some_iff.mp written
  rw [← Option.some.inj written, overflow.eq_of_next? lineCounted,
    overflow.eq_of_next? columnCounted]

theorem value?_ofInputStart {overflow : Overflow} {start : Option Position} {layer : Layer}
    (written : ofInputStart overflow start = some layer) (name : String) :
    value? layer name =
      if name = "TM_INPUT_START_LINE" then start.map fun start => toString (start.line + 1)
      else if name = "TM_INPUT_START_LINE_INDEX" then start.map fun start => toString start.column
      else if name = "TM_INPUT_START_COLUMN" then
        start.map fun start => toString (start.column + 1)
      else none := by
  cases start with
  | none =>
    cases written
    simp [value?_nil]
  | some start =>
    rw [eq_of_ofPosition written]
    simp only [value?_cons, value?_nil, Option.none_or, Option.map_some]
    by_cases line : name = "TM_INPUT_START_LINE"
    · simp [line]
    by_cases index : name = "TM_INPUT_START_LINE_INDEX"
    · simp [index]
    · simp [line, index]

theorem value?_ofFile (file : Option FilePath) (name : String) :
    value? (ofFile file) name =
      if name = "TM_FILEPATH" then file.map FilePath.text
      else if name = "TM_FILENAME" then (file.bind FilePath.fileName?).map FilePath.text
      else if name = "TM_DIRECTORY" then
        ((file.bind FilePath.parent?).filter fun parent => !parent.isEmpty).map FilePath.text
      else none := by
  cases file with
  | none => simp [ofFile, value?_nil]
  | some file =>
    simp only [ofFile, value?_append, value?_optionalPath, value?_cons, value?_nil,
      Option.none_or, Option.map_some, Option.bind_some]
    by_cases path : name = "TM_FILEPATH"
    · simp [path]
    by_cases last : name = "TM_FILENAME"
    · simp [last]
    · simp [path, last]

theorem value?_ofTextView {overflow : Overflow} {view : TextView} {layer : Layer}
    (written : Environment.ofTextView overflow view = some layer) :
    value? layer = Definitions.ofTextView view := by
  obtain ⟨caret, caretWritten, written⟩ := Option.bind_eq_some_iff.mp written
  obtain ⟨inputStart, startWritten, written⟩ := Option.bind_eq_some_iff.mp written
  have startGives := value?_ofInputStart startWritten
  rw [← Option.some.inj written, eq_of_ofPosition caretWritten]
  clear caretWritten startWritten written
  funext name
  unfold Definitions.ofTextView
  split <;> simp_all [ofContents, value?_append, value?_cons, value?_nil, value?_optional,
    value?_ofFile]

theorem value?_ofText {overflow : Overflow} {text : Option TextView} {layer : Layer}
    (written : ofText overflow text = some layer) :
    value? layer = fun name => text.bind fun view => Definitions.ofTextView view name := by
  cases text with
  | none =>
    cases written
    rfl
  | some view => exact value?_ofTextView written

theorem value?_flatten (layers : List Layer) (name : String) :
    value? layers.flatten name = layers.reverse.findSome? fun layer => value? layer name := by
  induction layers with
  | nil => rfl
  | cons layer rest ih =>
    rw [List.flatten_cons, value?_append, ih, List.reverse_cons, List.findSome?_append]
    simp

end Layer

section Compose

variable {overflow : Overflow} {defaults : ProcessDefaults} {bundle : Bundle}
  {context : EnvironmentContext}

theorem map_value?_layers {written : List Layer}
    (all : layers overflow defaults bundle context = some written) :
    written.map Layer.value? = Definitions.layers defaults bundle context := by
  obtain ⟨text, textWritten, all⟩ := Option.bind_eq_some_iff.mp all
  have entries (values : Variables) : Layer.value? values.entries = values.get? :=
    funext (Layer.value?_entries values)
  rw [← Option.some.inj all]
  simp only [List.map_cons, List.map_nil, entries, Layer.value?_ofDefaults, Layer.value?_ofBundle,
    Layer.value?_ofWindow, Layer.value?_ofText textWritten]
  rfl

theorem get?_compose {environment : Environment}
    (composed : compose overflow defaults bundle context = some environment) (name : String) :
    environment.get? name =
      (Definitions.layers defaults bundle context).reverse.findSome? fun layer => layer name := by
  obtain ⟨written, all, rfl⟩ := Option.map_eq_some_iff.mp composed
  rw [SortedMap.get?_ofList, ← map_value?_layers all, ← List.map_reverse, List.findSome?_map]
  exact Layer.value?_flatten _ name

end Compose

theorem ofPosition_eq_none_iff (overflow : Overflow) (line index column : String)
    (position : Position) :
    ofPosition overflow line index column position = none ↔
      overflow = .checked ∧ position.AtLimit := by
  unfold ofPosition Position.AtLimit
  rw [and_or_left, ← overflow.next?_eq_none_iff, ← overflow.next?_eq_none_iff]
  cases overflow.next? position.line <;> cases overflow.next? position.column <;> simp

theorem ofTextView_eq_none_iff (overflow : Overflow) (view : TextView) :
    ofTextView overflow view = none ↔ overflow = .checked ∧ view.AtLimit := by
  have caret := ofPosition_eq_none_iff overflow "TM_LINE_NUMBER" "TM_LINE_INDEX" "TM_COLUMN_NUMBER"
    view.caret
  have inputStart : ofInputStart overflow view.inputStart = none ↔
      overflow = .checked ∧ ∃ start, view.inputStart = some start ∧ start.AtLimit := by
    cases view.inputStart with
    | none => simp [ofInputStart]
    | some start => simp [ofInputStart, ofPosition_eq_none_iff]
  rw [TextView.AtLimit, and_or_left, ← caret, ← inputStart, ofTextView]
  cases ofPosition overflow _ _ _ view.caret <;>
    cases ofInputStart overflow view.inputStart <;> simp

theorem compose_eq_none_iff (overflow : Overflow) (defaults : ProcessDefaults) (bundle : Bundle)
    (context : EnvironmentContext) :
    compose overflow defaults bundle context = none ↔
      overflow = .checked ∧ ∃ view, context.text = some view ∧ view.AtLimit := by
  have text : ofText overflow context.text = none ↔
      overflow = .checked ∧ ∃ view, context.text = some view ∧ view.AtLimit := by
    cases context.text with
    | none => simp [ofText]
    | some view => simp [ofText, ofTextView_eq_none_iff]
  rw [← text, compose, layers]
  cases ofText overflow context.text <;> simp

/-- Every variable of a command has the value that the last layer with the variable gives it. There
is an environment, unless sums are checked and a line or column cannot be counted up. The variables
that all commands of a bundle share are those of a command without a context. -/
theorem last_layer_decides (defaults : ProcessDefaults) (bundle : Bundle) :
    (∀ overflow context environment,
      compose overflow defaults bundle context = some environment → ∀ name,
        Definitions.LastGives (Definitions.layers defaults bundle context) name
          (environment.get? name)) ∧
    (∀ overflow context, compose overflow defaults bundle context = none ↔
      overflow = .checked ∧ ∃ view, context.text = some view ∧ view.AtLimit) ∧
    ∀ overflow, compose overflow defaults bundle {} = some (ofBundleAlone defaults bundle) := by
  refine ⟨?_, fun overflow => compose_eq_none_iff overflow defaults bundle, ?_⟩
  · intro overflow context environment composed name
    rw [get?_compose composed]
    exact Definitions.lastGives_findSome? _ name
  · intro overflow
    have noWindow : ofWindow {} = [] := rfl
    have noVariables : (∅ : Variables).entries = [] := rfl
    simp [ofBundleAlone, compose, layers, ofText, noWindow, noVariables]

end Environment

end ScopeCascade
