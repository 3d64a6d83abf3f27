import ScopeCascade.Config.Basic

/-! Configurations laid over each other. The last one with a value counts, in the merged
configuration and in what is made of it. -/
namespace ScopeCascade.Config

/-- The upper value, else the lower one, else the default. -/
def layered {α : Type} (upper lower : Option α) (default : α) : α :=
  match upper, lower with
  | some value, _ => value
  | none, some value => value
  | none, none => default

theorem getD_or {α : Type} (upper lower : Option α) (default : α) :
    (upper.or lower).getD default = layered upper lower default := by
  cases upper <;> cases lower <;> rfl

/-- The default may itself be missing. -/
theorem or_or {α : Type} (upper lower default : Option α) :
    (upper.or lower).or default = layered (upper.map some) (lower.map some) default := by
  cases upper <;> cases lower <;> rfl

theorem merge_assoc (first second third : Config) :
    (first.merge second).merge third = first.merge (second.merge third) := by
  simp only [merge, Option.or_assoc, InsertionMap.union_assoc, List.append_assoc]

theorem default_merge (config : Config) : merge {} config = config := by
  simp only [merge, Option.or_none, InsertionMap.empty_union, List.nil_append]

theorem merge_default (config : Config) : merge config {} = config := by
  simp only [merge, Option.none_or, InsertionMap.union_empty, List.append_nil]

/-- The variables of the first configuration stay in place and take the values of the second, whose
new ones follow. -/
theorem shellVariables_processDefaults_merge (first second : Config)
    (executable : Option FilePath) :
    ((first.merge second).processDefaults executable).shellVariables.entries =
      (first.environment.entries.map fun (name, value) =>
          (name, (second.environment.get? name).getD value)) ++
        second.environment.entries.filter fun (name, _) => name ∉ first.environment.keys := by
  have configured : ((first.merge second).processDefaults executable).shellVariables =
      first.environment.union second.environment :=
    -- No variables are detected.
    InsertionMap.empty_union _
  rw [configured]
  exact InsertionMap.entries_union _ _

/-- Configurations merge in whatever way they are grouped, and an empty one changes nothing. Each
value that the cascade and the environment get of two of them is that of the second, else that of
the first, else the detected one. -/
theorem merge_right_biased (first second third : Config) (executable : Option FilePath) :
    ((first.merge second).merge third = first.merge (second.merge third) ∧
        merge {} first = first ∧ merge first {} = first) ∧
      let merged := first.merge second
      let defaults := merged.processDefaults executable
      let detected := ProcessDefaults.detect executable
      merged.cascadeOptions = ⟨layered second.cache first.cache ({} : CascadeOptions).cache⟩ ∧
        defaults.appName = layered second.name first.name detected.appName ∧
        defaults.appVersion = layered second.version first.version detected.appVersion ∧
        defaults.executable = layered (second.executable.map some) (first.executable.map some)
          detected.executable ∧
        defaults.supportPath = layered (second.supportPath.map some) (first.supportPath.map some)
          detected.supportPath ∧
        defaults.shellVariables.entries =
          (first.environment.entries.map fun (name, value) =>
              (name, (second.environment.get? name).getD value)) ++
            second.environment.entries.filter fun (name, _) => name ∉ first.environment.keys := by
  refine ⟨⟨merge_assoc first second third, default_merge first, merge_default first⟩, ?_⟩
  intro merged defaults detected
  have cascade : merged.cascadeOptions =
      ⟨layered second.cache first.cache ({} : CascadeOptions).cache⟩ :=
    congrArg CascadeOptions.mk (getD_or second.cache first.cache _)
  have name : defaults.appName = layered second.name first.name detected.appName :=
    getD_or second.name first.name _
  have version : defaults.appVersion =
      layered second.version first.version detected.appVersion :=
    getD_or second.version first.version _
  have program : defaults.executable = layered (second.executable.map some)
      (first.executable.map some) detected.executable :=
    or_or second.executable first.executable _
  have support : defaults.supportPath = layered (second.supportPath.map some)
      (first.supportPath.map some) detected.supportPath :=
    or_or second.supportPath first.supportPath _
  exact ⟨cascade, name, version, program, support,
    shellVariables_processDefaults_merge first second executable⟩

example :
    let first : Config := { environment := .ofList [("A", "1"), ("B", "2")] }
    let second : Config := { environment := .ofList [("C", "3"), ("A", "4")] }
    ((first.merge second).processDefaults none).shellVariables =
      .ofList [("A", "4"), ("B", "2"), ("C", "3")] := by decide

end ScopeCascade.Config
