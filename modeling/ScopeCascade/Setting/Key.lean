/-! The names of settings. -/
namespace ScopeCascade

inductive ColorRole
  | foreground | background | caret | selection | invisibles | lineHighlight
deriving DecidableEq

inductive IndentRule
  | increase | decrease | indentNextLine | unIndentedLine
deriving DecidableEq

inductive Flag
  | showInSymbolList | spellChecking | disableIndentCorrections
deriving DecidableEq

/-- How a later setting combines with an earlier one of the same key. -/
inductive MergePolicy
  /-- The later one replaces the earlier one. -/
  | override
  /-- Entries are united, and the later one of a name counts. -/
  | additive
deriving DecidableEq

/-- A setting that the editor knows, or one that bundles use among themselves. -/
inductive SettingKey
  | color (role : ColorRole)
  | fontStyle
  | indentPattern (rule : IndentRule)
  | flag (which : Flag)
  | symbolTransformation
  | smartTypingPairs
  | highlightPairs
  | shellVariables
  | commands
  | custom (name : String)
deriving DecidableEq

namespace ColorRole

def all : List ColorRole :=
  [foreground, background, caret, selection, invisibles, lineHighlight]

def name : ColorRole → String
  | foreground => "foreground"
  | background => "background"
  | caret => "caret"
  | selection => "selection"
  | invisibles => "invisibles"
  | lineHighlight => "lineHighlight"

end ColorRole

namespace IndentRule

def all : List IndentRule := [increase, decrease, indentNextLine, unIndentedLine]

def name : IndentRule → String
  | increase => "increaseIndentPattern"
  | decrease => "decreaseIndentPattern"
  | indentNextLine => "indentNextLinePattern"
  | unIndentedLine => "unIndentedLinePattern"

end IndentRule

namespace Flag

def all : List Flag := [showInSymbolList, spellChecking, disableIndentCorrections]

def name : Flag → String
  | showInSymbolList => "showInSymbolList"
  | spellChecking => "spellChecking"
  | disableIndentCorrections => "disableIndentCorrections"

end Flag

namespace SettingKey

/-- The keys that the editor knows, in their order. -/
def known : List SettingKey :=
  ColorRole.all.map color ++ [fontStyle] ++ IndentRule.all.map indentPattern ++ Flag.all.map flag ++
    [symbolTransformation, smartTypingPairs, highlightPairs, shellVariables, commands]

/-- The name of a setting in a dictionary. -/
def name : SettingKey → String
  | color role => role.name
  | fontStyle => "fontStyle"
  | indentPattern rule => rule.name
  | flag which => which.name
  | symbolTransformation => "symbolTransformation"
  | smartTypingPairs => "smartTypingPairs"
  | highlightPairs => "highlightPairs"
  | shellVariables => "shellVariables"
  | commands => "commands"
  | custom name => name

/-- The key with a given name. -/
def ofName (name : String) : SettingKey :=
  (known.find? fun key => key.name = name).getD (custom name)

def mergePolicy : SettingKey → MergePolicy
  | shellVariables | commands => .additive
  | _ => .override

/-- The place of a key among those that the editor knows; the others come behind them. -/
def ordinal (key : SettingKey) : Nat := known.idxOf key

/-- What orders the keys that the editor does not know. -/
def customName : SettingKey → String
  | custom name => name
  | _ => ""

theorem getD_known_ordinal (key : SettingKey) :
    known[key.ordinal]?.getD (custom key.customName) = key := by
  cases key with
  | color role => cases role <;> rfl
  | indentPattern rule => cases rule <;> rfl
  | flag which => cases which <;> rfl
  | custom name =>
    have h : ordinal (custom name) = known.length := by
      rw [ordinal, List.idxOf_eq_length]
      simp [known, ColorRole.all, IndentRule.all, Flag.all]
    simp [h, customName]
  | _ => rfl

/-- Known keys come in their own order, the others behind them by name. -/
instance : Ord SettingKey := ⟨compareLex (compareOn ordinal) (compareOn customName)⟩

instance : Std.TransOrd SettingKey := inferInstanceAs (Std.TransCmp (compareLex _ _))

instance : Std.LawfulEqOrd SettingKey where
  eq_of_compare {a b} h := by
    obtain ⟨ho, hn⟩ := compareLex_eq_eq.mp h
    replace ho := Std.LawfulEqOrd.eq_of_compare (α := Nat) ho
    replace hn := Std.LawfulEqOrd.eq_of_compare (α := String) hn
    rw [← getD_known_ordinal a, ← getD_known_ordinal b, ho, hn]

end SettingKey

end ScopeCascade
