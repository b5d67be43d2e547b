import JsxTemplate.Options.Basic
import JsxTemplate.Text.Quoted

/-
  Options in words, for the log.
-/

namespace JsxTemplate

def describeBool (b : Bool) : Text := if b then "true".toList else "false".toList

/-- An optional value: `None`, or the value in `Some(…)`. -/
def describeOption : Option Text → Text
  | none => "None".toList
  | some value => "Some(".toList ++ value ++ [')']

def Table.describe (table : Table) : Text :=
  let entries := table.map fun (name, replacement) => quote name ++ ": ".toList ++ quote replacement
  ['{'] ++ List.flatten (entries.intersperse ", ".toList) ++ ['}']

/-- A function shows only whether it is there. -/
def describeRename (rename : Option Rename) : Text :=
  describeOption (rename.map fun _ => quote "..".toList)

/-- Three parts under their names. -/
def describeParts (title preserveWhitespace replacements rename : Text) : Text :=
  title ++ " \x7b preserve_whitespace: ".toList ++ preserveWhitespace
    ++ ", custom_attribute_replacements: ".toList ++ replacements
    ++ ", custom_attribute_replacement_fn: ".toList ++ rename ++ " \x7d".toList

def Overrides.describe (overrides : Overrides) : Text :=
  describeParts "OptionsOverrides".toList
    (describeOption (overrides.preserveWhitespace.map describeBool))
    (describeOption (overrides.replacements.map Table.describe))
    (describeRename overrides.rename)

def Options.describe (options : Options) : Text :=
  describeParts "CompileOptions".toList (describeBool options.preserveWhitespace)
    options.replacements.describe (describeRename options.rename)

end JsxTemplate
