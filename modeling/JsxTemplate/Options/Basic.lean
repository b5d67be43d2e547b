import JsxTemplate.Text.Blank

/-
  Options of a compilation: which are given, which hold in the end, and what they decide.
-/

namespace JsxTemplate

/-- Attribute names and what replaces them; a name has at most one entry. -/
abbrev Table := List (Text × Text)

namespace Table

/-- Sets the entry of a name, in place of an earlier one. -/
def insert : Table → Text → Text → Table
  | [], name, replacement => [(name, replacement)]
  | (other, old) :: table, name, replacement =>
    if other == name then (name, replacement) :: table
    else (other, old) :: insert table name replacement

/-- Sets entries in order, so that the last one for a name wins. -/
def insertAll (table : Table) (entries : List (Text × Text)) : Table :=
  entries.foldl (fun table entry => table.insert entry.1 entry.2) table

theorem lookup_insert (table : Table) (name replacement other : Text) :
    (table.insert name replacement).lookup other =
      if other = name then some replacement else table.lookup other := by
  induction table with
  | nil =>
    by_cases h : other = name
    · simp [insert, h]
    · simp [insert, List.lookup_cons, beq_eq_false_iff_ne.2 h, h]
  | cons entry table ih =>
    obtain ⟨key, old⟩ := entry
    by_cases hk : key = name
    · subst hk
      by_cases h : other = key
      · subst h; simp [insert]
      · simp [insert, List.lookup_cons, beq_eq_false_iff_ne.2 h, h]
    · by_cases h : other = key
      · subst h; simp [insert, hk]
      · simp [insert, List.lookup_cons, hk, beq_eq_false_iff_ne.2 h, ih]

end Table

/-- Decides an attribute's name from the one written and its built-in replacement. -/
abbrev Rename := Text → Option Text → Text

/-- What a caller or a configuration asks for; an absent part is left to the defaults. -/
structure Overrides where
  preserveWhitespace : Option Bool
  replacements : Option Table
  rename : Option Rename

namespace Overrides

def empty : Overrides := ⟨none, none, none⟩

end Overrides

/-- The options that hold in a compilation. -/
structure Options where
  /-- Keep text between elements that holds only blanks. -/
  preserveWhitespace : Bool
  /-- Looked at before the built-in replacements. -/
  replacements : Table
  /-- Looked at before both. -/
  rename : Option Rename

namespace Options

def default : Options := ⟨false, [], none⟩

/-- The default options, where nothing else is asked for. -/
def merge (overrides : Overrides) : Options :=
  ⟨overrides.preserveWhitespace.getD default.preserveWhitespace,
   overrides.replacements.getD default.replacements,
   overrides.rename.or default.rename⟩

end Options

/-- Attributes that markup spells in another way than the output does. -/
def builtinReplacements : Table :=
  [("className".toList, "class".toList), ("htmlFor".toList, "for".toList)]

def builtinReplacement? (name : Text) : Option Text := builtinReplacements.lookup name

namespace Options

/-- The name of an attribute in the output: what `rename` says; else a non-empty entry of the
table; else the built-in replacement; else the name itself. -/
def resolve (options : Options) (name : Text) : Text :=
  match options.rename with
  | some rename => rename name (builtinReplacement? name)
  | none =>
    match (options.replacements.lookup name).filter (!·.isEmpty) with
    | some replacement => replacement
    | none => (builtinReplacement? name).getD name

/-- What a text between tags contributes: nothing, if it is blank and blanks are not kept. -/
def trim (options : Options) (text : Text) : Text :=
  if options.preserveWhitespace || !text.isBlank then text else []

end Options

end JsxTemplate
