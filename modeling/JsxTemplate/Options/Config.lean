import JsxTemplate.Options.Basic

/-
  Configuration files: a JSON object with the keys `preserveWhitespace` and
  `customAttributeReplacements`, each at most once and either of them `null`, or an array of the
  two values in that order. Anything else is refused.
-/

namespace JsxTemplate

/-- What a configuration file asks for. It can hold no function. -/
structure Config where
  preserveWhitespace : Option Bool
  replacements : Option Table
  deriving DecidableEq, Repr

namespace Config

def empty : Config := ⟨none, none⟩

def overrides (config : Config) : Overrides :=
  ⟨config.preserveWhitespace, config.replacements, none⟩

inductive Token where
  | openBrace
  | closeBrace
  | openBracket
  | closeBracket
  | colon
  | comma
  | null
  | bool (value : Bool)
  | string (value : Text)
  deriving DecidableEq, Repr

def hexDigit? (c : Char) : Option Nat :=
  if c.isDigit then some (c.toNat - '0'.toNat)
  else if 'a' ≤ c && c ≤ 'f' then some (c.toNat - 'a'.toNat + 10)
  else if 'A' ≤ c && c ≤ 'F' then some (c.toNat - 'A'.toNat + 10)
  else none

/-- The number that four hexadecimal digits spell. -/
def codeUnit? (a b c d : Char) : Option Nat := do
  let a ← hexDigit? a
  let b ← hexDigit? b
  let c ← hexDigit? c
  let d ← hexDigit? d
  some (((a * 16 + b) * 16 + c) * 16 + d)

/-- What a backslash and one more character stand for. -/
def shortEscape? (c : Char) : Option Char :=
  if c == '"' || c == '\\' || c == '/' then some c
  else if c == 'b' then some '\x08'
  else if c == 'f' then some '\x0c'
  else if c == 'n' then some '\n'
  else if c == 'r' then some '\r'
  else if c == 't' then some '\t'
  else none

def isHighSurrogate (unit : Nat) : Bool := 0xD800 ≤ unit && unit ≤ 0xDBFF

def isLowSurrogate (unit : Nat) : Bool := 0xDC00 ≤ unit && unit ≤ 0xDFFF

def isJsonBlank (c : Char) : Bool := c == ' ' || c == '\n' || c == '\t' || c == '\r'

mutual

/-- The tokens of a text, or `none` if it holds something else. -/
def tokens : Text → Option (List Token)
  | [] => some []
  | c :: rest =>
    if isJsonBlank c then tokens rest
    else if c == '{' then (tokens rest).map (.openBrace :: ·)
    else if c == '}' then (tokens rest).map (.closeBrace :: ·)
    else if c == '[' then (tokens rest).map (.openBracket :: ·)
    else if c == ']' then (tokens rest).map (.closeBracket :: ·)
    else if c == ':' then (tokens rest).map (.colon :: ·)
    else if c == ',' then (tokens rest).map (.comma :: ·)
    else if c == '"' then stringToken [] rest
    else
      match rest with
      | d :: e :: f :: rest =>
        if [c, d, e, f] == "null".toList then (tokens rest).map (.null :: ·)
        else if [c, d, e, f] == "true".toList then (tokens rest).map (.bool true :: ·)
        else
          match rest with
          | g :: rest =>
            if [c, d, e, f, g] == "false".toList then (tokens rest).map (.bool false :: ·)
            else none
          | [] => none
      | _ => none

/-- The tokens of a text that begins inside a string; `read` is what has been read of the
string, newest first. Control characters and halves of surrogate pairs are refused. -/
def stringToken (read : Text) : Text → Option (List Token)
  | [] => none
  | c :: rest =>
    if c == '"' then (tokens rest).map (.string read.reverse :: ·)
    else if c == '\\' then
      match rest with
      | [] => none
      | escaped :: rest =>
        if escaped == 'u' then
          match rest with
          | d :: e :: f :: g :: rest =>
            match codeUnit? d e f g with
            | none => none
            | some unit =>
              if isHighSurrogate unit then
                match rest with
                | b :: u :: d :: e :: f :: g :: rest =>
                  if b == '\\' && u == 'u' then
                    match codeUnit? d e f g with
                    | none => none
                    | some low =>
                      if isLowSurrogate low then
                        let code := 0x10000 + (unit - 0xD800) * 0x400 + (low - 0xDC00)
                        stringToken (Char.ofNat code :: read) rest
                      else none
                  else none
                | _ => none
              else if isLowSurrogate unit then none
              else stringToken (Char.ofNat unit :: read) rest
          | _ => none
        else
          match shortEscape? escaped with
          | none => none
          | some c => stringToken (c :: read) rest
    else if c.toNat < 0x20 then none
    else stringToken (c :: read) rest

end

/-- A value, and the tokens after it. -/
abbrev Parsed (α : Type) := Option (α × List Token)

def flag : List Token → Parsed (Option Bool)
  | .null :: rest => some (none, rest)
  | .bool value :: rest => some (some value, rest)
  | _ => none

/-- The entries of a table through its closing brace; the last one for a name wins. -/
def entries (table : Table) : List Token → Parsed Table
  | .string name :: .colon :: .string replacement :: .comma :: rest =>
    entries (table.insert name replacement) rest
  | .string name :: .colon :: .string replacement :: .closeBrace :: rest =>
    some (table.insert name replacement, rest)
  | _ => none

def table : List Token → Parsed (Option Table)
  | .null :: rest => some (none, rest)
  | .openBrace :: .closeBrace :: rest => some (some [], rest)
  | .openBrace :: rest => (entries [] rest).map fun (table, rest) => (some table, rest)
  | _ => none

/-- The members of an object that have been read; a member given as `null` is there all the
same. -/
structure Members where
  flag : Option (Option Bool)
  table : Option (Option Table)

/-- One more member; each key is allowed once. -/
def member (members : Members) : List Token → Parsed Members
  | .string key :: .colon :: rest =>
    if key == "preserveWhitespace".toList && members.flag.isNone then
      (flag rest).map fun (value, rest) => ({ members with flag := some value }, rest)
    else if key == "customAttributeReplacements".toList && members.table.isNone then
      (table rest).map fun (value, rest) => ({ members with table := some value }, rest)
    else none
  | _ => none

/-- At most `limit` members more, through the closing brace. -/
def object : Nat → Members → List Token → Parsed Members
  | 0, _, _ => none
  | limit + 1, members, tokens =>
    match member members tokens with
    | some (members, .closeBrace :: rest) => some (members, rest)
    | some (members, .comma :: rest) => object limit members rest
    | _ => none

def Members.config (members : Members) : Config :=
  ⟨members.flag.join, members.table.join⟩

def document : List Token → Parsed Config
  | .openBrace :: .closeBrace :: rest => some (.empty, rest)
  | .openBrace :: rest =>
    (object 2 ⟨none, none⟩ rest).map fun (members, rest) => (members.config, rest)
  | .openBracket :: rest =>
    match flag rest with
    | some (value, .comma :: rest) =>
      match table rest with
      | some (table, .closeBracket :: rest) => some (⟨value, table⟩, rest)
      | _ => none
    | _ => none
  | _ => none

/-- Reads the text of a configuration file. -/
def ofText? (text : Text) : Option Config :=
  match tokens text with
  | none => none
  | some tokens =>
    match document tokens with
    | some (config, []) => some config
    | _ => none

end Config

/-- Reads the text of a configuration file. A text may be refused with a reason or without. -/
abbrev Decoder := Text → Except (Option Text) Config

/-- The decoder of the program itself, which gives no reasons. -/
def Decoder.builtin : Decoder := fun text =>
  match Config.ofText? text with
  | some config => .ok config
  | none => .error none

/-- What a configuration file asks a compilation for, without a command line on top. -/
def Overrides.ofConfig? (text : Text) : Option Overrides :=
  (Config.ofText? text).map Config.overrides

end JsxTemplate
