import JsxTemplate.Text.Numeral

/-
  Names in code and markup: which characters they hold and which words are reserved.
-/

namespace JsxTemplate

def isIdentifierChar (c : Char) : Bool := isAlphanumeric c || c == '_' || c == '$'

def isTagStart (c : Char) : Bool := isAlphabetic c || c == '_' || c == '$'

/-- Tag names allow members and namespaces: `Foo.Bar`, `svg:rect`, `my-el`. -/
def isTagChar (c : Char) : Bool := isIdentifierChar c || c == '-' || c == '.' || c == ':'

def isAttributeStart (c : Char) : Bool := isAlphabetic c || c == '_' || c == '$'

def isAttributeChar (c : Char) : Bool := isIdentifierChar c || c == '-' || c == ':'

/-- Keywords after which an expression begins, so that a `<` opens an element. -/
def expressionKeywords : List Text :=
  ["return".toList, "yield".toList, "default".toList, "case".toList, "await".toList,
   "in".toList, "of".toList, "else".toList, "do".toList, "typeof".toList, "void".toList,
   "throw".toList, "delete".toList, "instanceof".toList]

/-- Keywords that can stand before `(` without being called. -/
def controlKeywords : List Text :=
  ["if".toList, "while".toList, "for".toList, "switch".toList, "catch".toList,
   "function".toList, "with".toList, "new".toList, "super".toList, "import".toList,
   "class".toList, "extends".toList]

def isKeyword (word : Text) : Bool :=
  controlKeywords.contains word || expressionKeywords.contains word

/-- Punctuation after which an expression begins, so that a `<` opens an element. -/
def expressionPunctuation : List Char :=
  ['(', ',', '=', ':', '?', '[', '{', '!', '&', '|', ';', '+', '-', '*', '%', '~', '^', '>']

def isOpener (c : Char) : Bool := c == '(' || c == '[' || c == '{'

def isCloser (c : Char) : Bool := c == ')' || c == ']' || c == '}'

theorem isTagChar_of_isTagStart {c : Char} (h : isTagStart c = true) : isTagChar c = true := by
  simp only [isTagStart, isTagChar, isIdentifierChar, isAlphanumeric, Bool.or_eq_true] at *
  rcases h with (h | h) | h <;> simp [h]

theorem isAttributeChar_of_isAttributeStart {c : Char} (h : isAttributeStart c = true) :
    isAttributeChar c = true := by
  simp only [isAttributeStart, isAttributeChar, isIdentifierChar, isAlphanumeric,
    Bool.or_eq_true] at *
  rcases h with (h | h) | h <;> simp [h]

end JsxTemplate
