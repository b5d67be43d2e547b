import JsxTemplate.Text.Basic

/-
  Blanks: the characters with the property White_Space in Unicode 17.0.
-/

namespace JsxTemplate

def blankRanges : Ranges :=
  [(0x9, 0xD), (0x20, 0x20), (0x85, 0x85), (0xA0, 0xA0), (0x1680, 0x1680), (0x2000, 0x200A),
   (0x2028, 0x2029), (0x202F, 0x202F), (0x205F, 0x205F), (0x3000, 0x3000)]

def isBlank (c : Char) : Bool := blankRanges.contains c

/-- Text that holds nothing but blanks; the empty text counts. -/
def Text.isBlank (text : Text) : Bool := text.all JsxTemplate.isBlank

end JsxTemplate
