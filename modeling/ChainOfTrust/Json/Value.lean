/-!
# JSON values and their compact form

- `Value`: a document. Numbers keep their literal, and a text is `none` when its escapes name half
  of a surrogate pair, so that the document is well-formed but the text is not one;
- `Value.render`: the form with no white space.
-/

namespace ChainOfTrust.Json

set_option autoImplicit false

inductive Value where
  | null
  | bool (b : Bool)
  | number (literal : String)
  | text (s : Option String)
  | array (items : List Value)
  | object (members : List (Option String × Value))

/-! ## Texts -/

def hexDigit (n : Nat) : Char := Nat.digitChar (n % 16)

/-- A character between quotes: short escapes where JSON has them, and `\u00xx` for the other
controls. -/
def escapeChar (c : Char) : List Char :=
  if c = '"' then ['\\', '"']
  else if c = '\\' then ['\\', '\\']
  else if c = '\x08' then ['\\', 'b']
  else if c = '\x0C' then ['\\', 'f']
  else if c = '\n' then ['\\', 'n']
  else if c = '\r' then ['\\', 'r']
  else if c = '\t' then ['\\', 't']
  else if c.toNat < 0x20 then
    ['\\', 'u', '0', '0', hexDigit (c.toNat / 16), hexDigit c.toNat]
  else [c]

def quoted (s : String) : List Char := '"' :: s.toList.flatMap escapeChar ++ ['"']

/-! ## Documents -/

namespace Value

mutual

/-- A text that is not one is written as an empty text. -/
def chars : Value → List Char
  | null => "null".toList
  | bool b => (if b then "true" else "false").toList
  | number literal => literal.toList
  | text s => quoted (s.getD "")
  | array items => '[' :: itemChars items ++ [']']
  | object members => '\x7b' :: memberChars members ++ ['\x7d']

/-- Items with commas between them. -/
def itemChars : List Value → List Char
  | [] => []
  | [v] => chars v
  | v :: rest => chars v ++ ',' :: itemChars rest

/-- Members with commas between them. -/
def memberChars : List (Option String × Value) → List Char
  | [] => []
  | [(k, v)] => quoted (k.getD "") ++ ':' :: chars v
  | (k, v) :: rest => quoted (k.getD "") ++ ':' :: chars v ++ ',' :: memberChars rest

end

def render (v : Value) : String := String.ofList v.chars

end Value

end ChainOfTrust.Json
