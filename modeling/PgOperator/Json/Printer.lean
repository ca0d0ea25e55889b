import PgOperator.Json.Basic

/-!
Writing a JSON document without blanks. In a string only the quote, the backslash and the control
characters below the blank are escaped.
-/

namespace PgOperator.Json

def hexDigit (n : Nat) : Char :=
  if n < 10 then Char.ofNat ('0'.toNat + n) else Char.ofNat ('a'.toNat + (n - 10))

/-- A character as it stands inside a string. -/
def escapeTo (out : String) (c : Char) : String :=
  match c with
  | '"' => out ++ "\\\""
  | '\\' => out ++ "\\\\"
  | '\x08' => out ++ "\\b"
  | '\x0c' => out ++ "\\f"
  | '\n' => out ++ "\\n"
  | '\r' => out ++ "\\r"
  | '\t' => out ++ "\\t"
  | c =>
    if c.toNat < 0x20 then
      ((out ++ "\\u00").push (hexDigit (c.toNat / 16))).push (hexDigit (c.toNat % 16))
    else out.push c

def quoteTo (out : String) (s : String) : String :=
  (s.toList.foldl escapeTo (out.push '"')).push '"'

mutual

/-- Appends the text of a document. -/
def renderTo (out : String) : Json → String
  | .null => out ++ "null"
  | .bool b => out ++ (if b then "true" else "false")
  | .int n => out ++ toString n
  | .real d => out ++ d.text
  | .str s => quoteTo out s
  | .arr items => (renderItems (out.push '[') "" items).push ']'
  | .obj members => (renderMembers (out.push '\x7b') "" members).push '\x7d'

def renderItems (out : String) (separator : String) : List Json → String
  | [] => out
  | item :: rest => renderItems (renderTo (out ++ separator) item) "," rest

def renderMembers (out : String) (separator : String) : List (String × Json) → String
  | [] => out
  | (key, value) :: rest =>
    renderMembers (renderTo ((quoteTo (out ++ separator) key).push ':') value) "," rest

end

def render (doc : Json) : String := renderTo "" doc

end PgOperator.Json
