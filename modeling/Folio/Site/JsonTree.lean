namespace Folio

/-!
# Writing JSON

What a site knows of its pages is written as JSON, either on one line or, for people, with two
blanks for every level.  In texts only quotes, backslashes and control characters are escaped.
-/

inductive JsonTree where
  | null
  | text (value : String)
  | list (items : List JsonTree)
  | object (fields : List (String × JsonTree))

namespace JsonTree

def hexDigit (n : Nat) : Char := "0123456789abcdef".toList.getD n '0'

def escapeChar (c : Char) : List Char :=
  if c = '"' then ['\\', '"']
  else if c = '\\' then ['\\', '\\']
  else if c = '\x08' then ['\\', 'b']
  else if c = '\t' then ['\\', 't']
  else if c = '\n' then ['\\', 'n']
  else if c = '\x0c' then ['\\', 'f']
  else if c = '\r' then ['\\', 'r']
  else if c.toNat < 0x20 then
    ['\\', 'u', '0', '0', hexDigit (c.toNat / 16), hexDigit (c.toNat % 16)]
  else [c]

def quote (s : String) : String :=
  "\"" ++ String.ofList (s.toList.flatMap escapeChar) ++ "\""

mutual

def compact : JsonTree → String
  | null => "null"
  | text s => quote s
  | list items => "[" ++ ",".intercalate (compactItems items) ++ "]"
  | object fields => "\x7b" ++ ",".intercalate (compactFields fields) ++ "\x7d"

def compactItems : List JsonTree → List String
  | [] => []
  | t :: ts => t.compact :: compactItems ts

def compactFields : List (String × JsonTree) → List String
  | [] => []
  | (key, t) :: rest => (quote key ++ ":" ++ t.compact) :: compactFields rest

end

def newLine (level : Nat) : String := "\n" ++ String.ofList (List.replicate (2 * level) ' ')

/-- Parts between two brackets, each on a line of its own. -/
def block (level : Nat) (first last : String) (parts : List String) : String :=
  if parts.isEmpty then first ++ last
  else
    first ++ newLine (level + 1) ++ ("," ++ newLine (level + 1)).intercalate parts ++
      newLine level ++ last

mutual

def pretty (level : Nat) : JsonTree → String
  | null => "null"
  | text s => quote s
  | list items => block level "[" "]" (prettyItems (level + 1) items)
  | object fields => block level "\x7b" "\x7d" (prettyFields (level + 1) fields)

def prettyItems (level : Nat) : List JsonTree → List String
  | [] => []
  | t :: ts => t.pretty level :: prettyItems level ts

def prettyFields (level : Nat) : List (String × JsonTree) → List String
  | [] => []
  | (key, t) :: rest => (quote key ++ ": " ++ t.pretty level) :: prettyFields level rest

end

end JsonTree

end Folio
