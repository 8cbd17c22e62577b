namespace Scaffold.Json

inductive Value where
  | null
  | bool (b : Bool)
  | number (n : Nat)
  | string (s : String)
  | array (items : List Value)
  | object (members : List (String × Value))

def hexDigit (n : Nat) : Char := Char.ofNat (if n < 10 then 48 + n else 87 + n)

def escapeChar (c : Char) : List Char :=
  if c = '"' then ['\\', '"']
  else if c = '\\' then ['\\', '\\']
  else if c = '\n' then ['\\', 'n']
  else if c = '\r' then ['\\', 'r']
  else if c = '\t' then ['\\', 't']
  else if c.toNat = 8 then ['\\', 'b']
  else if c.toNat = 12 then ['\\', 'f']
  else if c.toNat < 32 then ['\\', 'u', '0', '0', hexDigit (c.toNat / 16), hexDigit (c.toNat % 16)]
  else [c]

def quote (s : String) : List Char := '"' :: s.toList.flatMap escapeChar ++ ['"']

def newline (depth : Nat) : List Char := '\n' :: List.replicate (2 * depth) ' '

mutual

/-- The text of a value whose first line stands at a depth. Members and items have a line each, and
what is empty is written without one. -/
def Value.chars (depth : Nat) : Value → List Char
  | .null => "null".toList
  | .bool b => (if b then "true" else "false").toList
  | .number n => (toString n).toList
  | .string s => quote s
  | .array vs => if vs.isEmpty then ['[', ']'] else ['['] ++ itemChars (depth + 1) vs ++ newline depth ++ [']']
  | .object ms =>
    if ms.isEmpty then ['{', '}'] else ['{'] ++ memberChars (depth + 1) ms ++ newline depth ++ ['}']

def itemChars (depth : Nat) : List Value → List Char
  | [] => []
  | v :: vs => newline depth ++ v.chars depth ++ (if vs.isEmpty then [] else [',']) ++ itemChars depth vs

def memberChars (depth : Nat) : List (String × Value) → List Char
  | [] => []
  | (k, v) :: ms =>
    newline depth ++ quote k ++ [':', ' '] ++ v.chars depth ++ (if ms.isEmpty then [] else [',']) ++
      memberChars depth ms

end

def Value.render (v : Value) : String := String.ofList (v.chars 0)

end Scaffold.Json
