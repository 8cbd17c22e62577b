import Scaffold.Text.Printable

namespace Scaffold

namespace Text

private def hexText (n : Nat) : List Char := Nat.toDigits 16 n

/-- How a character is written in quoted text. Quotes, backslashes and characters that would not show
are escaped, and so are those that would attach to the character before them. -/
def quoteChar (c : Char) : List Char :=
  if c = '"' then ['\\', '"']
  else if c = '\\' then ['\\', '\\']
  else if c = '\n' then ['\\', 'n']
  else if c = '\r' then ['\\', 'r']
  else if c = '\t' then ['\\', 't']
  else if c.toNat = 0 then ['\\', '0']
  else if isAttaching c || !isPrintable c then ['\\', 'u', '{'] ++ hexText c.toNat ++ ['}']
  else [c]

def quoted (s : String) : String := String.ofList ('"' :: s.toList.flatMap quoteChar ++ ['"'])

end Text

namespace Log

inductive Level where
  | warn
  | debug
  deriving DecidableEq, Repr

inductive Field where
  | quoted (s : String)
  | plain (s : String)
  | number (n : Nat)
  deriving DecidableEq, Repr

structure Event where
  level : Level
  message : String
  fields : List (String × Field)
  deriving DecidableEq, Repr

def Level.tag : Level → String
  | warn => "WARN"
  | debug => "DEBUG"

def Field.render : Field → String
  | quoted s => Text.quoted s
  | plain s => s
  | number n => toString n

def Event.render (e : Event) : String :=
  e.level.tag ++ " " ++ e.message ++
    String.join (e.fields.map fun (name, value) => " " ++ name ++ "=" ++ value.render)

end Log

structure Logged (α : Type) where
  value : α
  events : List Log.Event

namespace Logged

variable {α β : Type}

def map (f : α → β) (l : Logged α) : Logged β := ⟨f l.value, l.events⟩

def andThen (l : Logged α) (f : α → Logged β) : Logged β :=
  let next := f l.value
  ⟨next.value, l.events ++ next.events⟩

instance : Monad Logged where
  pure a := ⟨a, []⟩
  bind := andThen

def emit (e : Log.Event) : Logged Unit := ⟨(), [e]⟩

end Logged

end Scaffold
