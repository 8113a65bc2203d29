import ArithCompiler.Text.LetterCase
import ArithCompiler.Text.Quoted

/-!
# Log records

A record has a level, the name of the part of the program that logs, a message
and named fields in order. A log shows the records of its level and above.
-/

namespace ArithCompiler.Log

inductive Level where
  | debug
  | info
  | warn
  | error
  | dpanic
  | panic
  | fatal
deriving DecidableEq, Repr

namespace Level

def rank : Level → Nat
  | .debug => 0
  | .info => 1
  | .warn => 2
  | .error => 3
  | .dpanic => 4
  | .panic => 5
  | .fatal => 6

def name : Level → String
  | .debug => "debug"
  | .info => "info"
  | .warn => "warn"
  | .error => "error"
  | .dpanic => "dpanic"
  | .panic => "panic"
  | .fatal => "fatal"

def all : List Level := [.debug, .info, .warn, .error, .dpanic, .panic, .fatal]

/-- A level by its name in lower case; the empty name is `warn`. -/
def ofName? (s : String) : Option Level :=
  if s = "" then some .warn else all.find? (·.name = s)

theorem ofName?_name (l : Level) : ofName? l.name = some l := by
  cases l <;> decide

/-- Whether a log of level `least` shows records of level `l`. -/
def shows (least l : Level) : Bool := least.rank ≤ l.rank

end Level

/-- The value of a field. -/
inductive Value where
  | text (s : String)
  | number (n : Int)
  | texts (items : List String)
deriving DecidableEq, Repr

structure Record where
  level : Level
  /-- The part of the program that logs; empty for the program itself. -/
  source : String
  message : String
  fields : List (String × Value)
deriving DecidableEq, Repr

/-- The name under which the whole program logs. -/
def programName : String := "calcc"

/-- The full name of the part of the program that logs. -/
def Record.name (r : Record) : String :=
  if r.source = "" then programName else programName ++ "." ++ r.source

end ArithCompiler.Log
