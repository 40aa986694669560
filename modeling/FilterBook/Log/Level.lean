import FilterBook.Text

/-!
Levels of log events, and thresholds: how much is shown of them. A threshold is written as a name or
as a number.
-/

namespace FilterBook

namespace Log

/-- Levels from the gravest to the most detailed. -/
inductive Level where
  | error
  | warn
  | info
  | debug
  | trace
deriving DecidableEq, Repr

namespace Level

def all : List Level :=
  [error, warn, info, debug, trace]

def name : Level → String
  | error => "error"
  | warn => "warn"
  | info => "info"
  | debug => "debug"
  | trace => "trace"

/-- How much is shown at a level, from 1 on. -/
def detail : Level → Nat
  | error => 1
  | warn => 2
  | info => 3
  | debug => 4
  | trace => 5

end Level

/-- What is shown: nothing, or all events up to a level. -/
inductive Threshold where
  | off
  | upTo (level : Level)
deriving DecidableEq, Repr

namespace Threshold

def all : List Threshold :=
  .off :: Level.all.map .upTo

def name : Threshold → String
  | off => "off"
  | upTo level => level.name

def detail : Threshold → Nat
  | off => 0
  | upTo level => level.detail

def shows (t : Threshold) (level : Level) : Bool :=
  level.detail ≤ t.detail

/-- A number, with or without a plus sign. -/
def number? : List Char → Option Nat
  | '+' :: digits => decimal? digits
  | digits => decimal? digits

/-- A threshold is written as its number or as its name in any case. -/
def ofText? (text : List Char) : Option Threshold :=
  match number? text with
  | some n => all.find? fun t => t.detail == n
  | none => all.find? fun t => t.name.toList == text.map Char.toLower

end Threshold

end Log

end FilterBook
