/-!
# Log records

A log record is a text with a level. Records are collected in the order in which they are written.
-/

namespace Interception

/-- How urgent a log record is. -/
inductive LogLevel where
  /-- Of interest when something is being examined. -/
  | debug
  /-- Of general interest. -/
  | info
  /-- Something that should not have happened. -/
  | warn
  deriving DecidableEq

/-- A line of the log. -/
structure LogRecord where
  /-- How urgent the record is. -/
  level : LogLevel
  /-- What it says. -/
  text : String
  deriving DecidableEq

/-- The name of a level as it stands in a log. -/
def LogLevel.name : LogLevel → String
  | debug => "DEBUG"
  | info => "INFO"
  | warn => "WARN"

namespace LogRecord

/-- A record for closer examination. -/
def debug (text : String) : LogRecord := ⟨.debug, "[AOP] " ++ text⟩

/-- A record of general interest. -/
def info (text : String) : LogRecord := ⟨.info, "[AOP] " ++ text⟩

/-- A record of something unexpected. -/
def warn (text : String) : LogRecord := ⟨.warn, "[AOP] " ++ text⟩

/-- The words before a measured duration, read backwards. -/
def durationMark : List Char := "duration_ms=".toList.reverse

/-- Leaves out the digits of every duration and puts a sharp sign in their place. `front` holds what is
already written, read backwards, and `skipping` says that the last character written is such a sign. -/
def maskFrom (front : List Char) (skipping : Bool) : List Char → List Char
  | [] => front.reverse
  | c :: rest =>
    if c.isDigit && skipping then maskFrom front true rest
    else if c.isDigit && durationMark.isPrefixOf front then maskFrom ('#' :: front) true rest
    else maskFrom (c :: front) false rest

/-- The record without measured durations, so that the records of two runs can be compared. -/
def masked (record : LogRecord) : LogRecord :=
  { record with text := String.ofList (maskFrom [] false record.text.toList) }

end LogRecord

end Interception
