import Colloquy.Calendar.Date

/-!
# Ages in words

How long ago something was written, in the coarsest unit that fits, and the date once a month has
passed. Anything from the last minute or from the future is "just now".
-/

namespace Colloquy.Age

/-- Seconds in a minute. -/
def minute : Int := 60

/-- Seconds in an hour. -/
def hour : Int := 3600

/-- Seconds in a day. -/
def day : Int := 86400

/-- The age from which on the date is shown. -/
def month : Int := 30 * day

/-- An amount of a unit that has passed. -/
def phrase (amount : Int) (unit : String) : String :=
  if amount = 1 then "1 " ++ unit ++ " ago" else toString amount ++ " " ++ unit ++ "s ago"

/-- The age of one instant as seen from another. -/
def label (earlier now : Instant) : String :=
  let seconds := now.secondsSince earlier
  if seconds < minute then "just now"
  else if seconds < hour then phrase (seconds / minute) "minute"
  else if seconds < day then phrase (seconds / hour) "hour"
  else if seconds < month then phrase (seconds / day) "day"
  else (Date.ofInstant earlier).text

end Colloquy.Age
