import QueryFrame.Instant
import QueryFrame.Numeral

/-!
# Dates and times in RFC 3339 form

Reads texts such as `2021-11-12T14:45:26.371+03:00`: a date of the proleptic Gregorian calendar
in the years 0000 to 9999, a time of day whose seconds may be 60, and an offset from UTC.
Digits of the fraction after the ninth are dropped.
-/

namespace QueryFrame.Rfc3339

/-- The days from 0000-01-01 to the first day of a year. -/
def daysBeforeYear (year : Nat) : Nat :=
  365 * year + (year + 3) / 4 - (year + 99) / 100 + (year + 399) / 400

def isLeapYear (year : Nat) : Bool :=
  year % 4 == 0 && (year % 100 != 0 || year % 400 == 0)

def monthLengths (year : Nat) : List Nat :=
  [31, if isLeapYear year then 29 else 28, 31, 30, 31, 30, 31, 31, 30, 31, 30, 31]

/-- The days from 1970-01-01 to a date, if the year has such a day. -/
def epochDay? (year month day : Nat) : Option Int := do
  let length ← (monthLengths year)[month - 1]?
  guard (1 ≤ month ∧ 1 ≤ day ∧ day ≤ length)
  let months := ((monthLengths year).take (month - 1)).foldl (· + ·) 0
  let elapsed := daysBeforeYear year + months + (day - 1)
  return elapsed - daysBeforeYear 1970

def digits? : Nat → Nat → List Char → Option (Nat × List Char)
  | 0, value, cs => some (value, cs)
  | count + 1, value, c :: rest => do digits? count (10 * value + (← Numeral.digit? c)) rest
  | _ + 1, _, [] => none

def pair? (separators : List Char) : List Char → Option (Nat × List Char)
  | c :: rest => if c ∈ separators then digits? 2 0 rest else none
  | [] => none

def fraction? : List Char → Option (Nat × List Char)
  | '.' :: rest => do
    let places := rest.takeWhile Char.isDigit
    guard (!places.isEmpty)
    let (nanos, _) ← digits? 9 0 (places.take 9 ++ .replicate 9 '0')
    return (nanos, rest.drop places.length)
  | cs => some (0, cs)

/-- Reads an offset from UTC, in seconds, up to the end of the text. -/
def offset? : List Char → Option Int
  | ['Z'] | ['z'] => some 0
  | sign :: rest => do
    let (hours, rest) ← digits? 2 0 rest
    let (minutes, rest) ← pair? [':'] rest
    guard ((sign == '+' || sign == '-') && rest.isEmpty && hours < 24 && minutes < 60)
    let distance : Int := (60 * hours + minutes : Nat) * 60
    return if sign == '-' then -distance else distance
  | [] => none

/-- Reads a whole text. The seconds of a leap second are those of the second before it. -/
def read? (text : List Char) : Option ZonedTime := do
  let (year, rest) ← digits? 4 0 text
  let (month, rest) ← pair? ['-'] rest
  let (day, rest) ← pair? ['-'] rest
  let (hour, rest) ← pair? ['T', 't', ' '] rest
  let (minute, rest) ← pair? [':'] rest
  let (second, rest) ← pair? [':'] rest
  let (nanos, rest) ← fraction? rest
  let offset ← offset? rest
  let date ← epochDay? year month day
  guard (hour < 24 ∧ minute < 60 ∧ second ≤ 60)
  let clock := (60 * hour + minute) * 60 + min second 59
  let nanos := if second = 60 then nanos + 1000000000 else nanos
  if h : nanos < 2000000000 then
    return { wall := date * 86400 + clock, nanos, offset, nanos_lt := h }
  else none

end QueryFrame.Rfc3339
