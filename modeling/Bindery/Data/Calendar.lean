/-!
# The calendar

Which days and times of day there are, and the numbers in the text of a moment.
-/
namespace Bindery.Data.Calendar

def isLeapYear (year : Nat) : Bool := year % 4 = 0 && (year % 100 ≠ 0 || year % 400 = 0)

def daysOfMonth (year month : Nat) : Nat :=
  if month = 2 then (if isLeapYear year then 29 else 28)
  else if [4, 6, 9, 11].contains month then 30 else 31

def isDate (year month day : Nat) : Bool :=
  1 ≤ year && 1 ≤ month && month ≤ 12 && 1 ≤ day && day ≤ daysOfMonth year month

def isTimeOfDay (hour minute second : Nat) : Bool := hour < 24 && minute < 60 && second < 60

def digitRuns : List Char → List (List Char)
  | [] => []
  | c :: rest =>
    if !c.isDigit then digitRuns rest
    else match rest with
      | next :: _ =>
        if next.isDigit then match digitRuns rest with
          | [] => [[c]]
          | run :: others => (c :: run) :: others
        else [c] :: digitRuns rest
      | [] => [[c]]

end Bindery.Data.Calendar
