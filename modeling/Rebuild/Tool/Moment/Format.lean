import Rebuild.Tool.Moment

/-!
# Writing dates and times of day

A format is a text in which a letter after a percent sign stands for a part of the date. All times are those of
Greenwich.
-/

namespace Rebuild.Tool.Moment

/-- The names of the days of the week, from Sunday on. -/
def dayNames : List String :=
  ["Sunday", "Monday", "Tuesday", "Wednesday", "Thursday", "Friday", "Saturday"]

/-- The names of the months. -/
def fullMonthNames : List String :=
  ["January", "February", "March", "April", "May", "June", "July", "August", "September", "October", "November",
   "December"]

/-- What parts of a date are written from. -/
structure Calendar where
  civil : Civil
  /-- The seconds since the first of January 1970. -/
  seconds : Int
  nanos : Nat
  /-- The day of the week, from Sunday on. -/
  weekday : Nat
  /-- The day of the year, from one on. -/
  yearDay : Nat

/-- The parts of a moment. -/
def calendarOf (time : Time) : Calendar :=
  let seconds : Int := (time / nano : Nat)
  let c := civil seconds
  let number := dayNumber c.year c.month c.day
  ⟨c, seconds, time % nano, ((number + 4) % 7).toNat, (number - dayNumber c.year 1 1 + 1).toNat⟩

/-- A number with something before it up to a width. -/
def filled (pad : Char) (width : Nat) (n : Int) : String :=
  let digits := toString n.natAbs
  let digits := if n < 0 then "-" ++ digits else digits
  String.ofList (List.replicate (width - digits.length) pad) ++ digits

/-- The year and the week in which a day is, in which weeks begin on Monday and belong to the year of their Thursday. -/
def weekOf (c : Calendar) : Int × Nat :=
  let number := dayNumber c.civil.year c.civil.month c.civil.day
  let thursday := number - ((number + 3) % 7) + 3
  let (year, _, _) := civilDay thursday
  (year, ((thursday - dayNumber year 1 1) / 7 + 1).toNat)

/-- A part of a date that is a number: the number, what stands before it, and its width. -/
def numberPart? (c : Calendar) (letter : Char) : Option (Int × Char × Nat) :=
  let d := c.civil
  let hour12 : Nat := if d.hour % 12 == 0 then 12 else d.hour % 12
  match letter with
  | 'C' => some (d.year.fdiv 100, '0', 2)
  | 'd' => some (d.day, '0', 2)
  | 'e' => some (d.day, ' ', 2)
  | 'g' => some ((weekOf c).1 % 100, '0', 2)
  | 'G' => some ((weekOf c).1, '0', 4)
  | 'H' => some (d.hour, '0', 2)
  | 'I' => some (hour12, '0', 2)
  | 'j' => some (c.yearDay, '0', 3)
  | 'k' => some (d.hour, ' ', 2)
  | 'l' => some (hour12, ' ', 2)
  | 'm' => some (d.month, '0', 2)
  | 'M' => some (d.minute, '0', 2)
  | 'q' => some (((d.month + 2) / 3 : Nat), '0', 1)
  | 's' => some (c.seconds, '0', 1)
  | 'S' => some (d.second, '0', 2)
  | 'u' => some ((if c.weekday == 0 then 7 else c.weekday : Nat), '0', 1)
  | 'U' => some (((c.yearDay + 6 - c.weekday) / 7 : Nat), '0', 2)
  | 'V' => some ((weekOf c).2, '0', 2)
  | 'w' => some (c.weekday, '0', 1)
  | 'W' => some (((c.yearDay + 6 - (c.weekday + 6) % 7) / 7 : Nat), '0', 2)
  | 'y' => some (d.year % 100, '0', 2)
  | 'Y' => some (d.year, '0', 1)
  | _ => none

/-- A part of a date that is a text. -/
def textPart? (c : Calendar) (letter : Char) : Option String :=
  let day := dayNames[c.weekday]?.getD ""
  let month := fullMonthNames[c.civil.month - 1]?.getD ""
  match letter with
  | 'a' => some (day.take 3).toString
  | 'A' => some day
  | 'b' | 'h' => some (month.take 3).toString
  | 'B' => some month
  | 'n' => some "\n"
  | 'p' => some (if c.civil.hour < 12 then "AM" else "PM")
  | 'P' => some (if c.civil.hour < 12 then "am" else "pm")
  | 't' => some "\t"
  | 'z' => some "+0000"
  | 'Z' => some "UTC"
  | '%' => some "%"
  | _ => none

/-- The format that a letter abbreviates. -/
def shorthand? (letter : Char) : Option String :=
  match letter with
  | 'c' => some "%a %b %e %H:%M:%S %Y"
  | 'D' | 'x' => some "%m/%d/%y"
  | 'F' => some "%Y-%m-%d"
  | 'r' => some "%I:%M:%S %p"
  | 'R' => some "%H:%M"
  | 'T' | 'X' => some "%H:%M:%S"
  | _ => none

/-- Writes a moment by a format; letters that abbreviate others are read at most so deep. -/
def writeFormat (c : Calendar) (depth limit : Nat) (cs : List Char) : String :=
  match limit, cs with
  | limit + 1, '%' :: rest =>
    let isFlag (f : Char) : Bool := f == '-' || f == '_' || f == '0' || f == '^' || f == '#'
    let flags := rest.takeWhile isFlag
    let rest := rest.drop flags.length
    let digits := rest.takeWhile Char.isDigit
    let rest := rest.drop digits.length
    let colons := rest.takeWhile (· == ':')
    match rest.drop colons.length with
    | [] => String.ofList cs
    | letter :: after =>
      let upper (text : String) : String := if flags.contains '^' then text.toUpper else text
      let written : String :=
        if letter == 'N' then
          let width := if digits.isEmpty then 9 else digitsValue digits
          String.ofList ((filled '0' 9 c.nanos).toList.take width)
        else if letter == 'z' then (match colons.length with
          | 0 => "+0000"
          | 1 => "+00:00"
          | _ => "+00:00:00")
        else
          match numberPart? c letter, textPart? c letter, shorthand? letter, depth with
          | some (n, pad, width), _, _, _ =>
            let width := if digits.isEmpty then width else digitsValue digits
            if flags.contains '-' then filled pad 0 n
            else filled (if flags.contains '_' then ' ' else if flags.contains '0' then '0' else pad) width n
          | none, some text, _, _ =>
            let text := upper text
            String.ofList (List.replicate (digitsValue digits - text.length) ' ') ++ text
          | none, none, some format, depth + 1 => upper (writeFormat c depth 100 format.toList)
          | _, _, _, _ => String.ofList ('%' :: flags ++ digits ++ colons ++ [letter])
      written ++ writeFormat c depth limit after
  | limit + 1, d :: rest => d.toString ++ writeFormat c depth limit rest
  | _, _ => ""
termination_by (depth, limit)

/-- A moment as a format says. -/
def format (time : Time) (text : String) : String :=
  writeFormat (calendarOf time) 1 (text.length + 1) text.toList

end Rebuild.Tool.Moment
