import Rebuild.FileView

/-!
# Dates and times of day

A moment counts nanoseconds. `Moment.seconds` finds the seconds of a date and a time of day, `Moment.civil` the date of
a day; `Moment.ofText?` and `Moment.ofStamp?` read dates as they are written in arguments.
-/

namespace Rebuild.Tool.Moment

/-- A date and a time of day. -/
structure Civil where
  year : Int
  month : Nat
  day : Nat
  hour : Nat
  minute : Nat
  second : Nat
deriving DecidableEq, Repr

/-- The number of nanoseconds in a second. -/
def nano : Nat := 1000000000

/-- The number of the day of a date, counted from the first of January 1970. -/
def dayNumber (year : Int) (month day : Nat) : Int :=
  let y := if month ≤ 2 then year - 1 else year
  let era := y.fdiv 400
  let yearOfEra := y - era * 400
  let monthFromMarch : Int := if month ≤ 2 then month + 9 else (month : Int) - 3
  let dayOfYear := (153 * monthFromMarch + 2) / 5 + day - 1
  let dayOfEra := yearOfEra * 365 + yearOfEra / 4 - yearOfEra / 100 + dayOfYear
  era * 146097 + dayOfEra - 719468

/-- The year, month and day with a number. -/
def civilDay (number : Int) : Int × Nat × Nat :=
  let z := number + 719468
  let era := z.fdiv 146097
  let dayOfEra := z - era * 146097
  let yearOfEra := (dayOfEra - dayOfEra / 1460 + dayOfEra / 36524 - dayOfEra / 146096) / 365
  let dayOfYear := dayOfEra - (365 * yearOfEra + yearOfEra / 4 - yearOfEra / 100)
  let monthFromMarch := (5 * dayOfYear + 2) / 153
  let day := dayOfYear - (153 * monthFromMarch + 2) / 5 + 1
  let month := if monthFromMarch < 10 then monthFromMarch + 3 else monthFromMarch - 9
  (yearOfEra + era * 400 + (if month ≤ 2 then 1 else 0), month.toNat, day.toNat)

/-- The seconds up to a date and a time of day. -/
def seconds (c : Civil) : Int :=
  dayNumber c.year c.month c.day * 86400 + c.hour * 3600 + c.minute * 60 + c.second

/-- The date and the time of day after so many seconds. -/
def civil (seconds : Int) : Civil :=
  let day := seconds.fdiv 86400
  let rest := (seconds - day * 86400).toNat
  let (year, month, dayOfMonth) := civilDay day
  ⟨year, month, dayOfMonth, rest / 3600, rest / 60 % 60, rest % 60⟩

/-- Whether there is such a date and time. -/
def isValid (c : Civil) : Bool :=
  1 ≤ c.month && c.month ≤ 12 && c.hour ≤ 23 && c.minute ≤ 59 && c.second ≤ 60 && 1 ≤ c.day && c.day ≤ 31 &&
    civilDay (dayNumber c.year c.month c.day) == (c.year, c.month, c.day)

/-- The moment of a date and a time of day. -/
def ofCivil? (c : Civil) : Option Time :=
  if isValid c && 0 ≤ seconds c then some ((seconds c).toNat * nano) else none

/-- The number that digits spell. -/
def digitsValue (cs : List Char) : Nat :=
  cs.foldl (fun n c => 10 * n + (c.toNat - 48)) 0

/-- The moment that a stamp of digits is: a month, a day, an hour and a minute, perhaps with a year before them and
seconds after a dot. -/
def ofStamp? (now : Time) (text : String) : Option Time :=
  let parts := text.toList.splitOnP (· == '.')
  let year := (civil (now / nano : Nat)).year
  if !(parts.all fun part => part.all Char.isDigit) then none
  else
    let at? (year : Int) (cs : List Char) (second : Nat) : Option Time :=
      let pair (i : Nat) : Nat := digitsValue ((cs.drop (2 * i)).take 2)
      ofCivil? ⟨year, pair 0, pair 1, pair 2, pair 3, second⟩
    let main := parts.headD []
    let second? : Option Nat := match parts with
      | [_] => some 0
      | [_, s] => if s.length == 2 then some (digitsValue s) else none
      | _ => none
    second?.bind fun second =>
      match main.length with
      | 8 => at? year main second
      | 10 =>
        let short := digitsValue (main.take 2)
        at? (if short ≤ 68 then 2000 + short else 1900 + short) (main.drop 2) second
      | 12 => at? (digitsValue (main.take 4)) (main.drop 4) second
      | _ => none

/-- The numbers between marks, if there are nothing but digits. -/
def numbers? (mark : Char) (text : String) : Option (List Nat) :=
  let parts := text.toList.splitOnP (· == mark)
  if parts.all fun part => !part.isEmpty && part.all Char.isDigit then some (parts.map digitsValue) else none

/-- A stretch of time: months, and seconds. -/
structure Stretch where
  months : Int
  seconds : Int
deriving DecidableEq, Repr

/-- The stretch of a unit of time. -/
def unit? (name : String) : Option Stretch :=
  let name := if name.endsWith "s" && name != "s" then (name.dropEnd 1).toString else name
  match name with
  | "sec" | "second" => some ⟨0, 1⟩
  | "min" | "minute" => some ⟨0, 60⟩
  | "hour" => some ⟨0, 3600⟩
  | "day" => some ⟨0, 86400⟩
  | "week" => some ⟨0, 604800⟩
  | "fortnight" => some ⟨0, 1209600⟩
  | "month" => some ⟨1, 0⟩
  | "year" => some ⟨12, 0⟩
  | _ => none

/-- The place of a word among names of which three letters are enough. -/
def nameIndex? (names : List String) (word : String) : Option Nat :=
  names.findIdx? fun name => word == name || word == (name.take 3).toString || word == (name.take 3).toString ++ "."

/-- The number of a month with a name. -/
def monthNamed? (word : String) : Option Nat :=
  (nameIndex? ["january", "february", "march", "april", "may", "june", "july", "august", "september", "october",
    "november", "december"] word).map (· + 1)

/-- The number of a day of the week with a name, counted from Sunday. -/
def weekdayNamed? (word : String) : Option Nat :=
  nameIndex? ["sunday", "monday", "tuesday", "wednesday", "thursday", "friday", "saturday"] word

/-- The time of day that a word is, in seconds. -/
def timeOfDay? (word : String) : Option Nat :=
  let word := if word.endsWith "Z" then (word.dropEnd 1).toString else word
  let whole := String.ofList (word.toList.takeWhile (· != '.'))
  match numbers? ':' whole with
  | some [h, m] => if h ≤ 23 && m ≤ 59 then some (h * 3600 + m * 60) else none
  | some [h, m, s] => if h ≤ 23 && m ≤ 59 && s ≤ 60 then some (h * 3600 + m * 60 + s) else none
  | _ => none

/-- The hour that a word is, with a note on the half of the day, in seconds. -/
def halfDayTime? (word : String) : Option Nat :=
  let base? (cs : List Char) : Option Nat :=
    match numbers? ':' (String.ofList cs) with
    | some (h :: rest) =>
      if 1 ≤ h && h ≤ 12 then some (h % 12 * 3600 + (rest[0]?.getD 0) * 60 + rest[1]?.getD 0) else none
    | _ => none
  match word.toList.reverse with
  | 'm' :: 'a' :: rest => base? rest.reverse
  | 'm' :: 'p' :: rest => (base? rest.reverse).map (· + 43200)
  | _ => none

/-- A word with a note on the half of the day that follows it, if there is one, and the words after that. -/
def withHalf (word : String) (rest : List String) : String × List String :=
  match rest with
  | note :: after =>
    if (note == "am" || note == "pm") && (halfDayTime? (word ++ note)).isSome then (word ++ note, after)
    else (word, rest)
  | [] => (word, rest)

/-- The time of day that digits are, in seconds. -/
def hourOf? (word : String) : Option Nat :=
  match numbers? ' ' word with
  | some [n] =>
    let (hour, minute) := if word.length ≤ 2 then (n, 0) else (n / 100, n % 100)
    if word.length ≤ 4 && hour ≤ 23 && minute ≤ 59 then some (hour * 3600 + minute * 60) else none
  | _ => none

/-- The distance from Greenwich that a word is, in seconds. -/
def zone? (word : String) : Option Int :=
  let (sign, digits) : Int × List Char := match word.toList with
    | '+' :: digits => (1, digits)
    | '-' :: digits => (-1, digits)
    | _ => (0, [])
  let plain := digits.filter (· != ':')
  if sign == 0 || !plain.all Char.isDigit then none
  else
    match plain.length with
    | 1 | 2 => some (sign * digitsValue plain * 3600)
    | 4 => some (sign * ((digitsValue (plain.take 2) * 3600 + digitsValue (plain.drop 2) * 60 : Nat) : Int))
    | _ => none

/-- The distance from Greenwich of the zone with a letter, in seconds. -/
def letterZone? (word : String) : Option Int :=
  match word.toList with
  | [c] =>
    let n : Int := c.toNat
    if 'a' ≤ c && c ≤ 'i' then some ((n - 96) * 3600)
    else if 'k' ≤ c && c ≤ 'm' then some ((n - 97) * 3600)
    else if 'n' ≤ c && c ≤ 'y' then some ((109 - n) * 3600)
    else none
  | _ => none

/-- A year, a month and a day. -/
abbrev Day := Int × Nat × Nat

/-- The day that a word is. -/
def day? (word : String) : Option Day :=
  let of (year month day : Nat) : Option Day :=
    if isValid ⟨year, month, day, 0, 0, 0⟩ then some (year, month, day) else none
  match numbers? '-' word, numbers? '/' word with
  | some [y, m, d], _ => of y m d
  | _, some [y, m, d] => if 1000 ≤ y then of y m d else of d y m
  | some [n], _ => if word.length == 8 then of (n / 10000) (n / 100 % 100) (n % 100) else none
  | _, _ => none

/-- What was read of a date: the day and the time of day, if they were, a day of the week and which of those days, and
what is added. -/
structure Parts where
  day : Option Day
  time : Option Nat
  weekday : Option (Nat × Int)
  shift : Stretch
  /-- Whether a stretch of time was read. -/
  isShifted : Bool
  /-- Whether a zone was read. -/
  isZoned : Bool
deriving Repr

namespace Parts

/-- Adds so many times a stretch. -/
def add (p : Parts) (count : Int) (s : Stretch) : Parts :=
  { p with shift := ⟨p.shift.months + count * s.months, p.shift.seconds + count * s.seconds⟩, isShifted := true }

/-- Notes a zone that is so many seconds from Greenwich. -/
def zoned (p : Parts) (distance : Int) : Parts :=
  { p with shift := { p.shift with seconds := p.shift.seconds - distance }, isZoned := true }

/-- The seconds of what was read, for which now is taken where nothing was said. -/
def seconds (p : Parts) (now : Int) : Int :=
  let c := civil now
  let isToday := p.day.isNone
  let (year, month, day) := p.day.getD (c.year, c.month, c.day)
  let months := year * 12 + (month - 1 : Nat) + p.shift.months
  let number := dayNumber (months.fdiv 12) ((months.fmod 12).toNat + 1) day
  let number := match p.weekday with
    | some (weekday, ordinal) =>
      let missing := (weekday - (number + 4)).fmod 7
      if isToday then number + missing + 7 * (if 0 < ordinal && missing != 0 then ordinal - 1 else ordinal) else number
    | none => number
  let isBare := p.day.isNone && p.time.isNone && p.weekday.isNone && (p.isShifted || !p.isZoned)
  number * 86400 + (if isBare then (now.fmod 86400) else (p.time.getD 0 : Nat)) + p.shift.seconds

end Parts

/-- What was read of a date, and the words that are left. -/
abbrev Step := Option (Parts × List String)

/-- The natural number that a word is. -/
def number? (word : String) : Option Nat :=
  (numbers? ' ' word).bind List.head?

/-- The year that comes first among words, if one does, or else that of now; and the words after it. -/
def yearOr (now : Int) (words : List String) : Int × List String :=
  match (words.head?.bind number?).filter (1000 ≤ ·) with
  | some year => (year, words.drop 1)
  | none => ((civil now).year, words)

/-- Takes a day. -/
def Parts.withDay (p : Parts) (month day : Nat) (found : Int × List String) : Step :=
  let (year, rest) := found
  if isValid ⟨year, month, day, 0, 0, 0⟩ then some ({ p with day := some (year, month, day) }, rest) else none

/-- The stretch of time at the beginning of words, with its count, and what follows it. -/
def stretchAt? (words : List String) : Option (Int × Stretch × List String) :=
  match words with
  | word :: rest =>
    let sign : Int := if word.startsWith "-" then -1 else 1
    let digits := if word.startsWith "-" || word.startsWith "+" then (word.drop 1).toString else word
    match number? digits, rest with
    | some n, name :: rest => (unit? name).map (sign * n, ·, rest)
    | none, number :: name :: rest =>
      match digits.isEmpty, number? number, unit? name with
      | true, some n, some unit => some (sign * n, unit, rest)
      | true, _, _ => none
      | false, _, _ => (unit? word).map (1, ·, number :: name :: rest)
    | _, rest => if digits.isEmpty then none else (unit? word).map (1, ·, rest)
  | [] => none

/-- Takes a word that shifts a date, or says nothing of it. -/
def takeShift (p : Parts) (word : String) (rest : List String) : Step :=
  let ordinal (count : Int) : Step :=
    match rest with
    | [] => none
    | name :: rest =>
      match weekdayNamed? name, unit? name with
      | some weekday, _ => some ({ p with weekday := some (weekday, count) }, rest)
      | none, some unit => some (p.add count unit, rest)
      | none, none => none
  match word with
  | "now" | "today" => some (p.add 1 ⟨0, 0⟩, rest)
  | "utc" | "gmt" | "z" | "j" => some ({ p with isZoned := true }, rest)
  | "yesterday" => some (p.add (-1) ⟨0, 86400⟩, rest)
  | "tomorrow" => some (p.add 1 ⟨0, 86400⟩, rest)
  | "last" => ordinal (-1)
  | "this" => ordinal 0
  | "next" => ordinal 1
  | _ => none

/-- Takes words of which one is the name of a month or of a day of the week. -/
def takeNamed (now : Int) (p : Parts) (word : String) (rest : List String) : Step :=
  match weekdayNamed? word, monthNamed? word, number? word with
  | some weekday, _, _ => some ({ p with weekday := some (weekday, 0) }, rest)
  | none, some month, _ =>
    (rest.head?.bind number?).bind fun day => p.withDay month day (yearOr now (rest.drop 1))
  | none, none, some day =>
    (rest.head?.bind monthNamed?).bind fun month => p.withDay month day (yearOr now (rest.drop 1))
  | none, none, none => none

/-- Takes a word that is a date, a time of day, or both. -/
def takeNumbers (p : Parts) (word : String) (rest : List String) : Step :=
  match day? word, (timeOfDay? word).or (halfDayTime? word), word.toList.splitOnP (· == 't') with
  | some d, _, _ => some ({ p with day := some d }, rest)
  | none, some t, _ => some ({ p with time := some t }, rest)
  | none, none, [date, clock] => do
    let plain := clock.takeWhile fun c => c != '+' && c != '-'
    let d ← day? (String.ofList date)
    let t ← timeOfDay? (String.ofList plain).toUpper
    let zone ← if plain.length < clock.length then zone? (String.ofList (clock.drop plain.length)) else some 0
    some ({ p with day := some d, time := some t }.zoned zone, rest)
  | none, none, _ => none

/-- Takes a word that is a zone or an hour. -/
def takeZone (p : Parts) (word : String) (rest : List String) : Step :=
  match (p.time.bind fun _ => zone? word).or (if p.isZoned then none else letterZone? word) with
  | some zone => some (p.zoned zone, rest)
  | none => if p.time.isNone then (hourOf? word).map fun seconds => ({ p with time := some seconds }, rest) else none

/-- Takes the next words of a date. -/
def takeWords (now : Int) (p : Parts) (word : String) (rest : List String) : Step :=
  match stretchAt? (word :: rest) with
  | some (count, unit, "ago" :: rest) => some (p.add (-count) unit, rest)
  | some (count, unit, rest) => some (p.add count unit, rest)
  | none =>
    let (joined, after) := withHalf word rest
    (takeShift p word rest).or
      ((takeNamed now p word rest).or ((takeNumbers p joined after).or (takeZone p joined after)))

/-- What words say of a date, after what was read. -/
def readWords (limit : Nat) (now : Int) (p : Parts) (words : List String) : Option Parts :=
  match limit, words with
  | _, [] => some p
  | 0, _ => none
  | limit + 1, word :: rest => (takeWords now p word rest).bind fun (p, rest) => readWords limit now p rest

/-- The moment that a text says, in words or numbers. -/
def ofText? (now : Time) (text : String) : Option Time :=
  match text.toList with
  | '@' :: digits =>
    let whole := digits.takeWhile (· != '.')
    let fraction := ((digits.drop (whole.length + 1)).take 9)
    if !whole.isEmpty && whole.all Char.isDigit && fraction.all Char.isDigit then
      some (digitsValue whole * nano +
        digitsValue (fraction ++ List.replicate (9 - fraction.length) '0'))
    else none
  | _ =>
    let words :=
      ((text.toLower.toList.splitOnP fun c => c == ' ' || c == ',').filter fun w => !w.isEmpty).map String.ofList
    let words := if words.isEmpty then ["today", "midnight"] else words
    let now : Int := (now / nano : Nat)
    match readWords (words.length + 1) now ⟨none, none, none, ⟨0, 0⟩, false, false⟩ words with
    | some parts =>
      let seconds := parts.seconds now
      if 0 ≤ seconds then some (seconds.toNat * nano) else none
    | none => none

end Rebuild.Tool.Moment
