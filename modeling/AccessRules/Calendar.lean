import AccessRules.Document.Basic

/-!
# Calendar dates and times

Dates like `2024-01-15` and times of day behind them, with a distance from universal time. Rules
carry them along as leaves.

* `Stamp.ofText?` — the date, and the time of day if there is one, that a text is written as;
* `Stamp.toLeaf` — it as a value, when there is such a date and such a time.
-/

namespace AccessRules

/-- A distance from universal time in minutes. -/
structure Offset where
  minutes : Int
  deriving DecidableEq, Repr

/-- A time of day. -/
structure TimeOfDay where
  hour : Nat
  minute : Nat
  second : Nat
  /-- Millionths of a second. -/
  fraction : Nat
  /-- The distance from universal time; `none` when the text does not tell. -/
  offset : Option Offset
  deriving DecidableEq, Repr

/-- A date, and the time of day on it. The fields need not be in range. -/
structure Stamp where
  year : Nat
  month : Nat
  day : Nat
  time : Option TimeOfDay
  deriving DecidableEq, Repr

namespace Stamp

/-- A number of at least `least` and at most `most` digits at the front of a text. -/
def digits? (least most : Nat) (text : List Char) : Option (Nat × List Char) :=
  let digits := (text.take most).takeWhile Number.isPlainDigit
  if digits.length < least then none
  else some (Number.digitsValue digits, text.drop digits.length)

/-- The text behind a character. -/
def past? (c : Char) : List Char → Option (List Char)
  | first :: rest => if first == c then some rest else none
  | [] => none

/-- A fraction of a second behind its point: its first six digits count. -/
def fractionOf (text : List Char) : Nat × List Char :=
  match text with
  | '.' :: rest =>
      let digits := rest.takeWhile Number.isPlainDigit
      (Number.digitsValue ((digits ++ List.replicate 6 '0').take 6), rest.drop digits.length)
  | text => (0, text)

/-- A distance from universal time at the end of a text, which may be absent. -/
def offset? (text : List Char) : Option (Option Offset) :=
  if text.isEmpty then some none
  else match text.dropWhile fun c => c == ' ' || c == '\t' with
    | ['Z'] => some (some ⟨0⟩)
    | sign :: rest => do
        if sign != '+' && sign != '-' then none
        else
          let (hours, rest) ← digits? 1 2 rest
          let minutes ← if rest.isEmpty then some 0 else do
            let (minutes, rest) ← digits? 2 2 (← past? ':' rest)
            if rest.isEmpty then some minutes else none
          let size : Int := (hours * 60 + minutes : Nat)
          return some ⟨if sign == '-' then -size else size⟩
    | [] => none

/-- A time of day. -/
def time? (text : List Char) : Option TimeOfDay := do
  let (hour, rest) ← digits? 1 2 text
  let (minute, rest) ← digits? 2 2 (← past? ':' rest)
  let (second, rest) ← digits? 2 2 (← past? ':' rest)
  let (fraction, rest) := fractionOf rest
  return ⟨hour, minute, second, fraction, ← offset? rest⟩

/-- The text of a time of day behind its date: after a letter, or after blanks. -/
def behindDate? (text : List Char) : Option (List Char) :=
  match text with
  | 'T' :: rest | 't' :: rest => some rest
  | text =>
      let rest := text.dropWhile fun c => c == ' ' || c == '\t'
      if rest.length < text.length then some rest else none

/-- The date, with the time of day if there is one, that a text is written as. -/
def ofText? (text : List Char) : Option Stamp := do
  let (year, rest) ← digits? 4 4 text
  let (month, rest) ← digits? 1 2 (← past? '-' rest)
  let (day, rest) ← digits? 1 2 (← past? '-' rest)
  if rest.isEmpty then return ⟨year, month, day, none⟩
  else return ⟨year, month, day, some (← time? (← behindDate? rest))⟩

/-- Is it a leap year? -/
def isLeap (year : Nat) : Bool := year % 4 == 0 && (year % 100 != 0 || year % 400 == 0)

/-- The number of days of a month. -/
def monthLength (year month : Nat) : Nat :=
  if month == 2 then (if isLeap year then 29 else 28)
  else if [4, 6, 9, 11].contains month then 30
  else 31

/-- The first field that is out of range. The distance from universal time comes before the
others. -/
def misfit? (stamp : Stamp) : Option CalendarField :=
  let offset := (stamp.time.bind (·.offset)).bind fun offset =>
    if offset.minutes.natAbs < 24 * 60 then none
    else
      some (.offset (Int.fdiv offset.minutes (24 * 60))
        ((Int.fmod offset.minutes (24 * 60)).toNat * 60))
  offset <|>
  if stamp.year < 1 then some (.year stamp.year)
  else if stamp.month < 1 || 12 < stamp.month then some .month
  else if stamp.day < 1 || monthLength stamp.year stamp.month < stamp.day then some .day
  else stamp.time.bind fun time =>
    if 23 < time.hour then some .hour
    else if 59 < time.minute then some .minute
    else if 59 < time.second then some .second
    else none

/-- A number with zeros in front up to `width` digits. -/
def padded (width n : Nat) : String :=
  let digits := Number.decimalDigits n
  String.ofList (List.replicate (width - digits.length) '0' ++ digits)

/-- The text of a distance from universal time. -/
def offsetText (offset : Offset) : String :=
  (if offset.minutes < 0 then "-" else "+") ++ padded 2 (offset.minutes.natAbs / 60) ++ ":" ++
    padded 2 (offset.minutes.natAbs % 60)

/-- A distance from universal time inside a list. -/
def offsetDisplay (offset : Offset) : String :=
  if offset.minutes == 0 then "datetime.timezone.utc"
  else if 0 < offset.minutes then
    "datetime.timezone(datetime.timedelta(seconds=" ++
      Number.writtenInt (offset.minutes * 60) ++ "))"
  else
    "datetime.timezone(datetime.timedelta(days=-1, seconds=" ++
      Number.writtenInt (24 * 60 * 60 + offset.minutes * 60) ++ "))"

/-- The text of a date. -/
def dateText (stamp : Stamp) : String :=
  padded 4 stamp.year ++ "-" ++ padded 2 stamp.month ++ "-" ++ padded 2 stamp.day

/-- The text of a time of day. -/
def timeText (time : TimeOfDay) : String :=
  padded 2 time.hour ++ ":" ++ padded 2 time.minute ++ ":" ++ padded 2 time.second ++
    (if time.fraction == 0 then "" else "." ++ padded 6 time.fraction) ++
    (time.offset.map offsetText).getD ""

/-- The numbers of a time of day inside a list: seconds only when there are any. -/
def timeNumbers (time : TimeOfDay) : List Nat :=
  [time.hour, time.minute] ++
    (if time.second == 0 && time.fraction == 0 then [] else [time.second]) ++
    (if time.fraction == 0 then [] else [time.fraction])

/-- Numbers one after another with a comma and a blank between them. -/
def numbersText (numbers : List Nat) : String :=
  ", ".intercalate (numbers.map fun (n : Nat) => Number.writtenInt n)

/-- The value of a date or of a time on a date. -/
def toLeaf (stamp : Stamp) : Except Fault Leaf :=
  match stamp.misfit? with
  | some field => .error (.wrongValue (.calendar field))
  | none =>
      let date := [stamp.year, stamp.month, stamp.day]
      match stamp.time with
      | none =>
          .ok ⟨"date", stamp.dateText, "datetime.date(" ++ numbersText date ++ ")"⟩
      | some time =>
          .ok ⟨"datetime", stamp.dateText ++ " " ++ timeText time,
            "datetime.datetime(" ++ numbersText (date ++ timeNumbers time) ++
              ((time.offset.map fun offset => ", tzinfo=" ++ offsetDisplay offset).getD "") ++
              ")"⟩

end Stamp

end AccessRules
