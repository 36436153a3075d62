/-!
# Parts of dates

A part of a date has one name and many shorter or plural spellings.
-/

namespace SqlLayout.Grammar

/-- The spellings of the parts of dates, in upper case, each with the name of its part. -/
def datePartSpellings : List (String × String) :=
  [("Y", "YEAR"), ("YY", "YEAR"), ("YYY", "YEAR"), ("YYYY", "YEAR"), ("YR", "YEAR"),
    ("YEARS", "YEAR"),
   ("YRS", "YEAR"), ("MM", "MONTH"), ("MON", "MONTH"), ("MONS", "MONTH"), ("MONTHS", "MONTH"),
   ("D", "DAY"), ("DD", "DAY"), ("DAYS", "DAY"), ("DAYOFMONTH", "DAY"),
   ("DAY OF WEEK", "DAYOFWEEK"),
   ("WEEKDAY", "DAYOFWEEK"), ("DOW", "DAYOFWEEK"), ("DW", "DAYOFWEEK"),
   ("WEEKDAY_ISO", "DAYOFWEEKISO"), ("DOW_ISO", "DAYOFWEEKISO"), ("DW_ISO", "DAYOFWEEKISO"),
   ("DAYOFWEEK_ISO", "DAYOFWEEKISO"),
   ("DAY OF YEAR", "DAYOFYEAR"), ("DOY", "DAYOFYEAR"), ("DY", "DAYOFYEAR"), ("W", "WEEK"),
   ("WK", "WEEK"), ("WEEKOFYEAR", "WEEK"), ("WOY", "WEEK"), ("WY", "WEEK"), ("WEEK_ISO", "WEEKISO"),
   ("WEEKOFYEARISO", "WEEKISO"), ("WEEKOFYEAR_ISO", "WEEKISO"), ("Q", "QUARTER"),
   ("QTR", "QUARTER"), ("QTRS", "QUARTER"), ("QUARTERS", "QUARTER"), ("H", "HOUR"), ("HH", "HOUR"),
   ("HR", "HOUR"),
   ("HOURS", "HOUR"), ("HRS", "HOUR"), ("M", "MINUTE"), ("MI", "MINUTE"), ("MIN", "MINUTE"),
   ("MINUTES", "MINUTE"), ("MINS", "MINUTE"), ("S", "SECOND"), ("SEC", "SECOND"),
   ("SECONDS", "SECOND"), ("SECS", "SECOND"), ("MS", "MILLISECOND"), ("MSEC", "MILLISECOND"),
   ("MSECS", "MILLISECOND"),
   ("MSECOND", "MILLISECOND"), ("MSECONDS", "MILLISECOND"), ("MILLISEC", "MILLISECOND"),
   ("MILLISECS", "MILLISECOND"), ("MILLISECON", "MILLISECOND"), ("MILLISECONDS", "MILLISECOND"),
   ("US", "MICROSECOND"), ("USEC", "MICROSECOND"), ("USECS", "MICROSECOND"),
   ("MICROSEC", "MICROSECOND"), ("MICROSECS", "MICROSECOND"), ("USECOND", "MICROSECOND"),
   ("USECONDS", "MICROSECOND"),
   ("MICROSECONDS", "MICROSECOND"), ("NS", "NANOSECOND"), ("NSEC", "NANOSECOND"),
   ("NANOSEC", "NANOSECOND"), ("NSECOND", "NANOSECOND"), ("NSECONDS", "NANOSECOND"),
   ("NANOSECS", "NANOSECOND"),
   ("EPOCH_SECOND", "EPOCH"), ("EPOCH_SECONDS", "EPOCH"),
   ("EPOCH_MILLISECONDS", "EPOCH_MILLISECOND"), ("EPOCH_MICROSECONDS", "EPOCH_MICROSECOND"),
   ("EPOCH_NANOSECONDS", "EPOCH_NANOSECOND"),
   ("TZH", "TIMEZONE_HOUR"), ("TZM", "TIMEZONE_MINUTE"), ("DEC", "DECADE"), ("DECS", "DECADE"),
   ("DECADES", "DECADE"), ("MIL", "MILLENIUM"), ("MILS", "MILLENIUM"), ("MILLENIA", "MILLENIUM"),
   ("C", "CENTURY"), ("CENT", "CENTURY"), ("CENTS", "CENTURY"), ("CENTURIES", "CENTURY")]

/-- How often the unit of time since the epoch fits into a second, for the units below a second. -/
def epochScale? (part : String) : Option String :=
  match part with
  | "EPOCH_MILLISECOND" => some "1000"
  | "EPOCH_MICROSECOND" => some "1000000"
  | "EPOCH_NANOSECOND" => some "1000000000"
  | _ => none

end SqlLayout.Grammar
