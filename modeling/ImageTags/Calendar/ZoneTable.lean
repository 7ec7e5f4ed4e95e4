import ImageTags.Calendar.Zone

/-!
# A table of time zones

A selection of zones with their names.  Each has the rules that hold since 2019 and some of those
that held before.  Names are compared exactly.
-/

namespace ImageTags.Calendar

namespace Zone

/-- Summer time of North America since 2007, from the second Sunday of March to the first of
November, at two o'clock by the clock then in force. -/
def americanSummer (standard : Int) : Regime :=
  .seasonal standard (standard + 3600)
    ⟨3, .nth 1, 0, 7200, .standard⟩ ⟨11, .nth 0, 0, 7200, .summer⟩

/-- Summer time of North America from 1987 to 2006, from the first Sunday of April to the last of
October. -/
def americanSummerBefore2007 (standard : Int) : Regime :=
  .seasonal standard (standard + 3600)
    ⟨4, .nth 0, 0, 7200, .standard⟩ ⟨10, .final, 0, 7200, .summer⟩

/-- A zone of North America: standard time up to 1987, then the two rules for summer time, which
change places at the start of 2007. -/
def american (standard : Int) : Zone :=
  ⟨.fixed standard,
    [(536457600 - standard, americanSummerBefore2007 standard),
     (1167609600 - standard, americanSummer standard)]⟩

/-- Summer time of Europe, between the last Sundays of March and October, everywhere at one o'clock
UTC. -/
def europeanSummer (standard : Int) : Regime :=
  .seasonal standard (standard + 3600) ⟨3, .final, 0, 3600, .utc⟩ ⟨10, .final, 0, 3600, .utc⟩

/-- A zone of the European continent, with summer time since 1980. -/
def european (standard : Int) : Zone :=
  ⟨.fixed standard, [(315532800, europeanSummer standard)]⟩

/-- The British Isles were an hour ahead all year from February 1968 to October 1971. -/
def british : Zone :=
  ⟨europeanSummer 0, [(-59004000, .fixed 3600), (57722400, europeanSummer 0)]⟩

/-- Summer time of Australia, from the first Sunday of October at two o'clock to the first of April
at three. -/
def australianSummer (standard : Int) : Regime :=
  .seasonal standard (standard + 3600)
    ⟨10, .nth 0, 0, 7200, .standard⟩ ⟨4, .nth 0, 0, 10800, .summer⟩

/-- A zone of Australia, with summer time since 1987. -/
def australian (standard : Int) : Zone :=
  ⟨.fixed standard, [(536457600, australianSummer standard)]⟩

/-- Summer time of New Zealand, between the Saturdays before the last Sunday of September and the
first of April, everywhere at two in the afternoon UTC. -/
def newZealandSummer (standard : Int) : Regime :=
  .seasonal standard (standard + 3600)
    ⟨9, .final, -1, 50400, .utc⟩ ⟨4, .nth 0, -1, 50400, .utc⟩

/-- A zone of New Zealand, with summer time since 1990. -/
def newZealand (standard : Int) : Zone :=
  ⟨.fixed standard, [(631152000, newZealandSummer standard)]⟩

/-- Egypt has had summer time since 2023, from the last Friday of April to the day after the last
Thursday of October. -/
def egyptian : Zone :=
  ⟨.fixed 7200,
    [(1672531200, .seasonal 7200 10800 ⟨4, .since 26, -2, 0, .standard⟩
      ⟨10, .since 28, -2, 0, .summer⟩)]⟩

/-- Samoa had summer time from 2010 to 2021, and left out a day at the end of 2011 when it went over
to the other side of the date line. -/
def samoan : Zone :=
  ⟨.fixed (-39600),
    [(1285498800, .fixed (-36000)), (1301752800, .fixed (-39600)), (1316872800, .fixed (-36000)),
     (1325239200, .seasonal 46800 50400 ⟨9, .final, 0, 10800, .standard⟩
       ⟨4, .nth 0, 0, 14400, .summer⟩),
     (1617458400, .fixed 46800)]⟩

/-- The zones by name. -/
def table : List (String × Zone) :=
  [("UTC", fixed 0),
   ("GMT", fixed 0),
   ("Etc/UTC", fixed 0),
   ("EST", fixed (-18000)),
   ("Etc/GMT+5", fixed (-18000)),
   ("Etc/GMT-14", fixed 50400),
   ("Pacific/Kiritimati", fixed 50400),
   ("Asia/Tokyo", fixed 32400),
   ("Asia/Kolkata", fixed 19800),
   ("Asia/Shanghai", fixed 28800),
   ("Asia/Dubai", fixed 14400),
   ("America/Argentina/Buenos_Aires", fixed (-10800)),
   ("Pacific/Honolulu", fixed (-36000)),
   ("Africa/Cairo", egyptian),
   ("Europe/Istanbul", fixed 10800),
   ("Asia/Kathmandu", ⟨.fixed 19800, [(504901800, .fixed 20700)]⟩),
   ("Africa/Monrovia", ⟨.fixed (-2670), [(63593070, .fixed 0)]⟩),
   ("America/New_York",
    ⟨.fixed (-17762), (-2717650800, .fixed (-18000)) :: (american (-18000)).eras⟩),
   ("America/Los_Angeles", american (-28800)),
   ("US/Pacific", american (-28800)),
   ("America/St_Johns", american (-12600)),
   ("America/Sao_Paulo",
    ⟨.fixed (-10800), [(1541300400, .fixed (-7200)), (1550368800, .fixed (-10800))]⟩),
   ("Europe/London", british),
   ("Europe/Dublin", british),
   ("Europe/Paris", european 3600),
   ("Europe/Berlin", european 3600),
   ("Europe/Moscow",
    ⟨.fixed 10800, [(1301180400, .fixed 14400), (1414274400, .fixed 10800)]⟩),
   ("Australia/Sydney", australian 36000),
   ("Australia/Adelaide", australian 34200),
   ("Australia/Lord_Howe",
    ⟨.fixed 37800,
      [(536457600,
        .seasonal 37800 39600 ⟨10, .nth 0, 0, 7200, .standard⟩ ⟨4, .nth 0, 0, 7200, .summer⟩)]⟩),
   ("Pacific/Auckland", newZealand 43200),
   ("Pacific/Chatham", newZealand 45900),
   ("Pacific/Apia", samoan)]

/-- The zone of the table with a name. -/
def ofName? (name : String) : Option Zone :=
  table.lookup name

end Zone

end ImageTags.Calendar
