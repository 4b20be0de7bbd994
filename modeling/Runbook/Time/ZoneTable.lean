import Runbook.Time.Timestamp

/-!
The hours that a region keeps: always the same distance from universal time, or another one in
summer. Main notions: the distance at an instant, and the instants at which the clocks of a region
show a given time, of which there is none where they are put forward and two where they are put
back. After them come the regions of the time zone database, each with the hours that it keeps since
2020.
-/

namespace Runbook

/-- A day of the year named by its month, which weekday of the month it is, 5 being the last one,
and the weekday, Sunday being 0; and a time of that day in minutes. -/
structure YearDay where
  month : Nat
  week : Nat
  weekday : Nat
  minutes : Int
  deriving DecidableEq, Repr

/-- A rule for the minutes that clocks are ahead of universal time. -/
inductive ZoneRule where
  | fixed (minutes : Int)
  | seasonal (standard summer : Int) (start stop : YearDay)
  deriving DecidableEq, Repr

namespace YearDay

def days (d : YearDay) (year : Int) : Int :=
  let first := CivilDate.toDays ⟨year, d.month, 1⟩
  let ahead := (d.weekday + 7 - CivilDate.weekdayOfDays first) % 7
  let day := ahead + 7 * (d.week - 1)
  first + if day < CivilDate.daysInMonth year d.month then day else day - 7

def localSecond (d : YearDay) (year : Int) : Int :=
  d.days year * Timestamp.secondsPerDay + d.minutes * 60

end YearDay

namespace ZoneRule

/-- Whether clocks show summer time at a second of universal time. -/
def isSummer (standard summer : Int) (start stop : YearDay) (second : Int) : Bool :=
  let year := (CivilDate.ofDays ((second + standard * 60) / Timestamp.secondsPerDay)).year
  let opens := start.localSecond year - standard * 60
  let closes := stop.localSecond year - summer * 60
  if opens < closes then opens ≤ second && second < closes
  else !(closes ≤ second && second < opens)

/-- The seconds that clocks are ahead at a second of universal time. -/
def offsetAt (r : ZoneRule) (second : Int) : Int :=
  match r with
  | .fixed minutes => minutes * 60
  | .seasonal standard summer start stop =>
    (if isSummer standard summer start stop second then summer else standard) * 60

def toLocal (r : ZoneRule) (second : Int) : Int := second + r.offsetAt second

/-- The distances that clocks may show, the greatest first. -/
def offsets : ZoneRule → List Int
  | .fixed minutes => [minutes * 60]
  | .seasonal standard summer .. => [max standard summer * 60, min standard summer * 60]

/-- The instants at which clocks show a local second, the earliest first. -/
def instants (r : ZoneRule) (localSecond : Int) : List Int :=
  (r.offsets.map (localSecond - ·)).filter fun second => r.toLocal second == localSecond

end ZoneRule

end Runbook

namespace Runbook.ZoneTable

/-- The rules, and the names of the regions that keep each of them. -/
def table : List (ZoneRule × List String) := [
  (.fixed (-720),
    ["Etc/GMT+12"]),
  (.fixed (-660),
    ["Etc/GMT+11", "Pacific/Midway", "Pacific/Niue", "Pacific/Pago_Pago", "Pacific/Samoa",
     "US/Samoa"]),
  (.fixed (-600),
    ["Etc/GMT+10", "HST", "Pacific/Honolulu", "Pacific/Johnston", "Pacific/Rarotonga",
     "Pacific/Tahiti", "US/Hawaii"]),
  (.seasonal (-600) (-540) ⟨3, 2, 0, 120⟩ ⟨11, 1, 0, 120⟩,
    ["America/Adak", "America/Atka", "US/Aleutian"]),
  (.fixed (-570),
    ["Pacific/Marquesas"]),
  (.fixed (-540),
    ["Etc/GMT+9", "Pacific/Gambier"]),
  (.seasonal (-540) (-480) ⟨3, 2, 0, 120⟩ ⟨11, 1, 0, 120⟩,
    ["America/Anchorage", "America/Juneau", "America/Metlakatla", "America/Nome", "America/Sitka",
     "America/Yakutat", "US/Alaska"]),
  (.fixed (-480),
    ["Etc/GMT+8", "Pacific/Pitcairn"]),
  (.seasonal (-480) (-420) ⟨3, 2, 0, 120⟩ ⟨11, 1, 0, 120⟩,
    ["America/Ensenada", "America/Los_Angeles", "America/Santa_Isabel", "America/Tijuana",
     "America/Vancouver", "Canada/Pacific", "Mexico/BajaNorte", "PST8PDT", "US/Pacific"]),
  (.fixed (-420),
    ["America/Creston", "America/Dawson", "America/Dawson_Creek", "America/Fort_Nelson",
     "America/Hermosillo", "America/Mazatlan", "America/Phoenix", "America/Whitehorse",
     "Canada/Yukon", "Etc/GMT+7", "MST", "Mexico/BajaSur", "US/Arizona"]),
  (.seasonal (-420) (-360) ⟨3, 2, 0, 120⟩ ⟨11, 1, 0, 120⟩,
    ["America/Boise", "America/Cambridge_Bay", "America/Ciudad_Juarez", "America/Denver",
     "America/Edmonton", "America/Inuvik", "America/Shiprock", "America/Yellowknife",
     "Canada/Mountain", "MST7MDT", "Navajo", "US/Mountain"]),
  (.fixed (-360),
    ["America/Bahia_Banderas", "America/Belize", "America/Chihuahua", "America/Costa_Rica",
     "America/El_Salvador", "America/Guatemala", "America/Managua", "America/Merida",
     "America/Mexico_City", "America/Monterrey", "America/Regina", "America/Swift_Current",
     "America/Tegucigalpa", "Canada/Saskatchewan", "Etc/GMT+6", "Mexico/General",
     "Pacific/Galapagos"]),
  (.seasonal (-360) (-300) ⟨3, 2, 0, 120⟩ ⟨11, 1, 0, 120⟩,
    ["America/Chicago", "America/Indiana/Knox", "America/Indiana/Tell_City", "America/Knox_IN",
     "America/Matamoros", "America/Menominee", "America/North_Dakota/Beulah",
     "America/North_Dakota/Center", "America/North_Dakota/New_Salem", "America/Ojinaga",
     "America/Rainy_River", "America/Rankin_Inlet", "America/Resolute", "America/Winnipeg",
     "CST6CDT", "Canada/Central", "US/Central", "US/Indiana-Starke"]),
  (.seasonal (-360) (-300) ⟨9, 1, 6, 1320⟩ ⟨4, 1, 6, 1320⟩,
    ["Chile/EasterIsland", "Pacific/Easter"]),
  (.fixed (-300),
    ["America/Atikokan", "America/Bogota", "America/Cancun", "America/Cayman",
     "America/Coral_Harbour", "America/Eirunepe", "America/Guayaquil", "America/Jamaica",
     "America/Lima", "America/Panama", "America/Porto_Acre", "America/Rio_Branco", "Brazil/Acre",
     "EST", "Etc/GMT+5", "Jamaica"]),
  (.seasonal (-300) (-240) ⟨3, 2, 0, 0⟩ ⟨11, 1, 0, 60⟩,
    ["America/Havana", "Cuba"]),
  (.seasonal (-300) (-240) ⟨3, 2, 0, 120⟩ ⟨11, 1, 0, 120⟩,
    ["America/Detroit", "America/Fort_Wayne", "America/Grand_Turk", "America/Indiana/Indianapolis",
     "America/Indiana/Marengo", "America/Indiana/Petersburg", "America/Indiana/Vevay",
     "America/Indiana/Vincennes", "America/Indiana/Winamac", "America/Indianapolis",
     "America/Iqaluit", "America/Kentucky/Louisville", "America/Kentucky/Monticello",
     "America/Louisville", "America/Montreal", "America/Nassau", "America/New_York",
     "America/Nipigon", "America/Pangnirtung", "America/Port-au-Prince", "America/Thunder_Bay",
     "America/Toronto", "Canada/Eastern", "EST5EDT", "US/East-Indiana", "US/Eastern",
     "US/Michigan"]),
  (.fixed (-240),
    ["America/Anguilla", "America/Antigua", "America/Aruba", "America/Barbados",
     "America/Blanc-Sablon", "America/Boa_Vista", "America/Campo_Grande", "America/Caracas",
     "America/Cuiaba", "America/Curacao", "America/Dominica", "America/Grenada",
     "America/Guadeloupe", "America/Guyana", "America/Kralendijk", "America/La_Paz",
     "America/Lower_Princes", "America/Manaus", "America/Marigot", "America/Martinique",
     "America/Montserrat", "America/Port_of_Spain", "America/Porto_Velho", "America/Puerto_Rico",
     "America/Santo_Domingo", "America/St_Barthelemy", "America/St_Kitts", "America/St_Lucia",
     "America/St_Thomas", "America/St_Vincent", "America/Tortola", "America/Virgin", "Brazil/West",
     "Etc/GMT+4"]),
  (.seasonal (-240) (-180) ⟨3, 2, 0, 120⟩ ⟨11, 1, 0, 120⟩,
    ["America/Glace_Bay", "America/Goose_Bay", "America/Halifax", "America/Moncton",
     "America/Thule", "Atlantic/Bermuda", "Canada/Atlantic"]),
  (.seasonal (-240) (-180) ⟨9, 1, 6, 1440⟩ ⟨4, 1, 6, 1440⟩,
    ["America/Santiago", "Chile/Continental"]),
  (.seasonal (-210) (-150) ⟨3, 2, 0, 120⟩ ⟨11, 1, 0, 120⟩,
    ["America/St_Johns", "Canada/Newfoundland"]),
  (.fixed (-180),
    ["America/Araguaina", "America/Argentina/Buenos_Aires", "America/Argentina/Catamarca",
     "America/Argentina/ComodRivadavia", "America/Argentina/Cordoba", "America/Argentina/Jujuy",
     "America/Argentina/La_Rioja", "America/Argentina/Mendoza", "America/Argentina/Rio_Gallegos",
     "America/Argentina/Salta", "America/Argentina/San_Juan", "America/Argentina/San_Luis",
     "America/Argentina/Tucuman", "America/Argentina/Ushuaia", "America/Asuncion", "America/Bahia",
     "America/Belem", "America/Buenos_Aires", "America/Catamarca", "America/Cayenne",
     "America/Cordoba", "America/Coyhaique", "America/Fortaleza", "America/Jujuy", "America/Maceio",
     "America/Mendoza", "America/Montevideo", "America/Paramaribo", "America/Punta_Arenas",
     "America/Recife", "America/Rosario", "America/Santarem", "America/Sao_Paulo",
     "Antarctica/Palmer", "Antarctica/Rothera", "Atlantic/Stanley", "Brazil/East", "Etc/GMT+3"]),
  (.seasonal (-180) (-120) ⟨3, 2, 0, 120⟩ ⟨11, 1, 0, 120⟩,
    ["America/Miquelon"]),
  (.fixed (-120),
    ["America/Noronha", "Atlantic/South_Georgia", "Brazil/DeNoronha", "Etc/GMT+2"]),
  (.seasonal (-120) (-60) ⟨3, 5, 0, -60⟩ ⟨10, 5, 0, 0⟩,
    ["America/Godthab", "America/Nuuk", "America/Scoresbysund"]),
  (.fixed (-60),
    ["Atlantic/Cape_Verde", "Etc/GMT+1"]),
  (.seasonal (-60) 0 ⟨3, 5, 0, 0⟩ ⟨10, 5, 0, 60⟩,
    ["Atlantic/Azores"]),
  (.fixed 0,
    ["Africa/Abidjan", "Africa/Accra", "Africa/Bamako", "Africa/Banjul", "Africa/Bissau",
     "Africa/Conakry", "Africa/Dakar", "Africa/Freetown", "Africa/Lome", "Africa/Monrovia",
     "Africa/Nouakchott", "Africa/Ouagadougou", "Africa/Sao_Tome", "Africa/Timbuktu",
     "America/Danmarkshavn", "Atlantic/Reykjavik", "Atlantic/St_Helena", "Etc/GMT", "Etc/GMT+0",
     "Etc/GMT-0", "Etc/GMT0", "Etc/Greenwich", "Etc/UCT", "Etc/UTC", "Etc/Universal", "Etc/Zulu",
     "GMT", "GMT+0", "GMT-0", "GMT0", "Greenwich", "Iceland", "UCT", "UTC", "Universal", "Zulu"]),
  (.seasonal 0 60 ⟨3, 5, 0, 60⟩ ⟨10, 5, 0, 120⟩,
    ["Atlantic/Canary", "Atlantic/Faeroe", "Atlantic/Faroe", "Atlantic/Madeira", "Eire",
     "Europe/Belfast", "Europe/Dublin", "Europe/Guernsey", "Europe/Isle_of_Man", "Europe/Jersey",
     "Europe/Lisbon", "Europe/London", "GB", "GB-Eire", "Portugal", "WET"]),
  (.seasonal 0 120 ⟨3, 5, 0, 60⟩ ⟨10, 5, 0, 180⟩,
    ["Antarctica/Troll"]),
  (.fixed 60,
    ["Africa/Algiers", "Africa/Bangui", "Africa/Brazzaville", "Africa/Casablanca", "Africa/Douala",
     "Africa/El_Aaiun", "Africa/Kinshasa", "Africa/Lagos", "Africa/Libreville", "Africa/Luanda",
     "Africa/Malabo", "Africa/Ndjamena", "Africa/Niamey", "Africa/Porto-Novo", "Africa/Tunis",
     "Etc/GMT-1"]),
  (.seasonal 60 120 ⟨3, 5, 0, 120⟩ ⟨10, 5, 0, 180⟩,
    ["Africa/Ceuta", "Arctic/Longyearbyen", "Atlantic/Jan_Mayen", "CET", "Europe/Amsterdam",
     "Europe/Andorra", "Europe/Belgrade", "Europe/Berlin", "Europe/Bratislava", "Europe/Brussels",
     "Europe/Budapest", "Europe/Busingen", "Europe/Copenhagen", "Europe/Gibraltar",
     "Europe/Ljubljana", "Europe/Luxembourg", "Europe/Madrid", "Europe/Malta", "Europe/Monaco",
     "Europe/Oslo", "Europe/Paris", "Europe/Podgorica", "Europe/Prague", "Europe/Rome",
     "Europe/San_Marino", "Europe/Sarajevo", "Europe/Skopje", "Europe/Stockholm", "Europe/Tirane",
     "Europe/Vaduz", "Europe/Vatican", "Europe/Vienna", "Europe/Warsaw", "Europe/Zagreb",
     "Europe/Zurich", "MET", "Poland"]),
  (.fixed 120,
    ["Africa/Blantyre", "Africa/Bujumbura", "Africa/Gaborone", "Africa/Harare",
     "Africa/Johannesburg", "Africa/Juba", "Africa/Khartoum", "Africa/Kigali", "Africa/Lubumbashi",
     "Africa/Lusaka", "Africa/Maputo", "Africa/Maseru", "Africa/Mbabane", "Africa/Tripoli",
     "Africa/Windhoek", "Etc/GMT-2", "Europe/Kaliningrad", "Libya"]),
  (.seasonal 120 180 ⟨3, 4, 4, 1560⟩ ⟨10, 5, 0, 120⟩,
    ["Asia/Jerusalem", "Asia/Tel_Aviv", "Israel"]),
  (.seasonal 120 180 ⟨3, 4, 4, 3000⟩ ⟨10, 4, 4, 3000⟩,
    ["Asia/Gaza", "Asia/Hebron"]),
  (.seasonal 120 180 ⟨3, 5, 0, 0⟩ ⟨10, 5, 0, 0⟩,
    ["Asia/Beirut"]),
  (.seasonal 120 180 ⟨3, 5, 0, 180⟩ ⟨10, 5, 0, 240⟩,
    ["Asia/Famagusta", "Asia/Nicosia", "EET", "Europe/Athens", "Europe/Bucharest",
     "Europe/Chisinau", "Europe/Helsinki", "Europe/Kiev", "Europe/Kyiv", "Europe/Mariehamn",
     "Europe/Nicosia", "Europe/Riga", "Europe/Sofia", "Europe/Tallinn", "Europe/Tiraspol",
     "Europe/Uzhgorod", "Europe/Vilnius", "Europe/Zaporozhye"]),
  (.seasonal 120 180 ⟨4, 5, 5, 0⟩ ⟨10, 5, 4, 1440⟩,
    ["Africa/Cairo", "Egypt"]),
  (.fixed 180,
    ["Africa/Addis_Ababa", "Africa/Asmara", "Africa/Asmera", "Africa/Dar_es_Salaam",
     "Africa/Djibouti", "Africa/Kampala", "Africa/Mogadishu", "Africa/Nairobi", "Antarctica/Syowa",
     "Asia/Aden", "Asia/Amman", "Asia/Baghdad", "Asia/Bahrain", "Asia/Damascus", "Asia/Istanbul",
     "Asia/Kuwait", "Asia/Qatar", "Asia/Riyadh", "Etc/GMT-3", "Europe/Istanbul", "Europe/Kirov",
     "Europe/Minsk", "Europe/Moscow", "Europe/Simferopol", "Europe/Volgograd",
     "Indian/Antananarivo", "Indian/Comoro", "Indian/Mayotte", "Turkey", "W-SU"]),
  (.fixed 210,
    ["Asia/Tehran", "Iran"]),
  (.fixed 240,
    ["Asia/Baku", "Asia/Dubai", "Asia/Muscat", "Asia/Tbilisi", "Asia/Yerevan", "Etc/GMT-4",
     "Europe/Astrakhan", "Europe/Samara", "Europe/Saratov", "Europe/Ulyanovsk", "Indian/Mahe",
     "Indian/Mauritius", "Indian/Reunion"]),
  (.fixed 270,
    ["Asia/Kabul"]),
  (.fixed 300,
    ["Antarctica/Mawson", "Antarctica/Vostok", "Asia/Almaty", "Asia/Aqtau", "Asia/Aqtobe",
     "Asia/Ashgabat", "Asia/Ashkhabad", "Asia/Atyrau", "Asia/Dushanbe", "Asia/Karachi", "Asia/Oral",
     "Asia/Qostanay", "Asia/Qyzylorda", "Asia/Samarkand", "Asia/Tashkent", "Asia/Yekaterinburg",
     "Etc/GMT-5", "Indian/Kerguelen", "Indian/Maldives"]),
  (.fixed 330,
    ["Asia/Calcutta", "Asia/Colombo", "Asia/Kolkata"]),
  (.fixed 345,
    ["Asia/Kathmandu", "Asia/Katmandu"]),
  (.fixed 360,
    ["Asia/Bishkek", "Asia/Dacca", "Asia/Dhaka", "Asia/Kashgar", "Asia/Omsk", "Asia/Thimbu",
     "Asia/Thimphu", "Asia/Urumqi", "Etc/GMT-6", "Indian/Chagos"]),
  (.fixed 390,
    ["Asia/Rangoon", "Asia/Yangon", "Indian/Cocos"]),
  (.fixed 420,
    ["Antarctica/Davis", "Asia/Bangkok", "Asia/Barnaul", "Asia/Ho_Chi_Minh", "Asia/Hovd",
     "Asia/Jakarta", "Asia/Krasnoyarsk", "Asia/Novokuznetsk", "Asia/Novosibirsk", "Asia/Phnom_Penh",
     "Asia/Pontianak", "Asia/Saigon", "Asia/Tomsk", "Asia/Vientiane", "Etc/GMT-7",
     "Indian/Christmas"]),
  (.fixed 480,
    ["Antarctica/Casey", "Asia/Brunei", "Asia/Choibalsan", "Asia/Chongqing", "Asia/Chungking",
     "Asia/Harbin", "Asia/Hong_Kong", "Asia/Irkutsk", "Asia/Kuala_Lumpur", "Asia/Kuching",
     "Asia/Macao", "Asia/Macau", "Asia/Makassar", "Asia/Manila", "Asia/Shanghai", "Asia/Singapore",
     "Asia/Taipei", "Asia/Ujung_Pandang", "Asia/Ulaanbaatar", "Asia/Ulan_Bator", "Australia/Perth",
     "Australia/West", "Etc/GMT-8", "Hongkong", "PRC", "ROC", "Singapore"]),
  (.fixed 525,
    ["Australia/Eucla"]),
  (.fixed 540,
    ["Asia/Chita", "Asia/Dili", "Asia/Jayapura", "Asia/Khandyga", "Asia/Pyongyang", "Asia/Seoul",
     "Asia/Tokyo", "Asia/Yakutsk", "Etc/GMT-9", "Japan", "Pacific/Palau", "ROK"]),
  (.fixed 570,
    ["Australia/Darwin", "Australia/North"]),
  (.seasonal 570 630 ⟨10, 1, 0, 120⟩ ⟨4, 1, 0, 180⟩,
    ["Australia/Adelaide", "Australia/Broken_Hill", "Australia/South", "Australia/Yancowinna"]),
  (.fixed 600,
    ["Antarctica/DumontDUrville", "Asia/Ust-Nera", "Asia/Vladivostok", "Australia/Brisbane",
     "Australia/Lindeman", "Australia/Queensland", "Etc/GMT-10", "Pacific/Chuuk", "Pacific/Guam",
     "Pacific/Port_Moresby", "Pacific/Saipan", "Pacific/Truk", "Pacific/Yap"]),
  (.seasonal 600 660 ⟨10, 1, 0, 120⟩ ⟨4, 1, 0, 180⟩,
    ["Antarctica/Macquarie", "Australia/ACT", "Australia/Canberra", "Australia/Currie",
     "Australia/Hobart", "Australia/Melbourne", "Australia/NSW", "Australia/Sydney",
     "Australia/Tasmania", "Australia/Victoria"]),
  (.seasonal 630 660 ⟨10, 1, 0, 120⟩ ⟨4, 1, 0, 120⟩,
    ["Australia/LHI", "Australia/Lord_Howe"]),
  (.fixed 660,
    ["Asia/Magadan", "Asia/Sakhalin", "Asia/Srednekolymsk", "Etc/GMT-11", "Pacific/Bougainville",
     "Pacific/Efate", "Pacific/Guadalcanal", "Pacific/Kosrae", "Pacific/Noumea", "Pacific/Pohnpei",
     "Pacific/Ponape"]),
  (.seasonal 660 720 ⟨10, 1, 0, 120⟩ ⟨4, 1, 0, 180⟩,
    ["Pacific/Norfolk"]),
  (.fixed 720,
    ["Asia/Anadyr", "Asia/Kamchatka", "Etc/GMT-12", "Kwajalein", "Pacific/Fiji", "Pacific/Funafuti",
     "Pacific/Kwajalein", "Pacific/Majuro", "Pacific/Nauru", "Pacific/Tarawa", "Pacific/Wake",
     "Pacific/Wallis"]),
  (.seasonal 720 780 ⟨9, 5, 0, 120⟩ ⟨4, 1, 0, 180⟩,
    ["Antarctica/McMurdo", "Antarctica/South_Pole", "NZ", "Pacific/Auckland"]),
  (.seasonal 765 825 ⟨9, 5, 0, 165⟩ ⟨4, 1, 0, 225⟩,
    ["NZ-CHAT", "Pacific/Chatham"]),
  (.fixed 780,
    ["Etc/GMT-13", "Pacific/Apia", "Pacific/Enderbury", "Pacific/Fakaofo", "Pacific/Kanton",
     "Pacific/Tongatapu"]),
  (.fixed 840,
    ["Etc/GMT-14", "Pacific/Kiritimati"])]

/-- The rule of a region; names are told apart by case. -/
def rule? (name : String) : Option ZoneRule :=
  table.findSome? fun (rule, names) => if names.contains name then some rule else none

end Runbook.ZoneTable
