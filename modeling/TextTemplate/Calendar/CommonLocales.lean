import TextTemplate.Calendar.Locale

/-!
# Some locales

Words and formats of ten locales, for hosts that need no others.
-/

namespace TextTemplate

namespace Locale

def englishUS : Locale where
  name := "en_US"
  decimalPoint := "."
  dateFormat := "%m/%d/%Y"
  timeFormat := "%I:%M:%S %p"
  twelveHourFormat := "%I:%M:%S %p"
  dateTimeFormat := "%a %d %b %Y %I:%M:%S %p %Z"
  amPm := ("AM", "PM")
  shortDays :=
    ["Sun", "Mon", "Tue", "Wed", "Thu", "Fri", "Sat"]
  longDays :=
    ["Sunday", "Monday", "Tuesday", "Wednesday", "Thursday", "Friday", "Saturday"]
  shortMonths :=
    ["Jan", "Feb", "Mar", "Apr", "May", "Jun", "Jul", "Aug", "Sep", "Oct", "Nov", "Dec"]
  longMonths :=
    ["January", "February", "March", "April", "May", "June", "July", "August", "September",
     "October", "November", "December"]

def englishGB : Locale where
  name := "en_GB"
  decimalPoint := "."
  dateFormat := "%d/%m/%y"
  timeFormat := "%T"
  twelveHourFormat := "%l:%M:%S %P %Z"
  dateTimeFormat := "%a %d %b %Y %T %Z"
  amPm := ("am", "pm")
  shortDays :=
    ["Sun", "Mon", "Tue", "Wed", "Thu", "Fri", "Sat"]
  longDays :=
    ["Sunday", "Monday", "Tuesday", "Wednesday", "Thursday", "Friday", "Saturday"]
  shortMonths :=
    ["Jan", "Feb", "Mar", "Apr", "May", "Jun", "Jul", "Aug", "Sep", "Oct", "Nov", "Dec"]
  longMonths :=
    ["January", "February", "March", "April", "May", "June", "July", "August", "September",
     "October", "November", "December"]

def german : Locale where
  name := "de_DE"
  decimalPoint := ","
  dateFormat := "%d.%m.%Y"
  timeFormat := "%T"
  twelveHourFormat := ""
  dateTimeFormat := "%a %d %b %Y %T %Z"
  amPm := ("", "")
  shortDays :=
    ["So", "Mo", "Di", "Mi", "Do", "Fr", "Sa"]
  longDays :=
    ["Sonntag", "Montag", "Dienstag", "Mittwoch", "Donnerstag", "Freitag", "Samstag"]
  shortMonths :=
    ["Jan", "Feb", "Mär", "Apr", "Mai", "Jun", "Jul", "Aug", "Sep", "Okt", "Nov", "Dez"]
  longMonths :=
    ["Januar", "Februar", "März", "April", "Mai", "Juni", "Juli", "August", "September",
     "Oktober", "November", "Dezember"]

def french : Locale where
  name := "fr_FR"
  decimalPoint := ","
  dateFormat := "%d/%m/%Y"
  timeFormat := "%T"
  twelveHourFormat := ""
  dateTimeFormat := "%a %d %b %Y %T %Z"
  amPm := ("", "")
  shortDays :=
    ["dim.", "lun.", "mar.", "mer.", "jeu.", "ven.", "sam."]
  longDays :=
    ["dimanche", "lundi", "mardi", "mercredi", "jeudi", "vendredi", "samedi"]
  shortMonths :=
    ["janv.", "févr.", "mars", "avril", "mai", "juin", "juil.", "août", "sept.", "oct.", "nov.",
     "déc."]
  longMonths :=
    ["janvier", "février", "mars", "avril", "mai", "juin", "juillet", "août", "septembre",
     "octobre", "novembre", "décembre"]

def japanese : Locale where
  name := "ja_JP"
  decimalPoint := "."
  dateFormat := "%Y年%m月%d日"
  timeFormat := "%H時%M分%S秒"
  twelveHourFormat := "%p%I時%M分%S秒"
  dateTimeFormat := "%Y年%m月%d日 %H時%M分%S秒"
  amPm := ("午前", "午後")
  shortDays :=
    ["日", "月", "火", "水", "木", "金", "土"]
  longDays :=
    ["日曜日", "月曜日", "火曜日", "水曜日", "木曜日", "金曜日", "土曜日"]
  shortMonths :=
    [" 1月", " 2月", " 3月", " 4月", " 5月", " 6月", " 7月", " 8月", " 9月", "10月", "11月", "12月"]
  longMonths :=
    ["1月", "2月", "3月", "4月", "5月", "6月", "7月", "8月", "9月", "10月", "11月", "12月"]

def russian : Locale where
  name := "ru_RU"
  decimalPoint := ","
  dateFormat := "%d.%m.%Y"
  timeFormat := "%T"
  twelveHourFormat := ""
  dateTimeFormat := "%a %d %b %Y %T"
  amPm := ("", "")
  shortDays :=
    ["Вс", "Пн", "Вт", "Ср", "Чт", "Пт", "Сб"]
  longDays :=
    ["Воскресенье", "Понедельник", "Вторник", "Среда", "Четверг", "Пятница", "Суббота"]
  shortMonths :=
    ["янв", "фев", "мар", "апр", "мая", "июн", "июл", "авг", "сен", "окт", "ноя", "дек"]
  longMonths :=
    ["января", "февраля", "марта", "апреля", "мая", "июня", "июля", "августа", "сентября",
     "октября", "ноября", "декабря"]

def portugueseBR : Locale where
  name := "pt_BR"
  decimalPoint := ","
  dateFormat := "%d/%m/%Y"
  timeFormat := "%T"
  twelveHourFormat := ""
  dateTimeFormat := "%a %d %b %Y %T %Z"
  amPm := ("", "")
  shortDays :=
    ["dom", "seg", "ter", "qua", "qui", "sex", "sáb"]
  longDays :=
    ["domingo", "segunda", "terça", "quarta", "quinta", "sexta", "sábado"]
  shortMonths :=
    ["jan", "fev", "mar", "abr", "mai", "jun", "jul", "ago", "set", "out", "nov", "dez"]
  longMonths :=
    ["janeiro", "fevereiro", "março", "abril", "maio", "junho", "julho", "agosto", "setembro",
     "outubro", "novembro", "dezembro"]

def persian : Locale where
  name := "fa_IR"
  decimalPoint := "."
  dateFormat := "%Oy/%Om/%Od"
  timeFormat := "%OH:%OM:%OS"
  twelveHourFormat := ""
  dateTimeFormat := "\u202b%A %Oe %B %Oy، %OH:%OM:%OS\u202c"
  amPm := ("", "")
  shortDays :=
    ["یکشنبه", "دوشنبه", "سه\u200cشنبه", "چهارشنبه", "پنجشنبه", "جمعه", "شنبه"]
  longDays :=
    ["یکشنبه", "دوشنبه", "سه\u200cشنبه", "چهارشنبه", "پنجشنبه", "جمعه", "شنبه"]
  shortMonths :=
    ["ژانویه", "فوریه", "مارس", "آوریل", "مه", "ژوئن", "ژوئیه", "اوت", "سپتامبر", "اكتبر",
     "نوامبر", "دسامبر"]
  longMonths :=
    ["ژانویه", "فوریه", "مارس", "آوریل", "مه", "ژوئن", "ژوئیه", "اوت", "سپتامبر", "اكتبر",
     "نوامبر", "دسامبر"]

def serbianLatin : Locale where
  name := "sr_RS@latin"
  decimalPoint := ","
  dateFormat := "%d.%m.%Y."
  timeFormat := "%T"
  twelveHourFormat := "%T"
  dateTimeFormat := "%A, %d. %B %Y. %T %Z"
  amPm := ("", "")
  shortDays :=
    ["ned", "pon", "uto", "sre", "čet", "pet", "sub"]
  longDays :=
    ["nedelja", "ponedeljak", "utorak", "sreda", "četvrtak", "petak", "subota"]
  shortMonths :=
    ["jan", "feb", "mar", "apr", "maj", "jun", "jul", "avg", "sep", "okt", "nov", "dec"]
  longMonths :=
    ["januar", "februar", "mart", "april", "maj", "jun", "jul", "avgust", "septembar", "oktobar",
     "novembar", "decembar"]

end Locale

/-- The table of these locales. -/
def LocaleTable.common : LocaleTable :=
  .ofLocales [.posix, .englishUS, .englishGB, .german, .french, .japanese, .russian, .portugueseBR,
    .persian, .serbianLatin]

end TextTemplate
