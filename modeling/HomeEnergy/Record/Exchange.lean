import HomeEnergy.Json.Scalar
import HomeEnergy.Json.Record
import HomeEnergy.Record.Device
import HomeEnergy.Record.Hourly
import HomeEnergy.Record.Insight
import HomeEnergy.Record.Profile
import HomeEnergy.Rollup.Month
import HomeEnergy.Rollup.Week

/-!
# `HomeEnergy.Record.Exchange`: records as JSON

The JSON form of each record, read and written. A number that may be unknown may be null or
absent; every other field must be there with its type.
-/

set_option autoImplicit false

namespace HomeEnergy

open Json

/-- The week that a JSON value stands for. -/
def Week.ofJson? (j : Json) : Option Week := do
  match ← j.fields? [("iso_year", .required), ("week_number", .required), ("start", .required),
      ("end", .required)] with
  | [some year, some number, some start, some finish] =>
    return ⟨← year.int32?, ← number.nat32?, ← start.date?, ← finish.date?⟩
  | _ => none

/-- The JSON form of a week. -/
def Week.json (w : Week) : Json :=
  .object [("iso_year", ofInt w.isoYear), ("week_number", ofInt w.number),
    ("start", ofDate w.start), ("end", ofDate w.finish)]

/-- The month that a JSON value stands for. -/
def Month.ofJson? (j : Json) : Option Month := do
  match ← j.fields? [("year", .required), ("month", .required)] with
  | [some year, some number] => return ⟨← year.int32?, ← number.nat32?⟩
  | _ => none

/-- The JSON form of a month. -/
def Month.json (m : Month) : Json :=
  .object [("year", ofInt m.year), ("month", ofInt m.number)]

/-- The sums that a JSON value stands for. -/
def Totals.ofJson? (j : Json) : Option Totals := do
  match ← j.fields? [("consumption", .required), ("cost", .required)] with
  | [some consumption, some cost] => return ⟨← consumption.double?, ← cost.double?⟩
  | _ => none

/-- The JSON form of sums. -/
def Totals.json (t : Totals) : Json :=
  .object [("consumption", ofDouble t.consumption), ("cost", ofDouble t.cost)]

/-- The device that a JSON value stands for. -/
def Device.ofJson? (j : Json) : Option Device := do
  match ← j.fields? [("id", .required), ("name", .required), ("image", .required),
      ("category", .required)] with
  | [some id, some name, some image, some category] =>
    return ⟨← id.string?, ← name.string?, ← image.string?, ← category.string?⟩
  | _ => none

/-- The JSON form of a device. -/
def Device.json (d : Device) : Json :=
  .object [("id", .string d.id), ("name", .string d.name), ("image", .string d.image),
    ("category", .string d.category)]

/-- The reading that a JSON value stands for. -/
def Reading.ofJson? (j : Json) : Option Reading := do
  match ← j.fields? [("device_id", .required), ("is_on", .required), ("usage_time", .required),
      ("consumption", .required), ("last_updated", .required), ("cost", .required)] with
  | [some device, some isOn, some minutes, some consumption, some updated, some cost] =>
    return ⟨← device.string?, ← isOn.bool?, ← minutes.int64?, ← consumption.double?,
      ← updated.instant?, ← cost.double?⟩
  | _ => none

/-- The JSON form of a reading. -/
def Reading.json (r : Reading) : Json :=
  .object [("device_id", .string r.device), ("is_on", .bool r.isOn),
    ("usage_time", ofInt r.minutes), ("consumption", ofDouble r.consumption),
    ("last_updated", ofInstant r.updated), ("cost", ofDouble r.cost)]

/-- The appliance that a JSON value stands for. -/
def Appliance.ofJson? (j : Json) : Option Appliance := do
  match ← j.fields? [("device", .required), ("energy", .optional)] with
  | [some device, reading] => return ⟨← Device.ofJson? device, ← nullable? Reading.ofJson? reading⟩
  | _ => none

/-- The JSON form of an appliance. -/
def Appliance.json (a : Appliance) : Json :=
  .object [("device", a.device.json), ("energy", (a.reading.map Reading.json).getD .null)]

/-- The day's usage that a JSON value stands for. -/
def DailyUsage.ofJson? (j : Json) : Option DailyUsage := do
  match ← j.fields? [("id", .required), ("date", .required), ("total_consumption", .required),
      ("total_cost", .required)] with
  | [some id, some date, some consumption, some cost] =>
    return ⟨← id.string?, ← date.date?, ← consumption.double?, ← cost.double?⟩
  | _ => none

/-- The JSON form of a day's usage. -/
def DailyUsage.json (u : DailyUsage) : Json :=
  .object [("id", .string u.id), ("date", ofDate u.date),
    ("total_consumption", ofDouble u.consumption), ("total_cost", ofDouble u.cost)]

/-- The day's forecast that a JSON value stands for. -/
def DailyForecast.ofJson? (j : Json) : Option DailyForecast := do
  match ← j.fields? [("id", .required), ("date", .required), ("prediction", .required),
      ("predicted_cost", .required)] with
  | [some id, some date, some consumption, some cost] =>
    return ⟨← id.string?, ← date.date?, ← consumption.double?, ← cost.double?⟩
  | _ => none

/-- The JSON form of a day's forecast. -/
def DailyForecast.json (f : DailyForecast) : Json :=
  .object [("id", .string f.id), ("date", ofDate f.date),
    ("prediction", ofDouble f.consumption), ("predicted_cost", ofDouble f.cost)]

/-- The hour's usage that a JSON value stands for. -/
def HourlyUsage.ofJson? (j : Json) : Option HourlyUsage := do
  match ← j.fields? [("hour", .required), ("consumption", .required), ("cost", .required)] with
  | [some hour, some consumption, some cost] =>
    return ⟨← hour.string?, ← consumption.double?, ← cost.double?⟩
  | _ => none

/-- The JSON form of an hour's usage. -/
def HourlyUsage.json (u : HourlyUsage) : Json :=
  .object [("hour", .string u.hour), ("consumption", ofDouble u.consumption),
    ("cost", ofDouble u.cost)]

/-- The hour's forecast that a JSON value stands for. -/
def HourlyForecast.ofJson? (j : Json) : Option HourlyForecast := do
  match ← j.fields? [("hour", .required), ("prediction", .required),
      ("predicted_cost", .required)] with
  | [some hour, some consumption, some cost] =>
    return ⟨← hour.string?, ← consumption.double?, ← cost.double?⟩
  | _ => none

/-- The JSON form of an hour's forecast. -/
def HourlyForecast.json (f : HourlyForecast) : Json :=
  .object [("hour", .string f.hour), ("prediction", ofDouble f.consumption),
    ("predicted_cost", ofDouble f.cost)]

/-- The insight that a JSON value stands for. -/
def Insight.ofJson? (j : Json) : Option Insight := do
  match ← j.fields? [("id", .required), ("source", .required), ("suggestions", .required),
      ("timestamp", .required)] with
  | [some id, some source, some suggestions, some timestamp] =>
    return ⟨← id.string?, ← source.string?, ← (← suggestions.array?).mapM string?,
      ← timestamp.instant?⟩
  | _ => none

/-- The JSON form of an insight. -/
def Insight.json (i : Insight) : Json :=
  .object [("id", .string i.id), ("source", .string i.source),
    ("suggestions", .array (i.suggestions.map .string)), ("timestamp", ofInstant i.timestamp)]

/-- The profile that a JSON value stands for. -/
def Profile.ofJson? (j : Json) : Option Profile := do
  match ← j.fields? [("uid", .required), ("name", .required), ("email", .required),
      ("latitude", .optional), ("longitude", .optional), ("rate", .optional),
      ("total_bill_amount", .optional)] with
  | [some uid, some name, some email, latitude, longitude, rate, totalBill] =>
    return ⟨← uid.string?, ← name.string?, ← email.string?, ← nullable? double? latitude,
      ← nullable? double? longitude, ← nullable? double? rate, ← nullable? double? totalBill⟩
  | _ => none

/-- The JSON form of a profile. -/
def Profile.json (p : Profile) : Json :=
  .object [("uid", .string p.uid), ("name", .string p.name), ("email", .string p.email),
    ("latitude", ofDouble? p.latitude), ("longitude", ofDouble? p.longitude),
    ("rate", ofDouble? p.rate), ("total_bill_amount", ofDouble? p.totalBill)]

end HomeEnergy
