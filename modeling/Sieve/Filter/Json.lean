/-
This file writes filters as JSON, each constructor as an object with a single
member. The value of a parameter is written without its type.
-/

import Sieve.Datum.Cast
import Sieve.Filter.Basic
import Sieve.Json.Value

namespace Sieve

/-- The JSON form of a value, without its type. -/
def Datum.toJson : Datum → Json
  | null => .null
  | bool value => .bool value
  | int value => .integer value.toInt
  | float value => if value.isFinite then .float value else .null
  | uuid value => .text value.toText
  | timestamp value => .text (String.ofList value.write)
  | timestampTz value => .text (String.ofList value.write)
  | text value => .text value

/-- The JSON form of a parameter. -/
def Parameter.toJson (parameter : Parameter) : Json :=
  .record [("value", parameter.value.toJson), ("sql_type", .text parameter.type.name)]

/-- The JSON form of the way a value is read. -/
def Source.toJson : Source → Json
  | jsonText segments =>
    .record [("json_text", .record [("segments", .list (segments.map Json.text))])]
  | column name => .record [("column", .text name)]
  | cast inner type =>
    .record [("cast", .record [("inner", inner.toJson), ("to", .text type.name)])]
  | atUtc inner => .record [("at_utc", inner.toJson)]

/-- The JSON form of a field and the way it is read. -/
def Access.toJson (access : Access) : Json :=
  .record
    [("path", .text access.path), ("kind", .text access.kind.name),
     ("expr", access.source.toJson), ("sql_type", .text access.type.name)]

namespace Filter

mutual

/-- The JSON form of a filter. -/
def toJson : Filter → Json
  | all parts => .record [("and", .list (toJsonAll parts))]
  | any parts => .record [("or", .list (toJsonAll parts))]
  | not part => .record [("not", toJson part)]
  | compare field comparison parameter =>
    .record
      [("compare", .record
        [("field", field.toJson), ("op", .text comparison.sign), ("param", parameter.toJson)])]
  | compareFields left comparison right =>
    .record
      [("compare_fields", .record
        [("left", left.toJson), ("op", .text comparison.sign), ("right", right.toJson)])]
  | member field parameters negated =>
    .record
      [("in", .record
        [("field", field.toJson), ("params", .list (parameters.map Parameter.toJson)),
         ("negated", .bool negated)])]
  | between field low high =>
    .record
      [("between", .record
        [("field", field.toJson), ("low", low.toJson), ("high", high.toJson)])]
  | isNull field negated =>
    .record [("is_null", .record [("field", field.toJson), ("negated", .bool negated)])]
  | like field pattern ignoresCase =>
    .record
      [("like", .record
        [("field", field.toJson), ("pattern", pattern.toJson),
         ("case_insensitive", .bool ignoresCase)])]

/-- The JSON forms of filters. -/
def toJsonAll : List Filter → List Json
  | [] => []
  | part :: rest => toJson part :: toJsonAll rest

end

end Filter

end Sieve
