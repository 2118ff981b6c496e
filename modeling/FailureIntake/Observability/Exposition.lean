import FailureIntake.Decimal.Notation
import FailureIntake.Observability.Registry

/-! The text in which a registry is read from outside: a line with the kind of each name, and a line
for each number of each series. -/
namespace FailureIntake

namespace Exposition

/-- The text of a label's value. Line breaks and quotes are escaped. A backslash is held back: with
one more it becomes an escaped backslash, before a quote it vanishes, before any other character
and at the end it is escaped itself. A line break does not end the wait. -/
def labelText : (held : Bool) → List Char → List Char
  | held, [] => if held then ['\\', '\\'] else []
  | held, c :: r =>
    if c = '\n' then '\\' :: 'n' :: labelText held r
    else if c = '"' then '\\' :: '"' :: labelText false r
    else if c = '\\' then (if held then ['\\', '\\'] else []) ++ labelText (!held) r
    else (if held then ['\\', '\\'] else []) ++ c :: labelText false r

def label (l : String × String) : String :=
  l.1 ++ "=\"" ++ String.ofList (labelText false l.2.toList) ++ "\""

/-- A name with its labels. They stand between braces, and there are no braces without labels. -/
def heading (name : String) (labels : List (String × String)) : String :=
  name ++ if labels.isEmpty then "" else "\x7b" ++ ",".intercalate (labels.map label) ++ "\x7d"

def sample (name : String) (labels : List (String × String)) (value : String) : String :=
  heading name labels ++ " " ++ value

/-- A number without an exponent. -/
def number (x : Float) : String :=
  Decimal.Notation.plain.text x

def bucketLabel (bound : String) : String × String :=
  ("le", bound)

/-- A histogram's buckets in the order of their bounds, then its sum and its count. -/
def histogram (name : String) (labels : List (String × String)) (h : Histogram) : List String :=
  let bucket := fun bound n => sample (name ++ "_bucket") (labels ++ [bucketLabel bound]) (toString n)
  List.zipWith bucket (Histogram.bounds.map number ++ ["+Inf"]) (h.counts ++ [h.count]) ++
    [sample (name ++ "_sum") labels (number h.sum), sample (name ++ "_count") labels (toString h.count)]

def series (s : Series) : List String :=
  match s.value with
  | .counter total => [sample s.name s.labels (toString total)]
  | .gauge value => [sample s.name s.labels (number value)]
  | .histogram h => histogram s.name s.labels h

def kind (s : Series) : String :=
  "# TYPE " ++ s.name ++ " " ++ s.value.kind.label

/-- Of the series with the same heading only the last is written. -/
def written : List Series → List Series
  | [] => []
  | s :: rest =>
    if rest.any fun t => heading t.name t.labels = heading s.name s.labels then written rest
    else s :: written rest

end Exposition

/-- The lines of a registry in the order of their characters, each announcement once. -/
def Registry.lines (r : Registry) : List String :=
  ((r.series.map Exposition.kind).eraseDups ++
    (Exposition.written r.series).flatMap Exposition.series).mergeSort fun a b => a ≤ b

end FailureIntake
