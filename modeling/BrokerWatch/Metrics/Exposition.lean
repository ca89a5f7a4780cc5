import BrokerWatch.Decimal.Shortest
import BrokerWatch.Metrics.Registry

/-!
# Exposition

Families as a text: a line of help, a line with the kind and a line with the number for each of them.
A family without a name has no text, and then there is none of the others either.
-/

namespace BrokerWatch.Metrics

def Family.text (f : Family) : String :=
  s!"# HELP {f.name} {f.help}\n# TYPE {f.name} gauge\n{f.name} {Decimal.text f.value}\n"

/-- The text of families, each of which needs a name. -/
def exposition (families : List Family) : Except Failure String :=
  if families.any (·.name.isEmpty) then .error (.metrics "Error: MetricFamily has no name")
  else .ok (String.join (families.map (·.text)))

def mediaType : String := "text/plain; version=0.0.4"

end BrokerWatch.Metrics
