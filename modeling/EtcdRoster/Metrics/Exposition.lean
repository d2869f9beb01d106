import EtcdRoster.Metrics.Registry
import EtcdRoster.Number.Shortest

/-!
# The text of metrics

Metrics are published as lines of text, family by family in the order of their names, and within a
family series by series in the order of their labels. A family of series that has none is left out.
-/

namespace EtcdRoster.Metrics

/-- One line of a family: what follows its name, the labels, and the value. -/
structure Line where
  suffix : String := ""
  labels : List (String × String) := []
  value : String

structure Family where
  name : String
  help : String
  type : String
  lines : List Line

def namespaceText : String := "etcd_host_endpoints"

/-- In the value of a label the backslash, the quote and the line break are escaped. -/
def escapeLabel (value : String) : String :=
  String.ofList (value.toList.flatMap fun c =>
    if c = '\\' then ['\\', '\\']
    else if c = '"' then ['\\', '"']
    else if c = '\n' then ['\\', 'n']
    else [c])

def labelsText : List (String × String) → String
  | [] => ""
  | labels =>
    "\x7b" ++ String.intercalate ","
      (labels.map fun (name, value) => name ++ "=\"" ++ escapeLabel value ++ "\"") ++ "\x7d"

def Line.text (family : String) (line : Line) : String :=
  family ++ line.suffix ++ labelsText line.labels ++ " " ++ line.value ++ "\n"

def Family.text (f : Family) : String :=
  let name := namespaceText ++ "_" ++ f.name
  "# HELP " ++ name ++ " " ++ f.help ++ "\n# TYPE " ++ name ++ " " ++ f.type ++ "\n"
    ++ String.join (f.lines.map (Line.text name))

/-- A count as the double that holds it. -/
def countText (n : Nat) : String := Number.shortestText (Binary64.ofNat n)

def seriesLines (label : String) (s : Series) : List Line :=
  s.toList.map fun (value, n) => { labels := [(label, value)], value := countText n }

def histogramLines (label value : String) (h : Histogram) : List Line :=
  let own := (label, value)
  (h.buckets.zip Histogram.bounds).map (fun (n, _, bound) =>
    { suffix := "_bucket", labels := [own, ("le", bound)], value := countText n })
  ++ [{ suffix := "_bucket", labels := [own, ("le", "+Inf")], value := countText h.count },
      { suffix := "_sum", labels := [own], value := Number.shortestText h.sum },
      { suffix := "_count", labels := [own], value := countText h.count }]

namespace Registry

/-- All families in the order of their names. -/
def families (r : Registry) : List Family :=
  [{ name := "endpoints_writes_total"
     help := "Total number of writes to the host-etcd endpoints by action"
     type := "counter", lines := seriesLines "action" r.writes },
   { name := "errors_total", help := "Total number of reconcile errors by error kind"
     type := "counter", lines := seriesLines "error_type" r.errors },
   { name := "published_addresses"
     help := "Number of addresses published in host-etcd, bootstrap included"
     type := "gauge", lines := [{ value := countText r.published }] },
   { name := "queue_depth", help := "Number of work items waiting to be processed"
     type := "gauge", lines := [{ value := countText r.queueDepth }] },
   { name := "reconciliation_duration_seconds"
     help := "Duration of host-etcd reconciliations in seconds"
     type := "histogram"
     lines := r.durations.toList.flatMap fun (status, h) => histogramLines "status" status h },
   { name := "reconciliations_total"
     help := "Total number of host-etcd reconciliations by status"
     type := "counter", lines := seriesLines "status" r.reconciliations },
   { name := "requeues_total"
     help := "Total number of rate limited requeues after a failed reconcile"
     type := "counter", lines := [{ value := countText r.requeues }] }]

/-- The text of all families that have a line. -/
def text (r : Registry) : String :=
  String.join ((r.families.filter fun f => !f.lines.isEmpty).map Family.text)

end Registry

end EtcdRoster.Metrics
