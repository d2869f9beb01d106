import EtcdRoster.Names
import EtcdRoster.Reconcile.Collaborator
import EtcdRoster.Text.Bytes

/-!
# Recording events

Events of one type and reason form a series: the first one is created, and each later one raises the
count of the first and keeps its note. A note holds at most 1024 bytes.
-/

namespace EtcdRoster.Cluster

def noteLimit : Nat := 1024

/-- The note of an event, cut to what a note can hold. -/
def noteOf (message : String) : String := String.ofList (Text.truncate noteLimit message.toList)

/-- An event as it is sent to the API server. -/
structure Report where
  isWarning : Bool
  reason : String
  note : String
  /-- How many events the series has; nothing for the first one. -/
  count : Option Nat := none
deriving DecidableEq, Inhabited

def Report.toJson (r : Report) : Json :=
  Json.object [
    ("action", .str "Reconcile"),
    ("count", (r.count.map fun n => Json.int n).getD .null),
    ("note", .str r.note),
    ("reason", .str r.reason),
    ("regarding", Json.object [
      ("apiVersion", .str Kind.etcd.apiVersion),
      ("kind", .str Kind.etcd.name),
      ("name", .str Names.cluster)]),
    ("reportingController", .str Names.reporter),
    ("type", .str (if r.isWarning then "Warning" else "Normal"))]

/-- The last report of every series. -/
structure Recorder where
  series : List Report := []

namespace Recorder

/-- The report that an event leads to. -/
def report (r : Recorder) (e : Event) : Report :=
  match r.series.find? fun s => s.isWarning == e.isWarning && s.reason == e.reason with
  | some last => { last with count := some (last.count.getD 1 + 1) }
  | none => ⟨e.isWarning, e.reason, noteOf e.message, none⟩

/-- Keeps a report that was accepted. -/
def keep (r : Recorder) (report : Report) : Recorder :=
  { series := report :: r.series.filter fun s =>
      !(s.isWarning == report.isWarning && s.reason == report.reason) }

end Recorder

end EtcdRoster.Cluster
