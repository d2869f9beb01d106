import EtcdRoster.Data.Dict
import EtcdRoster.Duration

/-!
# What is measured

A sample reports one thing that happened; the registry adds samples up. Counters and histograms come
in series, one for each value of their label.
-/

namespace EtcdRoster

namespace Metrics

/-- One thing that happened. -/
inductive Sample
  | succeeded (took : Duration)
  | failed (took : Duration)
  | error (label : String)
  | write (action : String)
  | published (addresses : Nat)
  | requeue
  | queueDepth (keys : Nat)
deriving DecidableEq

/-- Observations sorted into buckets by upper bound. -/
structure Histogram where
  /-- For each bound the observations up to it. -/
  buckets : List Nat
  sum : Rat
  count : Nat
deriving DecidableEq

namespace Histogram

/-- The upper bounds of the buckets, in seconds, with their texts. -/
def bounds : List (Rat × String) :=
  [(Binary64.round (1 / 1000), "0.001"), (Binary64.round (1 / 100), "0.01"),
   (Binary64.round (1 / 10), "0.1"), (1 / 2, "0.5"), (1, "1"), (2, "2"), (5, "5"), (10, "10"),
   (30, "30"), (60, "60")]

def empty : Histogram := ⟨bounds.map fun _ => 0, 0, 0⟩

/-- Adds an observation to every bucket whose bound it does not exceed. -/
def observe (h : Histogram) (x : Rat) : Histogram :=
  { buckets := (h.buckets.zip bounds).map fun (n, bound) => if x ≤ bound.1 then n + 1 else n
    sum := Binary64.add h.sum x
    count := h.count + 1 }

end Histogram

/-- A counter for each value of a label. -/
abbrev Series := Dict Nat

def Series.increment (s : Series) (label : String) : Series := s.alter label fun n => n.getD 0 + 1

def Series.count (s : Series) (label : String) : Nat := (s.get? label).getD 0

/-- All that has been measured since the program started. -/
structure Registry where
  reconciliations : Series := .empty
  durations : Dict Histogram := .empty
  requeues : Nat := 0
  queueDepth : Nat := 0
  writes : Series := .empty
  published : Nat := 0
  errors : Series := .empty

namespace Registry

def successLabel : String := "success"

def errorLabel : String := "error"

/-- Counts a reconciliation and the time it took. -/
def reconciled (r : Registry) (status : String) (took : Duration) : Registry :=
  { r with
    reconciliations := r.reconciliations.increment status
    durations := r.durations.alter status fun h =>
      (h.getD Histogram.empty).observe took.toSeconds }

def record (r : Registry) : Sample → Registry
  | .succeeded took => r.reconciled successLabel took
  | .failed took => r.reconciled errorLabel took
  | .error label => { r with errors := r.errors.increment label }
  | .write action => { r with writes := r.writes.increment action }
  | .published addresses => { r with published := addresses }
  | .requeue => { r with requeues := r.requeues + 1 }
  | .queueDepth keys => { r with queueDepth := keys }

/-- How many durations of a status have been observed. -/
def timed (r : Registry) (status : String) : Nat := ((r.durations.get? status).map (·.count)).getD 0

end Registry

end Metrics

end EtcdRoster
