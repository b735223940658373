/-
# ControlLink.Metrics.Reading — what a recorder shows

A recorder keeps one reading for each metric and list of labels, in increasing order of name and
labels. Counters add up, a gauge shows its last level, a histogram its number of samples.
-/
import ControlLink.Metrics.Metric

namespace ControlLink.Metrics

set_option autoImplicit false

inductive Value where
  | total (count : Nat)
  | level (value : Decimal.Binary64)
  | samples (count : Nat)
deriving DecidableEq

def Amount.first : Amount → Value
  | increment count => .total count
  | level value => .level value
  | duration => .samples 1

/-- The value after one more recording. -/
def Value.add : Value → Amount → Value
  | total sum, .increment count => total (sum + count)
  | samples count, .duration => samples (count + 1)
  | _, amount => amount.first

structure Reading where
  metric : Metric
  labels : Labels
  value : Value
deriving DecidableEq

/-- The texts by which readings are ordered. -/
def sortKey (metric : Metric) (labels : Labels) : List String :=
  metric.name :: labels.flatMap fun (key, value) => [key, value]

/-- Adds a sample to readings in order. -/
def record (readings : List Reading) (sample : Sample) : List Reading :=
  match readings with
  | [] => [⟨sample.metric, sample.labels, sample.amount.first⟩]
  | reading :: rest =>
    let key := sortKey sample.metric sample.labels
    let here := sortKey reading.metric reading.labels
    if key < here then ⟨sample.metric, sample.labels, sample.amount.first⟩ :: reading :: rest
    else if key = here then { reading with value := reading.value.add sample.amount } :: rest
    else reading :: record rest sample

/-- The readings after a sequence of samples. -/
def readings (samples : List Sample) : List Reading := samples.foldl record []

end ControlLink.Metrics
