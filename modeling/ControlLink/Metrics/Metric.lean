/-
# ControlLink.Metrics.Metric — the declared metrics

Every metric is declared once with its kind, its unit and the keys of its labels. A `Sample` is one
recording; `Sample.Declared` says that it keeps to the declaration of its metric.
-/
import ControlLink.Decimal.Binary64

namespace ControlLink.Metrics

set_option autoImplicit false

/-- Whether a metric counts, tracks a level or records a distribution. -/
inductive MetricKind where
  | counter
  | gauge
  | histogram
deriving DecidableEq

inductive MetricUnit where
  | count
  | bytes
  | milliseconds
  | percent
deriving DecidableEq

def MetricKind.name : MetricKind → String
  | counter => "counter"
  | gauge => "gauge"
  | histogram => "histogram"

def MetricUnit.name : MetricUnit → String
  | count => "count"
  | bytes => "bytes"
  | milliseconds => "milliseconds"
  | percent => "percent"

structure Metric where
  name : String
  kind : MetricKind
  unit : MetricUnit
  /-- The keys of the labels, in order. -/
  labels : List String
  description : String
deriving DecidableEq

namespace Metric

def framesSent : Metric where
  name := "esparrier.transport.frames_sent"
  kind := .counter
  unit := .count
  labels := ["device"]
  description := "Frames written to the transport"

def framesReceived : Metric where
  name := "esparrier.transport.frames_received"
  kind := .counter
  unit := .count
  labels := ["device"]
  description := "Frames read from the transport"

def bytesSent : Metric where
  name := "esparrier.transport.bytes_sent"
  kind := .counter
  unit := .bytes
  labels := ["device"]
  description := "Bytes written to the transport"

def bytesReceived : Metric where
  name := "esparrier.transport.bytes_received"
  kind := .counter
  unit := .bytes
  labels := ["device"]
  description := "Bytes read from the transport"

def operations : Metric where
  name := "esparrier.session.operations"
  kind := .counter
  unit := .count
  labels := ["device", "op"]
  description := "Protocol operations started"

def operationErrors : Metric where
  name := "esparrier.session.operation_errors"
  kind := .counter
  unit := .count
  labels := ["device", "op", "kind"]
  description := "Protocol operations that failed, by error kind"

def operationDuration : Metric where
  name := "esparrier.session.operation_duration_ms"
  kind := .histogram
  unit := .milliseconds
  labels := ["device", "op"]
  description := "Wall time of protocol operations"

def blocksTransferred : Metric where
  name := "esparrier.transfer.blocks"
  kind := .counter
  unit := .count
  labels := ["device", "direction"]
  description := "Blocks moved by multi-block transfers"

def updateProgress : Metric where
  name := "esparrier.ota.progress_percent"
  kind := .gauge
  unit := .percent
  labels := ["device"]
  description := "Firmware update progress reported by the device"

def all : List Metric :=
  [framesSent, framesReceived, bytesSent, bytesReceived, operations, operationErrors,
    operationDuration, blocksTransferred, updateProgress]

end Metric

/-! ## Labels -/

abbrev Labels := List (String × String)

/-- The device and the operation that a recording belongs to. -/
structure OperationLabels where
  device : String
  operation : String
deriving DecidableEq

namespace OperationLabels

def toLabels (labels : OperationLabels) : Labels :=
  [("device", labels.device), ("op", labels.operation)]

/-- The labels with more behind them. -/
def withMore (labels : OperationLabels) (more : Labels) : Labels := labels.toLabels ++ more

end OperationLabels

/-! ## Samples -/

/-- What a recording adds. -/
inductive Amount where
  | increment (count : Nat)
  | level (value : Decimal.Binary64)
  /-- A duration, of which only the presence is kept. -/
  | duration
deriving DecidableEq

def Amount.kind : Amount → MetricKind
  | increment _ => .counter
  | level _ => .gauge
  | duration => .histogram

structure Sample where
  metric : Metric
  labels : Labels
  amount : Amount
deriving DecidableEq

/-- A sample keeps to a declaration: the kind and the keys are those of a declared metric. -/
structure Sample.Declared (sample : Sample) : Prop where
  metric_mem : sample.metric ∈ Metric.all
  kind_eq : sample.amount.kind = sample.metric.kind
  keys_eq : sample.labels.map Prod.fst = sample.metric.labels

end ControlLink.Metrics
