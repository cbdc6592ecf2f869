/-
**Kinds of metrics.**

A counter adds up, a rate is the fraction of its samples that are true, and a trend answers
questions about a distribution. The metrics that every run has are named here.

* `MetricKind.name`: how a kind is written;
* `BuiltIn.all`: the metrics of every run with their kinds.
-/

namespace LoadTest

/-- How the samples of a metric are summarised. -/
inductive MetricKind where
  | counter
  | rate
  | trend
deriving DecidableEq, Inhabited

namespace MetricKind

/-- How a kind is written. -/
def name : MetricKind → String
  | counter => "counter"
  | rate => "rate"
  | trend => "trend"

/-- The kind that a name stands for. -/
def ofName? (text : String) : Option MetricKind :=
  [counter, rate, trend].find? fun kind => kind.name = text

end MetricKind

namespace BuiltIn

/-- Requests whose outcome is known. -/
def requests := "http_reqs"
/-- How long requests took, in milliseconds. -/
def requestDuration := "http_req_duration"
/-- Requests without a response or with a status outside the expected ones. -/
def requestFailed := "http_req_failed"
/-- Iterations that ran to their end. -/
def iterations := "iterations"
/-- How long iterations took, in milliseconds. -/
def iterationDuration := "iteration_duration"
/-- Iterations that ended with an error. -/
def iterationFailed := "iteration_failed"
/-- Outcomes of checks. -/
def checks := "checks"
/-- Bytes sent in request bodies. -/
def dataSent := "data_sent"
/-- Bytes received in response bodies. -/
def dataReceived := "data_received"

/-- The metrics of every run. -/
def all : List (String × MetricKind) :=
  [(requests, .counter), (requestDuration, .trend), (requestFailed, .rate), (iterations, .counter),
    (iterationDuration, .trend), (iterationFailed, .rate), (checks, .rate), (dataSent, .counter),
    (dataReceived, .counter)]

end BuiltIn

end LoadTest
