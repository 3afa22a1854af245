set_option autoImplicit false

namespace HeaderRelay.Bus

inductive Delivery
  /-- A result that is being settled when the process dies is lost. -/
  | atMostOnce
  /-- A result is acknowledged once it is settled, and may come twice. -/
  | atLeastOnce
  deriving DecidableEq, Repr

def Delivery.word : Delivery → String
  | .atMostOnce => "at-most-once"
  | .atLeastOnce => "at-least-once"

def Delivery.ofWord? (word : String) : Option Delivery :=
  if word = "at-most-once" then some .atMostOnce
  else if word = "at-least-once" then some .atLeastOnce
  else none

structure Settings where
  url : String
  taskSubject : String
  taskStream : String
  resultSubject : String
  resultStream : String
  delivery : Delivery
  resultConsumer : String
  /-- Seconds before the one further attempt to connect. -/
  reconnectDelay : Nat
  deriving DecidableEq, Repr

namespace Settings

def defaultTaskSubject : String := "PROVING_TASKS"
def defaultTaskStream : String := "PROVING_TASKS_STREAM"
def defaultResultSubject : String := "PROVING_RESULTS"
def defaultResultStream : String := "PROVING_RESULTS_STREAM"
def defaultResultConsumer : String := "near-header-bridge"
def defaultReconnectDelay : Nat := 5

/-- The default settings of a bus at an address. -/
def standard (url : String) : Settings :=
  { url
    taskSubject := defaultTaskSubject
    taskStream := defaultTaskStream
    resultSubject := defaultResultSubject
    resultStream := defaultResultStream
    delivery := .atMostOnce
    resultConsumer := defaultResultConsumer
    reconnectDelay := defaultReconnectDelay }

end Settings

end HeaderRelay.Bus
