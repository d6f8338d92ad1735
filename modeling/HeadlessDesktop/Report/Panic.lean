import HeadlessDesktop.Text.Raw

/-! Panics: calls that stop with a value instead of returning. -/

namespace HeadlessDesktop.Report

open Text (Raw)

inductive Fault
  | noTarget
  | noTable
  | indexOutOfRange (index length : Int)
  /-- There can be no list of this length. -/
  | lengthOutOfRange
  | noValue
  /-- A value of this type was used as a key. -/
  | unhashable (type : String)
deriving DecidableEq, Repr

def Fault.message : Fault → String
  | .noTarget => "runtime error: invalid memory address or nil pointer dereference"
  | .noTable => "assignment to entry in nil map"
  | .indexOutOfRange index length =>
    "runtime error: index out of range [" ++ Text.intText index ++ "] with length " ++
      Text.intText length
  | .lengthOutOfRange => "runtime error: makeslice: len out of range"
  | .noValue => "panic called with nil argument (use GODEBUG=panicnil=1 to disable)"
  | .unhashable type => "runtime error: hash of unhashable type " ++ type

def lengthLimit : Int := 0x1000000000000

def Fault.behindEnd (length : Int) : Fault :=
  if length < 0 || lengthLimit ≤ length then .lengthOutOfRange
  else .indexOutOfRange length length

inductive PanicValue
  | text (value : Raw)
  | int (value : Int)
  | bool (value : Bool)
  | absent
  | fault (fault : Fault)
deriving DecidableEq, Repr

namespace PanicValue

def message : PanicValue → Raw
  | .text value => value
  | .int value => Text.intText value
  | .bool true => "true"
  | .bool false => "false"
  | .absent => "<nil>"
  | .fault raisedFault => raisedFault.message

/-- The value that is caught when this one is raised: none at all is a fault. -/
def raised : PanicValue → PanicValue
  | .absent => .fault .noValue
  | value => value

end PanicValue

inductive Outcome (α : Type)
  | returned (value : α)
  | panicked (value : PanicValue)
deriving DecidableEq, Repr

namespace Outcome

def bind {α β : Type} : Outcome α → (α → Outcome β) → Outcome β
  | .returned value, next => next value
  | .panicked value, _ => .panicked value

instance : Monad Outcome where
  pure := .returned
  bind := bind

end Outcome

structure PanicReport where
  op : Raw := ""
  value : PanicValue := .absent
  stack : Raw := ""
deriving DecidableEq, Repr

def PanicReport.message (report : PanicReport) : Raw :=
  if report.op = "" then "panic: " ++ report.value.message
  else "panic in " ++ report.op ++ ": " ++ report.value.message

end HeadlessDesktop.Report
