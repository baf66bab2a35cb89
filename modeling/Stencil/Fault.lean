import Stencil.Number.Decimal

/-!
# Faults

What can go wrong while a template is rendered. A `Fault` has a kind, a message, the builtin it
arose in and the failure behind it. A `Report` is its written form. A `Failure` is what ends an
evaluation early: a fault, or one of two events that no template can look at.
-/

namespace Stencil

inductive Fault.Kind where
  | invalidArgument
  | invalidArguments
  | nonFloatArgument
  | nonIntArgument
  | noContent
  | badIndex
  | invalidRange
  | invalidOffset
  | invalidFormat
  | invalidOperator
  | invalidTypeName
  | invalidRegex
  | divideByZero
  | overflow
  | underflow
  | notANumber
  | unknownOperator
  | typeClash
  | notStorable
  | notCallableAsVariable
  | unknownFunction
  | undefinedVariable
  | notFound
  | noAttribute
  | gasExhausted
  deriving DecidableEq, Repr

namespace Fault.Kind

def all : List Kind :=
  [.invalidArgument, .invalidArguments, .nonFloatArgument, .nonIntArgument, .noContent, .badIndex,
   .invalidRange, .invalidOffset, .invalidFormat, .invalidOperator, .invalidTypeName, .invalidRegex,
   .divideByZero, .overflow, .underflow, .notANumber, .unknownOperator, .typeClash, .notStorable,
   .notCallableAsVariable, .unknownFunction, .undefinedVariable, .notFound, .noAttribute,
   .gasExhausted]

def name : Kind → String
  | .invalidArgument => "invalid_argument"
  | .invalidArguments => "invalid_arguments"
  | .nonFloatArgument => "non_float_argument"
  | .nonIntArgument => "non_int_argument"
  | .noContent => "no_content"
  | .badIndex => "bad_index"
  | .invalidRange => "invalid_range"
  | .invalidOffset => "invalid_offset"
  | .invalidFormat => "invalid_format"
  | .invalidOperator => "invalid_operator"
  | .invalidTypeName => "invalid_type_name"
  | .invalidRegex => "invalid_regex"
  | .divideByZero => "divide_by_zero"
  | .overflow => "overflow"
  | .underflow => "underflow"
  | .notANumber => "not_a_number"
  | .unknownOperator => "unknown_operator"
  | .typeClash => "type_clash"
  | .notStorable => "not_storable"
  | .notCallableAsVariable => "not_callable_as_variable"
  | .unknownFunction => "unknown_function"
  | .undefinedVariable => "undefined_variable"
  | .notFound => "not_found"
  | .noAttribute => "no_attribute"
  | .gasExhausted => "gas_exhausted"

def ofName? (n : String) : Option Kind :=
  all.find? (·.name == n)

/-- The message of a fault that has nothing more to say than its kind. -/
def message : Kind → String
  | .invalidArgument => "invalid argument"
  | .invalidArguments => "invalid args"
  | .nonFloatArgument => "non-float args"
  | .nonIntArgument => "non-int args"
  | .noContent => "no content"
  | .badIndex => "bad index"
  | .invalidRange => "invalid range"
  | .invalidOffset => "invalid offset"
  | .invalidFormat => "invalid format"
  | .invalidOperator => "invalid op"
  | .invalidTypeName => "invalid type name"
  | .invalidRegex => "invalid regex"
  | .divideByZero => "divide by 0"
  | .overflow => "inf"
  | .underflow => "-inf"
  | .notANumber => "nan"
  | .unknownOperator => "unknown op"
  | .typeClash => "type clash"
  | .notStorable => "not result storable"
  | .notCallableAsVariable => "not a variable"
  | .unknownFunction => "unknown function"
  | .undefinedVariable => "undefined variable"
  | .notFound => "not found"
  | .noAttribute => "has no attrs"
  | .gasExhausted => "gas exhausted"

end Fault.Kind

inductive WeightFault where
  | negative
  | allZero
  deriving DecidableEq, Repr

def WeightFault.message : WeightFault → String
  | .negative => "A weight is invalid in distribution"
  | .allZero => "All weights are zero in distribution"

inductive Cause where
  | integer (e : Number.IntegerFault)
  | decimal (e : Number.DecimalFault)
  | weights (e : WeightFault)
  | pattern
  | other (text : String)
  deriving DecidableEq, Repr

/-- The wording of a cause; what an engine says of a pattern that it refuses is not part of it. -/
def Cause.text : Cause → String
  | .integer e => e.message
  | .decimal e => e.message
  | .weights e => e.message
  | .pattern => "regex"
  | .other t => t

structure Fault where
  kind : Fault.Kind
  message : String
  source : Option String := none
  cause : Option Cause := none
  deriving DecidableEq, Repr

namespace Fault

def ofKind (kind : Kind) : Fault :=
  { kind, message := kind.message }

def causedBy (e : Fault) (cause : Cause) : Fault :=
  { e with cause := some cause }

/-- Names the builtin that the fault arose in, unless it names one already. -/
def attributed (e : Fault) (name : String) : Fault :=
  { e with source := some (e.source.getD name) }

/-- Names the builtin that the fault arose in, whatever it named before. -/
def raisedIn (e : Fault) (name : String) : Fault :=
  { e with source := some name }

/-- How the fault shows in the place of the output that it prevented. -/
def display (e : Fault) : String :=
  match e.source with
  | some name => "<" ++ name ++ ":" ++ e.message ++ ">"
  | none => "<" ++ e.message ++ ">"

end Fault

structure Report where
  kind : Fault.Kind
  source : Option String
  message : String
  cause : Option String
  deriving DecidableEq, Repr

def Fault.report (e : Fault) : Report :=
  { kind := e.kind, source := e.source, message := e.message, cause := e.cause.map Cause.text }

/-- What ends an evaluation before it has a result. A fault is part of the output of what surrounds
it. Spent gas ends the whole render, and so does a time template that cannot be printed. -/
inductive Failure where
  | fault (e : Fault)
  | exhausted
  | unprintable
  deriving DecidableEq, Repr

/-- The fault by which a failure is told to a host, if it can be told. -/
def Failure.toFault? : Failure → Option Fault
  | .fault e => some e
  | .exhausted => some (Fault.ofKind .gasExhausted)
  | .unprintable => none

/-! ### Numbers as arguments -/

/-- The integer that a text denotes, else a fault of the given kind and message. -/
def intArg (text : String) (kind : Fault.Kind) (message : String) : Except Fault Int :=
  (Number.integer? text).mapError fun e => { kind, message, cause := some (.integer e) }

def floatArg (text : String) (kind : Fault.Kind) (message : String) : Except Fault Float :=
  (Number.decimal? text).mapError fun e => { kind, message, cause := some (.decimal e) }

/-- Like `intArg`, with a default for a blank text. -/
def intArgOr (text : String) (default : Int) (kind : Fault.Kind) (message : String) :
    Except Fault Int :=
  if Text.isBlankText text.toList then .ok default else intArg text kind message

theorem exists_ok_of_bind {ε α β : Type} {x : Except ε α} {f : α → Except ε β} {b : β} (h : (x >>= f) = .ok b) :
    ∃ a, x = .ok a ∧ f a = .ok b := by
  cases x with
  | ok a => exact ⟨a, rfl, h⟩
  | error e => cases h

theorem integer?_of_intArg {text message : String} {kind : Fault.Kind} {n : Int}
    (h : intArg text kind message = .ok n) : Number.integer? text = .ok n := by
  unfold intArg at h
  cases hn : Number.integer? text with
  | ok m =>
    rw [hn] at h
    cases h
    rfl
  | error e =>
    rw [hn] at h
    cases h

theorem holds_of_intArg {text message : String} {kind : Fault.Kind} {n : Int}
    (h : intArg text kind message = .ok n) : Number.signed64.holds n :=
  Number.holds_of_integer? (integer?_of_intArg h)

end Stencil
