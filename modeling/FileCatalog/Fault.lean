/-!
# Faults

One type holds every way in which an operation of the library fails, as its cause and not as its
wording; `Fault.message` is the only place that words them. A failed resolution also says at which
step it stopped.
-/

namespace FileCatalog

/-- What the library tells apart about a failed operating-system call. -/
inductive IoCondition where
  | notFound
  | outOfMemory
  | other
  deriving DecidableEq, Repr

structure IoError where
  /-- The system's error number, when the failure came with one. -/
  code : Option Int32
  condition : IoCondition
  text : String
  deriving DecidableEq, Repr

namespace IoError

/-- The error number of a query that has no data to report. -/
def noDataCode : Int32 := 61

def ofCode (code : Int32) : IoError where
  code := some code
  condition := if code = 2 then .notFound else if code = 12 then .outOfMemory else .other
  text := "os error " ++ toString code

end IoError

inductive Fault where
  | outOfMemory (operation : String)
  | outOfBuffer (needed available : Nat)
  | invalidFormat (what details : String)
  | noData (operation : String)
  | nativeQuery (operation cause : String)
  | notFound (path : String)
  | invalidLocator (locator reason : String)
  | unknownPlugin (name : String)
  | incompatiblePlugin (name : String) (found expected : UInt32)
  | backend (text : String)
  deriving DecidableEq, Repr

namespace Fault

def message : Fault → String
  | outOfMemory operation => operation ++ ": out of memory"
  | outOfBuffer needed available =>
    "out of buffer: need " ++ toString needed ++ " bytes, " ++ toString available ++ " available"
  | invalidFormat what details => "invalid " ++ what ++ ": " ++ details
  | noData operation => operation ++ ": no data available"
  | nativeQuery operation cause => operation ++ " failed: " ++ cause
  | notFound path => "not found: " ++ path
  | invalidLocator locator reason => "invalid uri '" ++ locator ++ "': " ++ reason
  | unknownPlugin name => "backend plugin not found: " ++ name
  | incompatiblePlugin name found expected =>
    "backend plugin " ++ name ++ ": api version " ++ toString found ++ ", expected " ++
      toString expected
  | backend text => "backend error: " ++ text

def isNoData : Fault → Bool
  | noData _ => true
  | _ => false

/-- The text of the underlying failure, for the one fault that wraps another. -/
def cause? : Fault → Option String
  | nativeQuery _ cause => some cause
  | _ => none

/-- A number that stands for missing data counts before the condition. -/
def ofIoError (e : IoError) : Fault :=
  if e.code = some IoError.noDataCode then noData "io"
  else
    match e.condition with
    | .outOfMemory => outOfMemory "io"
    | .notFound => notFound ""
    | .other => nativeQuery "io" e.text

end Fault

section Rewording

/-! A failure is passed on in other words by `Except.mapError`, and a result as it is. -/

variable {ε δ α : Type} (reword : ε → δ)

@[simp] theorem mapError_ok (a : α) : (Except.ok a).mapError reword = .ok a := rfl

@[simp] theorem mapError_error (e : ε) :
    (Except.error e : Except ε α).mapError reword = .error (reword e) := rfl

end Rewording

/-- The steps of a resolution, in the order in which they are taken. -/
inductive Step where
  | parse
  | load
  | instantiate
  | resolve
  | branch
  deriving DecidableEq, Repr

def Step.text : Step → String
  | parse => "parse"
  | load => "load"
  | instantiate => "instantiate"
  | resolve => "resolve"
  | branch => "branch"

structure ResolveFault where
  step : Step
  fault : Fault
  deriving DecidableEq, Repr

def ResolveFault.message (f : ResolveFault) : String :=
  f.step.text ++ ": " ++ f.fault.message

end FileCatalog
