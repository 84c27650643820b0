/-
# `Signoff.Failure` — why a command fails, and what it leaves for its caller

A failure has one cause, and the steps it happened in, the outermost first.  Where a document is
malformed, the steps say all there is to say.

A command ends with an exit code and two texts.  A failure that ends a command is printed with the
outermost step first and what caused it below.
-/
import Signoff.CheckModel
import Signoff.Disk
import Signoff.Result
import Signoff.Text.Basic

namespace Signoff

/-- The innermost reason of a failure. -/
inductive Cause where
  | config (e : ConfigError)
  /-- A JSON document is malformed or does not have the right shape. -/
  | malformed
  /-- A number is no check type. -/
  | checkType (n : Nat)
  | inconsistent (e : Inconsistency)
  /-- A document is written by a schema that is not known. -/
  | schema (document given expected : String)
  /-- An action on a file failed. -/
  | disk (e : DiskFault)
  deriving DecidableEq, Repr

def Cause.message? : Cause → Option String
  | config e => some e.message
  | malformed => none
  | checkType n => some (CheckType.unknownMessage n)
  | inconsistent e => some e.message
  | schema document given expected =>
    some ("unknown " ++ document ++ " schema: " ++ given ++ " (expected " ++ expected ++ ")")
  | disk e => some e.message

/-- A cause and the steps it happened in, the outermost first. -/
structure Failure where
  contexts : List String := []
  cause : Cause
  deriving DecidableEq, Repr

namespace Failure

/-- The failure as part of a step. -/
def within (context : String) (f : Failure) : Failure := { f with contexts := context :: f.contexts }

/-- All there is to say: the steps, then the cause. -/
def chain (f : Failure) : List String := f.contexts ++ f.cause.message?.toList

/-- All there is to say, in one line. -/
def message (f : Failure) : String := ": ".intercalate f.chain

end Failure

end Signoff

namespace Signoff.Command

/-! ## The end of a command -/

/-- How a command ended. -/
structure Outcome where
  code : Nat := 0
  stdout : String := ""
  stderr : String := ""
  deriving DecidableEq, Repr

def lines (ls : List String) : String := String.join (ls.map (· ++ "\n"))

/-! ## Failures -/

/-- The text with a margin before every line after the first. -/
def withMargin (margin : List Char) (text : List Char) : List Char :=
  text.flatMap fun c => if c = '\n' then '\n' :: margin else [c]

/-- A cause below its heading; one of several has a number. -/
def causeLine (number : Option Nat) (text : String) : String :=
  let head := match number with
    | none => "    "
    | some n => "    " ++ Text.decimal n ++ ": "
  head ++ String.ofList (withMargin (List.replicate head.length ' ') text.toList)

def causeLines : List String → List String
  | [] => []
  | [cause] => ["", "Caused by:", causeLine none cause]
  | causes => "" :: "Caused by:" :: (causes.zipIdx.map fun c => causeLine (some c.2) c.1)

/-- The failure that the chain tells of, the outermost first. -/
def failureText : List String → String
  | [] => lines ["Error: "]
  | headline :: causes => lines (("Error: " ++ headline) :: causeLines causes)

def Outcome.failed (chain : List String) : Outcome := { code := 1, stderr := failureText chain }

end Signoff.Command
