import TargetControl.Json.Draft
import TargetControl.Text.Quoted

/-!
Why a value is not of the type that is asked for, and how that reads.

A text is refused because it is not JSON, with one of the two flaws of a draft, or because the
value in it does not fit.  The causes of the second kind have a wording, which differs between the
formats only in how a number with a fraction is written.
-/

namespace TargetControl
namespace Decode

/-- What was found in place of what was asked for. -/
inductive Found where
  | null
  | boolean (b : Bool)
  | number (n : Json.Number)
  | text (s : String)
  | sequence
  | map
deriving DecidableEq, Repr

/-- Why a value does not fit. -/
inductive Cause where
  | missingField (name : String)
  | duplicateField (name : String)
  | unknownVariant (given : String) (known : List String)
  | invalidType (found : Found) (expected : String)
  | invalidValue (found : Found) (expected : String)
  | invalidLength (length : Nat) (expected : String)
  /-- a text that does not follow the format of its field -/
  | unreadable
deriving DecidableEq, Repr

/-- Why a text does not give a value. -/
inductive Error where
  | flawed (flaw : Json.Flaw)
  | unfit (cause : Cause)
deriving DecidableEq, Repr

abbrev Result := Except Error

/-- A text format with its way of writing doubles in messages. -/
inductive Format where
  | json
  | toml
deriving DecidableEq, Repr

/-- How a double is written in messages about a format. -/
def Format.real : Format → Binary64 → List Char
  | .json => Binary64.compact
  | .toml => Binary64.plain

/-- What was found, in words. -/
def Found.describe (format : Format) : Found → String
  | .null => "null"
  | .boolean true => "boolean `true`"
  | .boolean false => "boolean `false`"
  | .number (.integer n) => "integer `" ++ String.ofList (Digits.signed n) ++ "`"
  | .number (.real x) => "floating point `" ++ String.ofList (format.real x) ++ "`"
  | .text s => "string " ++ Quoted.text s
  | .sequence => "sequence"
  | .map => "map"

/-- The names of the variants there are, for a message. -/
def alternatives : List String → String
  | [] => "there are no variants"
  | [a] => "expected `" ++ a ++ "`"
  | [a, b] => "expected `" ++ a ++ "` or `" ++ b ++ "`"
  | names => "expected one of " ++ ", ".intercalate (names.map fun n => "`" ++ n ++ "`")

/-- The wording of a cause, where there is one. -/
def Cause.message? (format : Format) : Cause → Option String
  | .missingField name => some ("missing field `" ++ name ++ "`")
  | .duplicateField name => some ("duplicate field `" ++ name ++ "`")
  | .unknownVariant given known =>
    some ("unknown variant `" ++ given ++ "`, " ++ alternatives known)
  | .invalidType found expected =>
    some ("invalid type: " ++ found.describe format ++ ", expected " ++ expected)
  | .invalidValue found expected =>
    some ("invalid value: " ++ found.describe format ++ ", expected " ++ expected)
  | .invalidLength length expected =>
    some ("invalid length " ++ String.ofList (Digits.decimal length) ++ ", expected " ++ expected)
  | .unreadable => none

def flawed {α : Type} (flaw : Json.Flaw) : Result α := .error (.flawed flaw)

def unfit {α : Type} (cause : Cause) : Result α := .error (.unfit cause)

/-- The result of a step that can only meet a flaw. -/
def lift {α : Type} (r : Except Json.Flaw α) : Result α := r.mapError .flawed

end Decode
end TargetControl
