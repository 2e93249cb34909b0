import Sightline.Decimal.Style
import Sightline.Json.Problem
import Sightline.Text.Quoted

/-!
# How the problems of a document are worded
-/

set_option autoImplicit false

namespace Sightline.Json

def Found.wording : Found Float → String
  | .null => "null"
  | .boolean true => "boolean `true`"
  | .boolean false => "boolean `false`"
  | .natural n => "integer `" ++ toString n ++ "`"
  | .negative n => "integer `-" ++ toString n ++ "`"
  | .real x => "floating point `" ++ Decimal.Style.signed.write x ++ "`"
  | .text s => "string " ++ Text.quoted s
  | .sequence => "sequence"
  | .mapping => "map"

def nameText (name : String) : String := "`" ++ name ++ "`"

def knownText : List String → String
  | [] => "there are no fields"
  | [name] => "expected " ++ nameText name
  | [first, second] => "expected " ++ nameText first ++ " or " ++ nameText second
  | names => "expected one of " ++ ", ".intercalate (names.map nameText)

def Mismatch.wording : Mismatch Float → String
  | .wrongType found expected => "invalid type: " ++ found.wording ++ ", expected " ++ expected
  | .belowZero magnitude expected =>
    "invalid value: integer `-" ++ toString magnitude ++ "`, expected " ++ expected
  | .tooShort length expected fields =>
    "invalid length " ++ toString length ++ ", expected " ++ expected ++ " with " ++
      toString fields ++ (if fields = 1 then " element" else " elements")
  | .missingField name => "missing field " ++ nameText name
  | .repeatedField name => "duplicate field " ++ nameText name
  | .unknownField name known => "unknown field " ++ nameText name ++ ", " ++ knownText known

end Sightline.Json
