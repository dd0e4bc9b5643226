/-!
# The JavaScript platform under the service

Strings, optional values and numbers as the service's own code sees them. What
the host library computes and the service only calls (Unicode lower-casing,
SHA-256, `Date` parsing) is a parameter: every theorem holds for each choice,
and what one relies on is a named hypothesis.
-/

namespace SalesforceTikTok

/-- Host functions the service calls: `String.prototype.toLowerCase`, the
hexadecimal digest of `createHash('sha256')`, and `new Date(text).getTime()`,
whose `NaN` is `none`. -/
structure Platform where
  toLowerCase : String → String
  sha256Hex : String → String
  dateParse : String → Option Int

/-- A thrown `Error`. `code` and `errno` are what Node's network errors carry. -/
structure JsError where
  message : String
  code : Option String := none
  errno : Option String := none
  deriving DecidableEq, Repr

/-- The numbers the service computes with: whole numbers, or `NaN` out of an
unparsable date. -/
inductive JsNumber where
  | int (value : Int)
  | nan
  deriving DecidableEq, Repr

def JsNumber.toText : JsNumber → String
  | .int value => toString value
  | .nan => "NaN"

/-- A value of type `unknown`. -/
inductive JsValue where
  | undefined
  | null
  | bool (value : Bool)
  | number (value : JsNumber)
  | string (value : String)
  | array (items : List JsValue)
  | object (fields : List (String × JsValue))

/-- JavaScript truthiness of an optional string: present and not empty. -/
def truthy : Option String → Bool
  | some s => s ≠ ""
  | none => false

/-- `WhiteSpace` and `LineTerminator` of the language, which `trim` removes. -/
def isJsSpace (c : Char) : Bool :=
  c.toNat ∈ [0x9, 0xA, 0xB, 0xC, 0xD, 0x20, 0xA0, 0x1680, 0x2028, 0x2029, 0x202F, 0x205F,
    0x3000, 0xFEFF] ∨ (0x2000 ≤ c.toNat ∧ c.toNat ≤ 0x200A)

/-- `String.prototype.trim`. -/
def trim (s : String) : String :=
  String.ofList ((s.toList.dropWhile isJsSpace).reverse.dropWhile isJsSpace).reverse

/-- `s.replace(/\D/g, '')`: only the ASCII digits stay. -/
def onlyDigits (s : String) : String :=
  String.ofList (s.toList.filter Char.isDigit)

@[simp] theorem truthy_none : truthy none = false := rfl

@[simp] theorem truthy_some (s : String) : truthy (some s) = true ↔ s ≠ "" := by
  simp [truthy]

end SalesforceTikTok
