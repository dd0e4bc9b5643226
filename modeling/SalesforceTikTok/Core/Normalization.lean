import SalesforceTikTok.Core.Types

/-!
# Normalisation and hashing

Personal fields are normalised, then hashed. `raw` is absent or empty in the
first test of every normaliser alike.
-/

namespace SalesforceTikTok

namespace Normalizer

/-- `if (!raw) return undefined`, then the field's own rule. -/
def ofTruthy (rule : String → Option String) : Option String → Option String
  | some raw => if raw = "" then none else rule raw
  | none => none

/-- `text.length > 0 ? text : undefined`. -/
def nonEmpty (text : String) : Option String :=
  if text = "" then none else some text

def email (p : Platform) : Option String → Option String :=
  ofTruthy fun raw =>
    let normalized := p.toLowerCase (trim raw)
    if '@' ∈ normalized.toList then some normalized else none

def phone (defaultCountryCode : String := "1") : Option String → Option String :=
  ofTruthy fun raw =>
    let digits := onlyDigits raw
    let length := digits.toList.length
    if length = 0 then none
    else if length = 11 ∧ digits.toList.head? = some '1' then some ("+" ++ digits)
    else if length = 10 then some ("+" ++ defaultCountryCode ++ digits)
    else if 10 < length then some ("+" ++ digits)
    else none

def nameField (p : Platform) : Option String → Option String :=
  ofTruthy fun raw => nonEmpty (p.toLowerCase (trim raw))

def zip : Option String → Option String :=
  ofTruthy fun raw => nonEmpty (onlyDigits raw)

def geo (p : Platform) : Option String → Option String :=
  ofTruthy fun raw => nonEmpty (p.toLowerCase (trim raw))

def externalId : Option String → Option String :=
  ofTruthy fun raw => nonEmpty (trim raw)

end Normalizer

namespace Hasher

/-- `if (!value) return undefined`, else the digest. -/
def sha256 (p : Platform) : Option String → Option String
  | some value => if value = "" then none else some (p.sha256Hex value)
  | none => none

def eventIdPreimage (leadId : String) (eventType : TikTokEventName) (eventTimestamp : JsNumber) :
    String :=
  leadId ++ ":" ++ eventType.toText ++ ":" ++ eventTimestamp.toText

def eventId (p : Platform) (leadId : String) (eventType : TikTokEventName)
    (eventTimestamp : JsNumber) : String :=
  p.sha256Hex (eventIdPreimage leadId eventType eventTimestamp)

def hashUser (p : Platform) (user : CanonicalUser) : HashedUser where
  email := sha256 p (Normalizer.email p user.email)
  phoneNumber := sha256 p (Normalizer.phone "1" user.phone)
  firstName := sha256 p (Normalizer.nameField p user.firstName)
  lastName := sha256 p (Normalizer.nameField p user.lastName)
  city := sha256 p (Normalizer.geo p user.city)
  state := sha256 p (Normalizer.geo p user.state)
  zip := sha256 p (Normalizer.zip user.zip)
  country := sha256 p (Normalizer.geo p user.country)
  externalId := sha256 p (Normalizer.externalId user.externalId)

end Hasher
end SalesforceTikTok
