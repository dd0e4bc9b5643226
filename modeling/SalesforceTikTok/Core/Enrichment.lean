import SalesforceTikTok.Core.Types

/-!
# Identity enrichment

The identity, attribution and device signals of a Salesforce lead.
-/

namespace SalesforceTikTok
namespace IdentityEnrichmentLayer

def extractUser (lead : SalesforceLead) : CanonicalUser where
  email := lead.email
  phone := lead.phone
  firstName := lead.firstName
  lastName := lead.lastName
  city := lead.city
  state := lead.state
  zip := lead.postalCode
  country := lead.country
  externalId := lead.externalId
  tiktokLeadId := lead.tiktokLeadId

def extractAttribution (lead : SalesforceLead) : CanonicalAttribution where
  ttclid := lead.ttclid
  source := lead.leadSource
  campaignId := lead.campaign

def extractDevice (lead : SalesforceLead) : CanonicalDevice where
  ip := lead.ipAddress
  userAgent := lead.userAgent

/-- `Boolean(value?.trim())`. -/
def hasSignal (value : Option String) : Bool := truthy (value.map trim)

def estimatedMatchRate (score : Nat) : String :=
  if 70 ≤ score then ">70%"
  else if 45 ≤ score then "40–70%"
  else if 20 ≤ score then "20–40%"
  else "<20%"

def scoreSignals (user : CanonicalUser) (attribution : CanonicalAttribution)
    (device : CanonicalDevice) : IdentitySignalQuality :=
  let hasTikTokLeadId := hasSignal user.tiktokLeadId
  let hasEmail := hasSignal user.email
  let hasPhone := hasSignal user.phone
  let hasTtclid := hasSignal attribution.ttclid
  let hasExternalId := hasSignal user.externalId
  let hasIp := hasSignal device.ip
  let hasUserAgent := hasSignal device.userAgent
  let score :=
    (if hasTikTokLeadId then 40 else 0) + (if hasEmail then 30 else 0) +
      (if hasPhone then 20 else 0) + (if hasTtclid then 15 else 0) +
      (if hasExternalId then 10 else 0) + (if hasIp then 3 else 0) +
      (if hasUserAgent then 2 else 0)
  { score, hasTikTokLeadId, hasEmail, hasPhone, hasTtclid, hasExternalId, hasIp, hasUserAgent,
    estimatedMatchRate := estimatedMatchRate score }

end IdentityEnrichmentLayer
end SalesforceTikTok
