/-!
# Rejections

Why an attribute certificate is rejected, as a reason with the details that its text mentions.
-/

namespace GridAuthz

/-- A reason to reject an attribute certificate. -/
inductive RejectionReason where
  /-- The chain of the holder is not accepted. -/
  | chain
  /-- The moment is outside the validity of the attribute certificate. -/
  | outsideValidity
  /-- There is no LSC file for the organisation and its server. -/
  | lscNotFound
  /-- The attribute certificate does not hold the chain of its authority. -/
  | noAuthorityChain
  /-- The LSC file does not list the chain of the authority. -/
  | lscMismatch
  /-- The attribute certificate is malformed. -/
  | malformed
  /-- There is no certificate of the authority. -/
  | authorityNotFound
  /-- A certificate of the authority is not usable. -/
  | invalidAuthority
  /-- The signature is not one of the authority. -/
  | signature
  /-- The chain of the authority is not accepted. -/
  | authorityChain
  /-- The attribute certificate was issued to somebody else. -/
  | holder
  /-- The attribute certificate is not meant for this host. -/
  | target
  /-- Validation broke off. -/
  | unexpected
  deriving DecidableEq

namespace RejectionReason

/-- A short description. -/
def description : RejectionReason → String
  | chain => "certificate chain authentication failed"
  | outsideValidity => "AC not valid at current time"
  | lscNotFound => "LSC file not found"
  | noAuthorityChain => "empty AC certificates extension"
  | lscMismatch => "LSC description does not match AC certificates"
  | malformed => "invalid attribute certificate"
  | authorityNotFound => "AA certificate not found"
  | invalidAuthority => "invalid AA certificate"
  | signature => "AC signature verification failed"
  | authorityChain => "AA certificate chain verification failed"
  | holder => "AC holder does not match the certificate chain"
  | target => "local host does not match AC targets"
  | unexpected => "unexpected error"

/-- The pieces of the text between which the details stand. -/
def template : RejectionReason → List String
  | chain => ["Certificate chain validation failed: ", ""]
  | outsideValidity =>
    ["AC not valid at current time. AC validity period: [", " - ", "], reference time: ", ""]
  | lscNotFound => ["LSC file not found for VO ", " and host ", ""]
  | noAuthorityChain => ["The AC certificates extension is empty or missing, issuer ", ""]
  | lscMismatch =>
    ["LSC file for VO ", " and host ", " does not match the AC certificate chain ", ""]
  | malformed => ["Invalid attribute certificate: ", ""]
  | authorityNotFound => ["No AA certificate found for issuer ", ""]
  | invalidAuthority => ["Invalid AA certificate ", ": ", ""]
  | signature => ["AC signature verification failed for issuer ", ""]
  | authorityChain => ["AA certificate chain verification failed: ", ""]
  | holder =>
    ["AC holder ", " (serial ", ") does not match the end-entity certificate issued by ",
      " (serial ", ")"]
  | target => ["Local host ", " does not match any AC target of ", ""]
  | unexpected => ["Unexpected error: ", ""]

end RejectionReason

/-- A reason with the details that belong to it. -/
structure Rejection where
  /-- The reason. -/
  reason : RejectionReason
  /-- The details, in the order in which the text mentions them. -/
  details : List String
  deriving DecidableEq

namespace Rejection

/-- Puts one detail after each piece but the last. Details that are missing are left out, those
that are too many are not mentioned. -/
def fill : (pieces details : List String) → String
  | [], _ => ""
  | [piece], _ => piece
  | piece :: pieces, [] => piece ++ fill pieces []
  | piece :: pieces, detail :: details => piece ++ detail ++ fill pieces details

/-- The text of a rejection. -/
def message (r : Rejection) : String := fill r.reason.template r.details

end Rejection

end GridAuthz
