import GridAuthz.Certificate
import GridAuthz.Pem

/-!
# Certificates in PEM text

The certificates of a PEM text are in its blocks with the label `CERTIFICATE`; other blocks
are passed over.
-/

namespace GridAuthz

/-- Why certificates cannot be read from a text. -/
inductive CertificateTextError where
  /-- The text is not PEM. -/
  | pem (error : PemError)
  /-- A block does not hold a certificate. -/
  | certificate
  deriving DecidableEq

namespace Certificate

/-- The label of a block that holds a certificate. -/
def pemLabel : String := "CERTIFICATE"

/-- The certificates that blocks of PEM text hold. -/
def ofBlocks? (blocks : List PemBlock) : Option (List Certificate) :=
  (blocks.filter (·.label = pemLabel)).mapM fun block => ofDer? block.contents

/-- The certificates of a PEM text, in order. -/
def readPem (text : String) : Except CertificateTextError (List Certificate) := do
  let blocks ← (Pem.read text).mapError .pem
  match ofBlocks? blocks with
  | some certificates => .ok certificates
  | none => .error .certificate

/-- The block of a certificate. -/
def toBlock (c : Certificate) : PemBlock := ⟨pemLabel, c.toDer⟩

end Certificate

end GridAuthz
