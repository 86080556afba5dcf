/-!
# Names of certificates and algorithms

Names registered for certificate extensions, policies, key purposes and algorithms.
-/

namespace GridAuthz.Oid.Registry

/-- The names, with the dotted texts of their identifiers. -/
def certificates : List (String × String) := [
  ("id-holdinstruction-reject", "2.2.840.10040.2.3"), ("id-ce", "2.5.29"),
  ("id-ce-subjectKeyIdentifier", "2.5.29.14"), ("id-ce-keyUsage", "2.5.29.15"),
  ("id-ce-privateKeyUsagePeriod", "2.5.29.16"), ("id-ce-subjectAltName", "2.5.29.17"),
  ("id-ce-issuerAltName", "2.5.29.18"), ("id-ce-basicConstraints", "2.5.29.19"),
  ("id-ce-cRLNumber", "2.5.29.20"), ("id-ce-cRLReasons", "2.5.29.21"),
  ("id-ce-holdInstructionCode", "2.5.29.23"), ("id-ce-invalidityDate", "2.5.29.24"),
  ("id-ce-deltaCRLIndicator", "2.5.29.27"), ("id-ce-issuingDistributionPoint", "2.5.29.28"),
  ("id-ce-certificateIssuer", "2.5.29.29"), ("id-ce-nameConstraints", "2.5.29.30"),
  ("id-ce-cRLDistributionPoints", "2.5.29.31"), ("id-ce-certificatePolicies", "2.5.29.32"),
  ("anyPolicy", "2.5.29.32.0"), ("id-ce-policyMappings", "2.5.29.33"),
  ("id-ce-authorityKeyIdentifier", "2.5.29.35"), ("id-ce-policyConstraints", "2.5.29.36"),
  ("id-ce-extKeyUsage", "2.5.29.37"), ("anyExtendedKeyUsage", "2.5.29.37.0"),
  ("id-ce-freshestCRL", "2.5.29.46"), ("id-ce-inhibitAnyPolicy", "2.5.29.54"),
  ("id-ce-subjectDirectoryAttributes", "2.5.29.9"), ("id-at", "2.5.4"),
  ("id-PBKDF2", "1.2.840.113549.1.5.12"), ("id-data", "1.2.840.113549.1.7.1"),
  ("id-signedData", "1.2.840.113549.1.7.2"), ("id-envelopedData", "1.2.840.113549.1.7.3"),
  ("id-digestedData", "1.2.840.113549.1.7.5"), ("id-encryptedData", "1.2.840.113549.1.7.6"),
  ("smimeCapabilities", "1.2.840.113549.1.9.15"), ("id-smime", "1.2.840.113549.1.9.16"),
  ("id-ct-receipt", "1.2.840.113549.1.9.16.1.1"),
  ("id-ct-firmwarePackage", "1.2.840.113549.1.9.16.1.16"),
  ("id-ct-firmwareLoadReceipt", "1.2.840.113549.1.9.16.1.17"),
  ("id-ct-firmwareLoadError", "1.2.840.113549.1.9.16.1.18"),
  ("id-ct-authData", "1.2.840.113549.1.9.16.1.2"),
  ("id-ct-authEnvelopedData", "1.2.840.113549.1.9.16.1.23"),
  ("id-ct-contentInfo", "1.2.840.113549.1.9.16.1.6"), ("id-cap", "1.2.840.113549.1.9.16.11"),
  ("id-cap-preferBinaryInside", "1.2.840.113549.1.9.16.11.1"),
  ("id-aa", "1.2.840.113549.1.9.16.2"), ("id-aa-receiptRequest", "1.2.840.113549.1.9.16.2.1"),
  ("id-aa-contentReference", "1.2.840.113549.1.9.16.2.10"),
  ("id-aa-encrypKeyPref", "1.2.840.113549.1.9.16.2.11"),
  ("id-aa-signingCertificate", "1.2.840.113549.1.9.16.2.12"),
  ("id-aa-securityLabel", "1.2.840.113549.1.9.16.2.2"),
  ("id-aa-mlExpandHistory", "1.2.840.113549.1.9.16.2.3"),
  ("id-aa-firmwarePackageID", "1.2.840.113549.1.9.16.2.35"),
  ("id-aa-targetHardwareIDs", "1.2.840.113549.1.9.16.2.36"),
  ("id-aa-decryptKeyID", "1.2.840.113549.1.9.16.2.37"),
  ("id-aa-implCryptoAlgs", "1.2.840.113549.1.9.16.2.38"),
  ("id-aa-wrappedFirmwareKey", "1.2.840.113549.1.9.16.2.39"),
  ("id-aa-contentHint", "1.2.840.113549.1.9.16.2.4"),
  ("id-aa-communityIdentifiers", "1.2.840.113549.1.9.16.2.40"),
  ("id-aa-firmwarePackageInfo", "1.2.840.113549.1.9.16.2.42"),
  ("id-aa-implCompressAlgs", "1.2.840.113549.1.9.16.2.43"),
  ("id-aa-signingCertificateV2", "1.2.840.113549.1.9.16.2.47"),
  ("id-aa-er-internal", "1.2.840.113549.1.9.16.2.49"),
  ("id-aa-msgSigDigest", "1.2.840.113549.1.9.16.2.5"),
  ("id-aa-er-external", "1.2.840.113549.1.9.16.2.50"),
  ("id-aa-contentIdentifier", "1.2.840.113549.1.9.16.2.7"),
  ("id-aa-equivalentLabels", "1.2.840.113549.1.9.16.2.9"),
  ("id-alg-SSDH", "1.2.840.113549.1.9.16.3.10"), ("id-alg-ESDH", "1.2.840.113549.1.9.16.3.5"),
  ("id-alg-CMS3DESwrap", "1.2.840.113549.1.9.16.3.6"),
  ("id-alg-CMSRC2wrap", "1.2.840.113549.1.9.16.3.7"), ("id-skd", "1.2.840.113549.1.9.16.8"),
  ("id-skd-glUseKEK", "1.2.840.113549.1.9.16.8.1"),
  ("id-skd-glaQueryRequest", "1.2.840.113549.1.9.16.8.11"),
  ("id-skd-glaQueryResponse", "1.2.840.113549.1.9.16.8.12"),
  ("id-skd-glProvideCert", "1.2.840.113549.1.9.16.8.13"),
  ("id-skd-glManageCert", "1.2.840.113549.1.9.16.8.14"),
  ("id-skd-glKey", "1.2.840.113549.1.9.16.8.15"),
  ("id-skd-glDelete", "1.2.840.113549.1.9.16.8.2"),
  ("id-skd-glAddMember", "1.2.840.113549.1.9.16.8.3"),
  ("id-skd-glDeleteMember", "1.2.840.113549.1.9.16.8.4"),
  ("id-skd-glRekey", "1.2.840.113549.1.9.16.8.5"),
  ("id-skd-glAddOwner", "1.2.840.113549.1.9.16.8.6"),
  ("id-skd-glRemoveOwner", "1.2.840.113549.1.9.16.8.7"),
  ("id-skd-glKeyCompromise", "1.2.840.113549.1.9.16.8.8"),
  ("id-skd-glkRefresh", "1.2.840.113549.1.9.16.8.9"), ("id-contentType", "1.2.840.113549.1.9.3"),
  ("id-messageDigest", "1.2.840.113549.1.9.4"), ("id-signingTime", "1.2.840.113549.1.9.5"),
  ("id-countersignature", "1.2.840.113549.1.9.6"), ("rc2-cbc", "1.2.840.113549.3.2"),
  ("des-ede3-cbc", "1.2.840.113549.3.7"), ("ltans", "1.3.6.1.5.5.11"),
  ("id-cet-skdFailInfo", "1.3.6.1.5.5.7.15.1"), ("id-cmc-glaRR", "1.3.6.1.5.5.7.7.99"),
  ("id-cmc-gla-skdAlgRequest", "1.3.6.1.5.5.7.7.99.1"),
  ("id-cmc-gla-skdAlgResponse", "1.3.6.1.5.5.7.7.99.2"),
  ("id-on-hardwareModuleName", "1.3.6.1.5.5.7.8.4"), ("hMAC-SHA1", "1.3.6.1.5.5.8.1.2"),
  ("aes", "2.16.840.1.101.3.4.1"), ("id-aes128-CBC", "2.16.840.1.101.3.4.1.2"),
  ("id-aes192-CBC", "2.16.840.1.101.3.4.1.22"), ("id-aes192-wrap", "2.16.840.1.101.3.4.1.25"),
  ("id-aes192-GCM", "2.16.840.1.101.3.4.1.26"), ("id-aes192-CCM", "2.16.840.1.101.3.4.1.27"),
  ("id-aes256-CBC", "2.16.840.1.101.3.4.1.42"), ("id-aes256-wrap", "2.16.840.1.101.3.4.1.45"),
  ("id-aes256-GCM", "2.16.840.1.101.3.4.1.46"), ("id-aes256-CCM", "2.16.840.1.101.3.4.1.47"),
  ("id-aes128-wrap", "2.16.840.1.101.3.4.1.5"), ("id-aes128-GCM", "2.16.840.1.101.3.4.1.6"),
  ("id-aes128-CCM", "2.16.840.1.101.3.4.1.7"), ("id-dsa", "1.2.840.10040.4.1"),
  ("dsa-with-sha1", "1.2.840.10040.4.3"), ("id-ecPublicKey", "1.2.840.10045.2.1"),
  ("secp256r1", "1.2.840.10045.3.1.7"), ("ecdsa-with-SHA224", "1.2.840.10045.4.3.1"),
  ("ecdsa-with-SHA256", "1.2.840.10045.4.3.2"), ("ecdsa-with-SHA384", "1.2.840.10045.4.3.3"),
  ("ecdsa-with-SHA512", "1.2.840.10045.4.3.4"), ("dhpublicnumber", "1.2.840.10046.2.1"),
  ("id-PasswordBasedMac", "1.2.840.113533.7.66.13"), ("id-DHBasedMac", "1.2.840.113533.7.66.30"),
  ("pkcs-1", "1.2.840.113549.1.1"), ("rsaEncryption", "1.2.840.113549.1.1.1"),
  ("id-RSASSA-PSS", "1.2.840.113549.1.1.10"),
  ("sha256WithRSAEncryption", "1.2.840.113549.1.1.11"),
  ("sha384WithRSAEncryption", "1.2.840.113549.1.1.12"),
  ("sha512WithRSAEncryption", "1.2.840.113549.1.1.13"),
  ("sha224WithRSAEncryption", "1.2.840.113549.1.1.14"),
  ("md2WithRSAEncryption", "1.2.840.113549.1.1.2"),
  ("md5WithRSAEncryption", "1.2.840.113549.1.1.4"),
  ("sha1WithRSAEncryption", "1.2.840.113549.1.1.5"), ("id-RSAES-OAEP", "1.2.840.113549.1.1.7"),
  ("id-mgf1", "1.2.840.113549.1.1.8"), ("id-pSpecified", "1.2.840.113549.1.1.9"),
  ("pkcs-9", "1.2.840.113549.1.9"), ("id-ExtensionReq", "1.2.840.113549.1.9.14"),
  ("id-smime", "1.2.840.113549.1.9.16"), ("id-ct", "1.2.840.113549.1.9.16.1"),
  ("id-ct-scvp-certValRequest", "1.2.840.113549.1.9.16.1.10"),
  ("id-ct-scvp-certValResponse", "1.2.840.113549.1.9.16.1.11"),
  ("id-ct-scvp-valPolRequest", "1.2.840.113549.1.9.16.1.12"),
  ("id-ct-scvp-valPolResponse", "1.2.840.113549.1.9.16.1.13"),
  ("id-ct-encKeyWithID", "1.2.840.113549.1.9.16.1.21"), ("id-aa", "1.2.840.113549.1.9.16.2"),
  ("id-aa-cmc-unsignedData", "1.2.840.113549.1.9.16.2.34"), ("id-md2", "1.2.840.113549.2.2"),
  ("id-md5", "1.2.840.113549.2.5"), ("sect163k1", "1.3.132.0.1"), ("sect163r2", "1.3.132.0.15"),
  ("sect283k1", "1.3.132.0.16"), ("sect283r1", "1.3.132.0.17"), ("sect233k1", "1.3.132.0.26"),
  ("sect233r1", "1.3.132.0.27"), ("secp224r1", "1.3.132.0.33"), ("secp384r1", "1.3.132.0.34"),
  ("secp521r1", "1.3.132.0.35"), ("sect409k1", "1.3.132.0.36"), ("sect409r1", "1.3.132.0.37"),
  ("sect571k1", "1.3.132.0.38"), ("sect571r1", "1.3.132.0.39"), ("id-ecDH", "1.3.132.1.12"),
  ("id-ecMQV", "1.3.132.1.13"), ("id-sha1", "1.3.14.3.2.26"), ("id-pkix", "1.3.6.1.5.5.7"),
  ("id-pe", "1.3.6.1.5.5.7.1"), ("id-pe-authorityInfoAccess", "1.3.6.1.5.5.7.1.1"),
  ("id-pe-ac-proxying", "1.3.6.1.5.5.7.1.10"), ("id-pe-subjectInfoAccess", "1.3.6.1.5.5.7.1.11"),
  ("id-pe-ac-auditIdentity", "1.3.6.1.5.5.7.1.4"), ("id-pe-aaControls", "1.3.6.1.5.5.7.1.6"),
  ("id-aca", "1.3.6.1.5.5.7.10"), ("id-aca-authenticationInfo", "1.3.6.1.5.5.7.10.1"),
  ("id-aca-accessIdentity", "1.3.6.1.5.5.7.10.2"),
  ("id-aca-chargingIdentity", "1.3.6.1.5.5.7.10.3"), ("id-aca-group", "1.3.6.1.5.5.7.10.4"),
  ("id-aca-encAttrs", "1.3.6.1.5.5.7.10.6"), ("id-cct", "1.3.6.1.5.5.7.12"),
  ("id-cct-PKIData", "1.3.6.1.5.5.7.12.2"), ("id-cct-PKIResponse", "1.3.6.1.5.5.7.12.3"),
  ("id-stc", "1.3.6.1.5.5.7.17"), ("id-stc-build-pkc-path", "1.3.6.1.5.5.7.17.1"),
  ("id-stc-build-valid-pkc-path", "1.3.6.1.5.5.7.17.2"),
  ("id-stc-build-status-checked-pkc-path", "1.3.6.1.5.5.7.17.3"),
  ("id-stc-build-aa-path", "1.3.6.1.5.5.7.17.4"),
  ("id-stc-build-valid-aa-path", "1.3.6.1.5.5.7.17.5"),
  ("id-stc-build-status-checked-aa-path", "1.3.6.1.5.5.7.17.6"),
  ("id-stc-status-check-ac-and-build-status-checked-aa-path", "1.3.6.1.5.5.7.17.7"),
  ("id-swb", "1.3.6.1.5.5.7.18"), ("id-swb-pkc-best-cert-path", "1.3.6.1.5.5.7.18.1"),
  ("id-swb-pkc-cert", "1.3.6.1.5.5.7.18.10"), ("id-swb-ac-cert", "1.3.6.1.5.5.7.18.11"),
  ("id-swb-pkc-all-cert-paths", "1.3.6.1.5.5.7.18.12"),
  ("id-swb-pkc-ee-revocation-info", "1.3.6.1.5.5.7.18.13"),
  ("id-swb-pkc-CAs-revocation-info", "1.3.6.1.5.5.7.18.14"),
  ("id-swb-pkc-revocation-info", "1.3.6.1.5.5.7.18.2"),
  ("id-swb-pkc-public-key-info", "1.3.6.1.5.5.7.18.4"),
  ("id-swb-aa-cert-path", "1.3.6.1.5.5.7.18.5"),
  ("id-swb-aa-revocation-info", "1.3.6.1.5.5.7.18.6"),
  ("id-swb-ac-revocation-info", "1.3.6.1.5.5.7.18.7"),
  ("id-swb-relayed-responses", "1.3.6.1.5.5.7.18.9"), ("id-svp", "1.3.6.1.5.5.7.19"),
  ("id-svp-defaultValPolicy", "1.3.6.1.5.5.7.19.1"), ("id-svp-nameValAlg", "1.3.6.1.5.5.7.19.2"),
  ("id-svp-basicValAlg", "1.3.6.1.5.5.7.19.3"), ("NameCompAlgSet", "1.3.6.1.5.5.7.19.4"),
  ("id-nva-dnCompAlg", "1.3.6.1.5.5.7.19.4"), ("id-qt", "1.3.6.1.5.5.7.2"),
  ("id-qt-cps", "1.3.6.1.5.5.7.2.1"), ("id-qt-unotice", "1.3.6.1.5.5.7.2.2"),
  ("id-kp", "1.3.6.1.5.5.7.3"), ("id-kp-serverAuth", "1.3.6.1.5.5.7.3.1"),
  ("id-kp-scvpServer", "1.3.6.1.5.5.7.3.15"), ("id-kp-scvpClient", "1.3.6.1.5.5.7.3.16"),
  ("id-kp-clientAuth", "1.3.6.1.5.5.7.3.2"), ("id-kp-codeSigning", "1.3.6.1.5.5.7.3.3"),
  ("id-kp-emailProtection", "1.3.6.1.5.5.7.3.4"), ("id-kp-timeStamping", "1.3.6.1.5.5.7.3.8"),
  ("id-kp-OCSPSigning", "1.3.6.1.5.5.7.3.9"), ("id-it", "1.3.6.1.5.5.7.4"),
  ("id-it-caProtEncCert", "1.3.6.1.5.5.7.4.1"), ("id-it-keyPairParamReq", "1.3.6.1.5.5.7.4.10"),
  ("id-it-keyPairParamRep", "1.3.6.1.5.5.7.4.11"), ("id-it-revPassphrase", "1.3.6.1.5.5.7.4.12"),
  ("id-it-implicitConfirm", "1.3.6.1.5.5.7.4.13"),
  ("id-it-confirmWaitTime", "1.3.6.1.5.5.7.4.14"), ("id-it-origPKIMessage", "1.3.6.1.5.5.7.4.15"),
  ("id-it-suppLangTags", "1.3.6.1.5.5.7.4.16"), ("id-it-signKeyPairTypes", "1.3.6.1.5.5.7.4.2"),
  ("id-it-encKeyPairTypes", "1.3.6.1.5.5.7.4.3"), ("id-it-preferredSymmAlg", "1.3.6.1.5.5.7.4.4"),
  ("id-it-caKeyUpdateInfo", "1.3.6.1.5.5.7.4.5"), ("id-it-currentCRL", "1.3.6.1.5.5.7.4.6"),
  ("id-it-unsupportedOIDs", "1.3.6.1.5.5.7.4.7"), ("id-ad", "1.3.6.1.5.5.7.48"),
  ("id-ad-ocsp", "1.3.6.1.5.5.7.48.1"), ("id-ad-caIssuers", "1.3.6.1.5.5.7.48.2"),
  ("id-ad-timeStamping", "1.3.6.1.5.5.7.48.3"), ("id-ad-caRepository", "1.3.6.1.5.5.7.48.5"),
  ("id-pkip", "1.3.6.1.5.5.7.5"), ("id-regCtrl", "1.3.6.1.5.5.7.5.1"),
  ("id-regCtrl-regToken", "1.3.6.1.5.5.7.5.1.1"),
  ("id-regCtrl-authenticator", "1.3.6.1.5.5.7.5.1.2"),
  ("id-regCtrl-pkiPublicationInfo", "1.3.6.1.5.5.7.5.1.3"),
  ("id-regCtrl-pkiArchiveOptions", "1.3.6.1.5.5.7.5.1.4"),
  ("id-regCtrl-oldCertID", "1.3.6.1.5.5.7.5.1.5"),
  ("id-regCtrl-protocolEncrKey", "1.3.6.1.5.5.7.5.1.6"), ("id-regInfo", "1.3.6.1.5.5.7.5.2"),
  ("id-regInfo-utf8Pairs", "1.3.6.1.5.5.7.5.2.1"), ("id-regInfo-certReq", "1.3.6.1.5.5.7.5.2.2"),
  ("id-alg-noSignature", "1.3.6.1.5.5.7.6.2"), ("id-cmc", "1.3.6.1.5.5.7.7"),
  ("id-cmc-statusInfo", "1.3.6.1.5.5.7.7.1"), ("id-cmc-decryptedPOP", "1.3.6.1.5.5.7.7.10"),
  ("id-cmc-lraPOPWitness", "1.3.6.1.5.5.7.7.11"), ("id-cmc-getCert", "1.3.6.1.5.5.7.7.15"),
  ("id-cmc-getCRL", "1.3.6.1.5.5.7.7.16"), ("id-cmc-revokeRequest", "1.3.6.1.5.5.7.7.17"),
  ("id-cmc-regInfo", "1.3.6.1.5.5.7.7.18"), ("id-cmc-responseInfo", "1.3.6.1.5.5.7.7.19"),
  ("id-cmc-identification", "1.3.6.1.5.5.7.7.2"), ("id-cmc-queryPending", "1.3.6.1.5.5.7.7.21"),
  ("id-cmc-popLinkRandom", "1.3.6.1.5.5.7.7.22"), ("id-cmc-popLinkWitness", "1.3.6.1.5.5.7.7.23"),
  ("id-cmc-confirmCertAcceptance", "1.3.6.1.5.5.7.7.24"),
  ("id-cmc-statusInfoV2", "1.3.6.1.5.5.7.7.25"), ("id-cmc-trustedAnchors", "1.3.6.1.5.5.7.7.26"),
  ("id-cmc-authData", "1.3.6.1.5.5.7.7.27"), ("id-cmc-batchRequests", "1.3.6.1.5.5.7.7.28"),
  ("id-cmc-batchResponses", "1.3.6.1.5.5.7.7.29"), ("id-cmc-identityProof", "1.3.6.1.5.5.7.7.3"),
  ("id-cmc-publishCert", "1.3.6.1.5.5.7.7.30"), ("id-cmc-modCertTemplate", "1.3.6.1.5.5.7.7.31"),
  ("id-cmc-controlProcessed", "1.3.6.1.5.5.7.7.32"),
  ("id-cmc-identityProofV2", "1.3.6.1.5.5.7.7.33"),
  ("id-cmc-popLinkWitnessV2", "1.3.6.1.5.5.7.7.34"), ("id-cmc-dataReturn", "1.3.6.1.5.5.7.7.4"),
  ("id-cmc-transactionId", "1.3.6.1.5.5.7.7.5"), ("id-cmc-senderNonce", "1.3.6.1.5.5.7.7.6"),
  ("id-cmc-recipientNonce", "1.3.6.1.5.5.7.7.7"), ("id-cmc-addExtensions", "1.3.6.1.5.5.7.7.8"),
  ("id-cmc-encryptedPOP", "1.3.6.1.5.5.7.7.9"),
  ("id-keyExchangeAlgorithm", "2.16.840.1.101.2.1.1.22"), ("id-sha256", "2.16.840.1.101.3.4.2.1"),
  ("id-sha384", "2.16.840.1.101.3.4.2.2"), ("id-sha512", "2.16.840.1.101.3.4.2.3"),
  ("id-sha224", "2.16.840.1.101.3.4.2.4"), ("dsa-with-sha224", "2.16.840.1.101.3.4.3.1"),
  ("dsa-with-sha256", "2.16.840.1.101.3.4.3.2"), ("holdInstruction", "2.2.840.10040.2"),
  ("id-holdinstruction-none", "2.2.840.10040.2.1"),
  ("id-holdinstruction-callissuer", "2.2.840.10040.2.2"),
  ("id-holdinstruction-reject", "2.2.840.10040.2.3"), ("id-ce", "2.5.29"),
  ("id-ce-subjectKeyIdentifier", "2.5.29.14"), ("id-ce-keyUsage", "2.5.29.15"),
  ("id-ce-privateKeyUsagePeriod", "2.5.29.16"), ("id-ce-subjectAltName", "2.5.29.17"),
  ("id-ce-issuerAltName", "2.5.29.18"), ("id-ce-basicConstraints", "2.5.29.19"),
  ("id-ce-cRLNumber", "2.5.29.20"), ("id-ce-cRLReasons", "2.5.29.21"),
  ("id-ce-holdInstructionCode", "2.5.29.23"), ("id-ce-invalidityDate", "2.5.29.24"),
  ("id-ce-deltaCRLIndicator", "2.5.29.27"), ("id-ce-issuingDistributionPoint", "2.5.29.28"),
  ("id-ce-certificateIssuer", "2.5.29.29"), ("id-ce-nameConstraints", "2.5.29.30"),
  ("id-ce-cRLDistributionPoints", "2.5.29.31"), ("id-ce-certificatePolicies", "2.5.29.32"),
  ("id-ce-policyMappings", "2.5.29.33"), ("id-ce-authorityKeyIdentifier", "2.5.29.35"),
  ("id-ce-policyConstraints", "2.5.29.36"), ("id-ce-extKeyUsage", "2.5.29.37"),
  ("anyExtendedKeyUsage", "2.5.29.37.0"), ("id-ce-freshestCRL", "2.5.29.46"),
  ("id-ce-inhibitAnyPolicy", "2.5.29.54"), ("id-ce-targetInformation", "2.5.29.55"),
  ("id-ce-noRevAvail", "2.5.29.56"), ("id-ce-subjectDirectoryAttributes", "2.5.29.9"),
  ("id-at", "2.5.4"), ("id-at-role", "2.5.4.72"),
  ("LDIFLocationURLObject", "1.3.6.1.4.1.16572.2.1.1"), ("provider", "1.3.6.1.4.1.16572.2.1.2"),
  ("providerCertificateHash", "1.3.6.1.4.1.16572.2.2.1"),
  ("providerCertificate", "1.3.6.1.4.1.16572.2.2.2"), ("providerName", "1.3.6.1.4.1.16572.2.2.3"),
  ("mailReceipt", "1.3.6.1.4.1.16572.2.2.4"), ("managedDomains", "1.3.6.1.4.1.16572.2.2.5"),
  ("LDIFLocationURL", "1.3.6.1.4.1.16572.2.2.6"), ("providerUnit", "1.3.6.1.4.1.16572.2.2.7"),
  ("rsadsi", "1.2.840.113549"), ("id-data", "1.2.840.113549.1.7.1"),
  ("id-signedData", "1.2.840.113549.1.7.2"), ("id-envelopedData", "1.2.840.113549.1.7.3"),
  ("id-digestedData", "1.2.840.113549.1.7.5"), ("id-encryptedData", "1.2.840.113549.1.7.6"),
  ("id-ct-contentCollection", "1.2.840.113549.1.9.16.1.19"),
  ("id-ct-authData", "1.2.840.113549.1.9.16.1.2"),
  ("id-ct-contentWithAttrs", "1.2.840.113549.1.9.16.1.20"),
  ("id-ct-authEnvelopedData", "1.2.840.113549.1.9.16.1.23"),
  ("id-ct-contentInfo", "1.2.840.113549.1.9.16.1.6"),
  ("id-ct-compressedData", "1.2.840.113549.1.9.16.1.9"),
  ("id-aa-binarySigningTime", "1.2.840.113549.1.9.16.2.46"),
  ("id-alg-zlibCompress", "1.2.840.113549.1.9.16.3.8"),
  ("id-aa-multipleSignatures", "1.2.840.113549.1.9.2.51"),
  ("id-contentType", "1.2.840.113549.1.9.3"), ("id-messageDigest", "1.2.840.113549.1.9.4"),
  ("id-signingTime", "1.2.840.113549.1.9.5"), ("id-countersignature", "1.2.840.113549.1.9.6"),
  ("digestAlgorithm", "1.2.840.113549.2"), ("id-hmacWithSHA384", "1.2.840.113549.2.10"),
  ("id-hmacWithSHA512", "1.2.840.113549.2.11"), ("id-hmacWithSHA224", "1.2.840.113549.2.8"),
  ("id-hmacWithSHA256", "1.2.840.113549.2.9"), ("id-pkix-ocsp", "1.3.6.1.5.5.7.48.1"),
  ("id-pkix-ocsp-basic", "1.3.6.1.5.5.7.48.1.1"), ("id-pkix-ocsp-nonce", "1.3.6.1.5.5.7.48.1.2"),
  ("id-pkix-ocsp-crl", "1.3.6.1.5.5.7.48.1.3"), ("id-pkix-ocsp-response", "1.3.6.1.5.5.7.48.1.4"),
  ("id-pkix-ocsp-nocheck", "1.3.6.1.5.5.7.48.1.5"),
  ("id-pkix-ocsp-archive-cutoff", "1.3.6.1.5.5.7.48.1.6"),
  ("id-pkix-ocsp-service-locator", "1.3.6.1.5.5.7.48.1.7"),
  ("id-pkix-ocsp-pref-sig-algs", "1.3.6.1.5.5.7.48.1.8"),
  ("id-pkix-ocsp-extended-revoke", "1.3.6.1.5.5.7.48.1.9"), ("google", "1.3.6.1.4.1.11129"),
  ("ct-precert-scts", "1.3.6.1.4.1.11129.2.4.2"),
  ("ct-precert-poison", "1.3.6.1.4.1.11129.2.4.3"),
  ("ct-precert-signing-cert", "1.3.6.1.4.1.11129.2.4.4"), ("id-smime", "1.2.840.113549.1.9.16"),
  ("id-mod", "1.2.840.113549.1.9.16.0"), ("id-ct", "1.2.840.113549.1.9.16.1"),
  ("id-eit", "1.2.840.113549.1.9.16.10"), ("id-cap", "1.2.840.113549.1.9.16.11"),
  ("id-pskc", "1.2.840.113549.1.9.16.12"), ("id-aa", "1.2.840.113549.1.9.16.2"),
  ("id-alg", "1.2.840.113549.1.9.16.3"), ("id-cd", "1.2.840.113549.1.9.16.4"),
  ("id-spq", "1.2.840.113549.1.9.16.5"), ("id-cti", "1.2.840.113549.1.9.16.6"),
  ("id-tsp", "1.2.840.113549.1.9.16.7"), ("id-skd", "1.2.840.113549.1.9.16.8"),
  ("id-sti", "1.2.840.113549.1.9.16.9"), ("id-pkix", "1.3.6.1.5.5.7"),
  ("id-mod", "1.3.6.1.5.5.7.0"), ("id-pe", "1.3.6.1.5.5.7.1"), ("id-aca", "1.3.6.1.5.5.7.10"),
  ("id-qcs", "1.3.6.1.5.5.7.11"), ("id-cct", "1.3.6.1.5.5.7.12"), ("id-TEST", "1.3.6.1.5.5.7.13"),
  ("id-cp", "1.3.6.1.5.5.7.14"), ("id-cet", "1.3.6.1.5.5.7.15"), ("id-ri", "1.3.6.1.5.5.7.16"),
  ("id-sct", "1.3.6.1.5.5.7.17"), ("id-swb", "1.3.6.1.5.5.7.18"), ("id-svp", "1.3.6.1.5.5.7.19"),
  ("id-nvae", "1.3.6.1.5.5.7.19.2"), ("id-bvae", "1.3.6.1.5.5.7.19.3"),
  ("id-dnvae", "1.3.6.1.5.5.7.19.4"), ("id-qt", "1.3.6.1.5.5.7.2"),
  ("id-logo", "1.3.6.1.5.5.7.20"), ("id-ppl", "1.3.6.1.5.5.7.21"), ("id-mr", "1.3.6.1.5.5.7.22"),
  ("id-skis", "1.3.6.1.5.5.7.23"), ("id-kp", "1.3.6.1.5.5.7.3"), ("id-it", "1.3.6.1.5.5.7.4"),
  ("id-ad", "1.3.6.1.5.5.7.48"), ("id-pkix-ocsp", "1.3.6.1.5.5.7.48.1"),
  ("id-pkip", "1.3.6.1.5.5.7.5"), ("id-regCtrl", "1.3.6.1.5.5.7.5.1"),
  ("id-regInfo", "1.3.6.1.5.5.7.5.2"), ("id-alg", "1.3.6.1.5.5.7.6"),
  ("id-cmc", "1.3.6.1.5.5.7.7"), ("id-cmc-glaRR", "1.3.6.1.5.5.7.7.99"),
  ("id-on", "1.3.6.1.5.5.7.8"), ("id-pda", "1.3.6.1.5.5.7.9"),
  ("fedfsUuid", "1.3.6.1.4.1.31103.1.1"), ("fedfsFslPort", "1.3.6.1.4.1.31103.1.10"),
  ("fedfsNfsPath", "1.3.6.1.4.1.31103.1.100"),
  ("fedfsNsdbContainerInfo", "1.3.6.1.4.1.31103.1.1001"),
  ("fedfsFsn", "1.3.6.1.4.1.31103.1.1002"), ("fedfsFsl", "1.3.6.1.4.1.31103.1.1003"),
  ("fedfsNfsFsl", "1.3.6.1.4.1.31103.1.1004"), ("fedfsNfsMajorVer", "1.3.6.1.4.1.31103.1.101"),
  ("fedfsNfsMinorVer", "1.3.6.1.4.1.31103.1.102"),
  ("fedfsNfsCurrency", "1.3.6.1.4.1.31103.1.103"),
  ("fedfsNfsGenFlagWritable", "1.3.6.1.4.1.31103.1.104"),
  ("fedfsNfsGenFlagGoing", "1.3.6.1.4.1.31103.1.105"),
  ("fedfsNfsGenFlagSplit", "1.3.6.1.4.1.31103.1.106"),
  ("fedfsNfsTransFlagRdma", "1.3.6.1.4.1.31103.1.107"),
  ("fedfsNfsClassSimul", "1.3.6.1.4.1.31103.1.108"),
  ("fedfsNfsClassHandle", "1.3.6.1.4.1.31103.1.109"), ("fedfsFslTTL", "1.3.6.1.4.1.31103.1.11"),
  ("fedfsNfsClassFileid", "1.3.6.1.4.1.31103.1.110"),
  ("fedfsNfsClassWritever", "1.3.6.1.4.1.31103.1.111"),
  ("fedfsNfsClassChange", "1.3.6.1.4.1.31103.1.112"),
  ("fedfsNfsClassReaddir", "1.3.6.1.4.1.31103.1.113"),
  ("fedfsNfsReadRank", "1.3.6.1.4.1.31103.1.114"),
  ("fedfsNfsReadOrder", "1.3.6.1.4.1.31103.1.115"),
  ("fedfsNfsWriteRank", "1.3.6.1.4.1.31103.1.116"),
  ("fedfsNfsWriteOrder", "1.3.6.1.4.1.31103.1.117"),
  ("fedfsNfsVarSub", "1.3.6.1.4.1.31103.1.118"), ("fedfsNfsValidFor", "1.3.6.1.4.1.31103.1.119"),
  ("fedfsAnnotation", "1.3.6.1.4.1.31103.1.12"), ("fedfsNfsURI", "1.3.6.1.4.1.31103.1.120"),
  ("fedfsDescr", "1.3.6.1.4.1.31103.1.13"), ("fedfsNceDN", "1.3.6.1.4.1.31103.1.14"),
  ("fedfsFsnTTL", "1.3.6.1.4.1.31103.1.15"), ("fedfsNetAddr", "1.3.6.1.4.1.31103.1.2"),
  ("fedfsNetPort", "1.3.6.1.4.1.31103.1.3"), ("fedfsFsnUuid", "1.3.6.1.4.1.31103.1.4"),
  ("fedfsNsdbName", "1.3.6.1.4.1.31103.1.5"), ("fedfsNsdbPort", "1.3.6.1.4.1.31103.1.6"),
  ("fedfsNcePrefix", "1.3.6.1.4.1.31103.1.7"), ("fedfsFslUuid", "1.3.6.1.4.1.31103.1.8"),
  ("fedfsFslHost", "1.3.6.1.4.1.31103.1.9"), ("printer-device-id", "1.3.18.0.2.24.46.1.101"),
  ("printer-device-service-count", "1.3.18.0.2.24.46.1.102"),
  ("printer-uuid", "1.3.18.0.2.24.46.1.104"), ("printer-charge-info", "1.3.18.0.2.24.46.1.105"),
  ("printer-charge-info-uri", "1.3.18.0.2.24.46.1.106"),
  ("printer-geo-location", "1.3.18.0.2.24.46.1.107"),
  ("printer-ipp-features-supported", "1.3.18.0.2.24.46.1.108"), ("JIDObject", "1.3.6.1.1.23.1"),
  ("jid", "1.3.6.1.1.23.2"), ("id-edwards-curve-algs", "1.3.101"), ("id-X25519", "1.3.101.110"),
  ("id-X448", "1.3.101.111"), ("id-Ed25519", "1.3.101.112"), ("id-Ed448", "1.3.101.113"),
  ("id-VeriSign", "2.16.840.1.113733"), ("id-pki", "2.16.840.1.113733.1"),
  ("id-attributes", "2.16.840.1.113733.1.9"), ("id-messageType", "2.16.840.1.113733.1.9.2"),
  ("id-pkiStatus", "2.16.840.1.113733.1.9.3"), ("id-failInfo", "2.16.840.1.113733.1.9.4"),
  ("id-senderNonce", "2.16.840.1.113733.1.9.5"), ("id-recipientNonce", "2.16.840.1.113733.1.9.6"),
  ("id-transactionID", "2.16.840.1.113733.1.9.7")]

end GridAuthz.Oid.Registry
