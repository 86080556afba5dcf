/-!
# Names of directory schemas

Names registered for attributes, object classes and matching rules of directories.
-/

namespace GridAuthz.Oid.Registry

/-- The names, with the dotted texts of their identifiers. -/
def schema : List (String × String) := [
  ("objectClass", "2.5.4.0"), ("aliasedObjectName", "2.5.4.1"), ("top", "2.5.6.0"),
  ("alias", "2.5.6.1"), ("caseExactIA5Match", "1.3.6.1.4.1.1466.109.114.1"),
  ("caseIgnoreIA5Match", "1.3.6.1.4.1.1466.109.114.2"),
  ("caseIgnoreIA5SubstringsMatch", "1.3.6.1.4.1.1466.109.114.3"),
  ("objectIdentifierMatch", "2.5.13.0"), ("distinguishedNameMatch", "2.5.13.1"),
  ("numericStringSubstringsMatch", "2.5.13.10"), ("caseIgnoreListMatch", "2.5.13.11"),
  ("caseIgnoreListSubstringsMatch", "2.5.13.12"), ("booleanMatch", "2.5.13.13"),
  ("integerMatch", "2.5.13.14"), ("integerOrderingMatch", "2.5.13.15"),
  ("bitStringMatch", "2.5.13.16"), ("octetStringMatch", "2.5.13.17"),
  ("octetStringOrderingMatch", "2.5.13.18"), ("caseIgnoreMatch", "2.5.13.2"),
  ("telephoneNumberMatch", "2.5.13.20"), ("telephoneNumberSubstringsMatch", "2.5.13.21"),
  ("uniqueMemberMatch", "2.5.13.23"), ("generalizedTimeMatch", "2.5.13.27"),
  ("generalizedTimeOrderingMatch", "2.5.13.28"), ("integerFirstComponentMatch", "2.5.13.29"),
  ("caseIgnoreOrderingMatch", "2.5.13.3"), ("objectIdentifierFirstComponentMatch", "2.5.13.30"),
  ("directoryStringFirstComponentMatch", "2.5.13.31"), ("wordMatch", "2.5.13.32"),
  ("keywordMatch", "2.5.13.33"), ("caseIgnoreSubstringsMatch", "2.5.13.4"),
  ("caseExactMatch", "2.5.13.5"), ("caseExactOrderingMatch", "2.5.13.6"),
  ("caseExactSubstringsMatch", "2.5.13.7"), ("numericStringMatch", "2.5.13.8"),
  ("numericStringOrderingMatch", "2.5.13.9"), ("uid", "0.9.2342.19200300.100.1.1"),
  ("userId", "0.9.2342.19200300.100.1.1"), ("DC", "0.9.2342.19200300.100.1.25"),
  ("domainComponent", "0.9.2342.19200300.100.1.25"), ("uidObject", "1.3.6.1.1.3.1"),
  ("dcObject", "1.3.6.1.4.1.1466.344"), ("o", "2.5.4.10"), ("organizationName", "2.5.4.10"),
  ("ou", "2.5.4.11"), ("organizationalUnitName", "2.5.4.11"), ("title", "2.5.4.12"),
  ("description", "2.5.4.13"), ("searchGuide", "2.5.4.14"), ("businessCategory", "2.5.4.15"),
  ("postalAddress", "2.5.4.16"), ("postalCode", "2.5.4.17"), ("postOfficeBox", "2.5.4.18"),
  ("physicalDeliveryOfficeName", "2.5.4.19"), ("telephoneNumber", "2.5.4.20"),
  ("telexNumber", "2.5.4.21"), ("teletexTerminalIdentifier", "2.5.4.22"),
  ("facsimileTelephoneNumber", "2.5.4.23"), ("x121Address", "2.5.4.24"),
  ("internationaliSDNNumber", "2.5.4.25"), ("registeredAddress", "2.5.4.26"),
  ("destinationIndicator", "2.5.4.27"), ("preferredDeliveryMethod", "2.5.4.28"),
  ("cn", "2.5.4.3"), ("commonName", "2.5.4.3"), ("member", "2.5.4.31"), ("owner", "2.5.4.32"),
  ("roleOccupant", "2.5.4.33"), ("seeAlso", "2.5.4.34"), ("userPassword", "2.5.4.35"),
  ("sn", "2.5.4.4"), ("surname", "2.5.4.4"), ("name", "2.5.4.41"), ("givenName", "2.5.4.42"),
  ("initials", "2.5.4.43"), ("generationQualifier", "2.5.4.44"),
  ("x500UniqueIdentifier", "2.5.4.45"), ("dnQualifier", "2.5.4.46"),
  ("enhancedSearchGuide", "2.5.4.47"), ("distinguishedName", "2.5.4.49"),
  ("serialNumber", "2.5.4.5"), ("uniqueMember", "2.5.4.50"), ("houseIdentifier", "2.5.4.51"),
  ("c", "2.5.4.6"), ("countryName", "2.5.4.6"), ("L", "2.5.4.7"), ("localityName", "2.5.4.7"),
  ("st", "2.5.4.8"), ("street", "2.5.4.9"), ("residentialPerson", "2.5.6.10"),
  ("applicationProcess", "2.5.6.11"), ("device", "2.5.6.14"), ("groupOfUniqueNames", "2.5.6.17"),
  ("country", "2.5.6.2"), ("locality", "2.5.6.3"), ("organization", "2.5.6.4"),
  ("organizationalUnit", "2.5.6.5"), ("person", "2.5.6.6"), ("organizationalPerson", "2.5.6.7"),
  ("organizationalRole", "2.5.6.8"), ("groupOfNames", "2.5.6.9"),
  ("certificateExactMatch", "2.5.13.34"), ("certificateMatch", "2.5.13.35"),
  ("certificatePairExactMatch", "2.5.13.36"), ("certificatePairMatch", "2.5.13.37"),
  ("certificateListExactMatch", "2.5.13.38"), ("certificateListMatch", "2.5.13.39"),
  ("algorithmIdentifierMatch", "2.5.13.40"), ("userCertificate", "2.5.4.36"),
  ("cACertificate", "2.5.4.37"), ("authorityRevocationList", "2.5.4.38"),
  ("certificateRevocationList", "2.5.4.39"), ("crossCertificatePair", "2.5.4.40"),
  ("supportedAlgorithms", "2.5.4.52"), ("deltaRevocationList", "2.5.4.53"),
  ("strongAuthenticationUser", "2.5.6.15"), ("certificationAuthority", "2.5.6.16"),
  ("certificationAuthority-V2", "2.5.6.16.2"), ("userSecurityInformation", "2.5.6.18"),
  ("cRLDistributionPoint", "2.5.6.19"), ("pkiUser", "2.5.6.21"), ("pkiCA", "2.5.6.22"),
  ("deltaCRL", "2.5.6.23"), ("manager", "0.9.2342.19200300.100.1.10"),
  ("documentIdentifier", "0.9.2342.19200300.100.1.11"),
  ("documentTitle", "0.9.2342.19200300.100.1.12"),
  ("documentVersion", "0.9.2342.19200300.100.1.13"),
  ("documentAuthor", "0.9.2342.19200300.100.1.14"),
  ("documentLocation", "0.9.2342.19200300.100.1.15"), ("homePhone", "0.9.2342.19200300.100.1.20"),
  ("homeTelephone", "0.9.2342.19200300.100.1.20"), ("secretary", "0.9.2342.19200300.100.1.21"),
  ("mail", "0.9.2342.19200300.100.1.3"), ("RFC822Mailbox", "0.9.2342.19200300.100.1.3"),
  ("associatedDomain", "0.9.2342.19200300.100.1.37"),
  ("associatedName", "0.9.2342.19200300.100.1.38"),
  ("homePostalAddress", "0.9.2342.19200300.100.1.39"), ("info", "0.9.2342.19200300.100.1.4"),
  ("personalTitle", "0.9.2342.19200300.100.1.40"), ("mobile", "0.9.2342.19200300.100.1.41"),
  ("mobileTelephoneNumber", "0.9.2342.19200300.100.1.41"),
  ("pager", "0.9.2342.19200300.100.1.42"), ("pagerTelephoneNumber", "0.9.2342.19200300.100.1.42"),
  ("co", "0.9.2342.19200300.100.1.43"), ("friendlyCountryName", "0.9.2342.19200300.100.1.43"),
  ("uniqueIdentifier", "0.9.2342.19200300.100.1.44"),
  ("organizationalStatus", "0.9.2342.19200300.100.1.45"),
  ("buildingName", "0.9.2342.19200300.100.1.48"), ("drink", "0.9.2342.19200300.100.1.5"),
  ("favouriteDrink", "0.9.2342.19200300.100.1.5"),
  ("singleLevelQuality", "0.9.2342.19200300.100.1.50"),
  ("documentPublisher", "0.9.2342.19200300.100.1.56"),
  ("roomNumber", "0.9.2342.19200300.100.1.6"), ("userClass", "0.9.2342.19200300.100.1.8"),
  ("host", "0.9.2342.19200300.100.1.9"), ("domain", "0.9.2342.19200300.100.4.13"),
  ("RFC822LocalPart", "0.9.2342.19200300.100.4.14"),
  ("domainRelatedObject", "0.9.2342.19200300.100.4.17"),
  ("friendlyCountry", "0.9.2342.19200300.100.4.18"),
  ("simpleSecurityObject", "0.9.2342.19200300.100.4.19"),
  ("account", "0.9.2342.19200300.100.4.5"), ("document", "0.9.2342.19200300.100.4.6"),
  ("room", "0.9.2342.19200300.100.4.7"), ("documentSeries", "0.9.2342.19200300.100.4.8"),
  ("uuidMatch", "1.3.6.1.1.16.2"), ("uuidOrderingMatch", "1.3.6.1.1.16.3"),
  ("entryUUID", "1.3.6.1.1.16.4"), ("defaultServerList", "1.3.6.1.4.1.11.1.3.1.1.0"),
  ("defaultSearchBase", "1.3.6.1.4.1.11.1.3.1.1.1"),
  ("credentialLevel", "1.3.6.1.4.1.11.1.3.1.1.10"),
  ("objectclassMap", "1.3.6.1.4.1.11.1.3.1.1.11"),
  ("defaultSearchScope", "1.3.6.1.4.1.11.1.3.1.1.12"),
  ("serviceCredentialLevel", "1.3.6.1.4.1.11.1.3.1.1.13"),
  ("serviceSearchDescriptor", "1.3.6.1.4.1.11.1.3.1.1.14"),
  ("serviceAuthenticationMethod", "1.3.6.1.4.1.11.1.3.1.1.15"),
  ("dereferenceAliases", "1.3.6.1.4.1.11.1.3.1.1.16"),
  ("preferredServerList", "1.3.6.1.4.1.11.1.3.1.1.2"),
  ("searchTimeLimit", "1.3.6.1.4.1.11.1.3.1.1.3"), ("bindTimeLimit", "1.3.6.1.4.1.11.1.3.1.1.4"),
  ("followReferrals", "1.3.6.1.4.1.11.1.3.1.1.5"),
  ("authenticationMethod", "1.3.6.1.4.1.11.1.3.1.1.6"),
  ("profileTTL", "1.3.6.1.4.1.11.1.3.1.1.7"), ("attributeMap", "1.3.6.1.4.1.11.1.3.1.1.9"),
  ("DUAConfigProfile", "1.3.6.1.4.1.11.1.3.1.2.5"), ("entryDN", "1.3.6.1.1.20"),
  ("pkcs-9", "1.2.840.113549.1.9"), ("id-pkix", "1.3.6.1.5.5.7"), ("id-pe", "1.3.6.1.5.5.7.1"),
  ("id-pe-authorityInfoAccess", "1.3.6.1.5.5.7.1.1"),
  ("id-pe-subjectInfoAccess", "1.3.6.1.5.5.7.1.11"), ("id-qt", "1.3.6.1.5.5.7.2"),
  ("id-qt-cps", "1.3.6.1.5.5.7.2.1"), ("id-qt-unotice", "1.3.6.1.5.5.7.2.2"),
  ("id-kp", "1.3.6.1.5.5.7.3"), ("id-kp-serverAuth", "1.3.6.1.5.5.7.3.1"),
  ("id-kp-clientAuth", "1.3.6.1.5.5.7.3.2"), ("id-kp-codeSigning", "1.3.6.1.5.5.7.3.3"),
  ("id-kp-emailProtection", "1.3.6.1.5.5.7.3.4"), ("id-kp-timeStamping", "1.3.6.1.5.5.7.3.8"),
  ("id-kp-OCSPSigning", "1.3.6.1.5.5.7.3.9"), ("id-ad", "1.3.6.1.5.5.7.48"),
  ("id-ad-ocsp", "1.3.6.1.5.5.7.48.1"), ("id-ad-caIssuers", "1.3.6.1.5.5.7.48.2"),
  ("id-ad-timeStamping", "1.3.6.1.5.5.7.48.3"), ("id-ad-caRepository", "1.3.6.1.5.5.7.48.5"),
  ("holdInstruction", "2.2.840.10040.2"), ("id-holdinstruction-none", "2.2.840.10040.2.1"),
  ("id-holdinstruction-callissuer", "2.2.840.10040.2.2")]

end GridAuthz.Oid.Registry
