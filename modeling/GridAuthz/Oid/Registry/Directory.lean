/-!
# Names of directory services

Names registered for directory protocols, controls, operations and printers.
-/

namespace GridAuthz.Oid.Registry

/-- The names, with the dotted texts of their identifiers. -/
def directory : List (String × String) := [
  ("textEncodedORAddress", "0.9.2342.19200300.100.1.2"),
  ("otherMailbox", "0.9.2342.19200300.100.1.22"),
  ("lastModifiedTime", "0.9.2342.19200300.100.1.23"),
  ("lastModifiedBy", "0.9.2342.19200300.100.1.24"), ("aRecord", "0.9.2342.19200300.100.1.26"),
  ("mDRecord", "0.9.2342.19200300.100.1.27"), ("mXRecord", "0.9.2342.19200300.100.1.28"),
  ("nSRecord", "0.9.2342.19200300.100.1.29"), ("sOARecord", "0.9.2342.19200300.100.1.30"),
  ("cNAMERecord", "0.9.2342.19200300.100.1.31"), ("janetMailbox", "0.9.2342.19200300.100.1.46"),
  ("mailPreferenceOption", "0.9.2342.19200300.100.1.47"),
  ("dSAQuality", "0.9.2342.19200300.100.1.49"),
  ("subtreeMinimumQuality", "0.9.2342.19200300.100.1.51"),
  ("subtreeMaximumQuality", "0.9.2342.19200300.100.1.52"),
  ("personalSignature", "0.9.2342.19200300.100.1.53"),
  ("dITRedirect", "0.9.2342.19200300.100.1.54"), ("audio", "0.9.2342.19200300.100.1.55"),
  ("photo", "0.9.2342.19200300.100.1.7"), ("dNSDomain", "0.9.2342.19200300.100.4.15"),
  ("pilotOrganization", "0.9.2342.19200300.100.4.20"), ("pilotDSA", "0.9.2342.19200300.100.4.21"),
  ("qualityLabelledData", "0.9.2342.19200300.100.4.22"),
  ("pilotObject", "0.9.2342.19200300.100.4.3"), ("pilotPerson", "0.9.2342.19200300.100.4.4"),
  ("labeledURI", "1.3.6.1.4.1.250.1.57"), ("labeledURIObject", "1.3.6.1.4.1.250.3.15"),
  ("rFC822ToX400Mapping", "1.3.6.1.4.1.453.7.1.1"),
  ("x400ToRFC822Mapping", "1.3.6.1.4.1.453.7.1.2"),
  ("omittedORAddressComponent", "1.3.6.1.4.1.453.7.1.3"),
  ("mixerGateway", "1.3.6.1.4.1.453.7.1.4"), ("associatedX400Gateway", "1.3.6.1.4.1.453.7.2.3"),
  ("associatedORAddress", "1.3.6.1.4.1.453.7.2.6"),
  ("oRAddressComponentType", "1.3.6.1.4.1.453.7.2.7"),
  ("associatedInternetGateway", "1.3.6.1.4.1.453.7.2.8"),
  ("mcgamTables", "1.3.6.1.4.1.453.7.2.9"), ("domainNameForm", "1.3.6.1.4.1.1466.345"),
  ("presentationAddressMatch", "2.5.13.22"), ("protocolInformationMatch", "2.5.13.24"),
  ("knowledgeInformation", "2.5.4.2"), ("presentationAddress", "2.5.4.29"),
  ("supportedApplicationContext", "2.5.4.30"), ("protocolInformation", "2.5.4.48"),
  ("dmdName", "2.5.4.54"), ("stateOrProvinceName", "2.5.4.8"), ("streetAddress", "2.5.4.9"),
  ("applicationEntity", "2.5.6.12"), ("dSA", "2.5.6.13"), ("dmd", "2.5.6.20"),
  ("subtree", "1.3.6.1.4.1.453.7.1.1"), ("table", "1.3.6.1.4.1.453.7.1.2"),
  ("tableEntry", "1.3.6.1.4.1.453.7.1.3"), ("textTableEntry", "1.3.6.1.4.1.453.7.1.4"),
  ("distinguishedNameTableEntry", "1.3.6.1.4.1.453.7.1.5"),
  ("textTableKey", "1.3.6.1.4.1.453.7.2.1"), ("textTableValue", "1.3.6.1.4.1.453.7.2.2"),
  ("distinguishedNameTableKey", "1.3.6.1.4.1.453.7.2.3"),
  ("dynamicObject", "1.3.6.1.4.1.1466.101.119.2"), ("entryTtl", "1.3.6.1.4.1.1466.101.119.3"),
  ("dynamicSubtrees", "1.3.6.1.4.1.1466.101.119.4"), ("calCalURI", "1.2.840.113556.1.4.478"),
  ("calFBURL", "1.2.840.113556.1.4.479"), ("calCAPURI", "1.2.840.113556.1.4.480"),
  ("calCalAdrURI", "1.2.840.113556.1.4.481"), ("calOtherCalURIs", "1.2.840.113556.1.4.482"),
  ("calOtherFBURLs", "1.2.840.113556.1.4.483"), ("calOtherCAPURIs", "1.2.840.113556.1.4.484"),
  ("calOtherCalAdrURIs", "1.2.840.113556.1.4.485"), ("calEntry", "1.2.840.113556.1.5.87"),
  ("jpegPhoto", "0.9.2342.19200300.100.1.60"), ("carLicense", "2.16.840.1.113730.3.1.1"),
  ("departmentNumber", "2.16.840.1.113730.3.1.2"), ("userPKCS12", "2.16.840.1.113730.3.1.216"),
  ("displayName", "2.16.840.1.113730.3.1.241"), ("employeeNumber", "2.16.840.1.113730.3.1.3"),
  ("preferredLanguage", "2.16.840.1.113730.3.1.39"), ("employeeType", "2.16.840.1.113730.3.1.4"),
  ("userSMIMECertificate", "2.16.840.1.113730.3.1.40"),
  ("inetOrgPerson", "2.16.840.1.113730.3.2.2"), ("email", "1.2.840.113549.1.9.1"),
  ("emailAddress", "1.2.840.113549.1.9.1"), ("pseudonym", "2.5.4.65"),
  ("ref", "2.16.840.1.113730.3.1.34"), ("referral", "2.16.840.1.113730.3.2.6"),
  ("collectiveAttributeSubentries", "2.5.18.12"), ("collectiveExclusions", "2.5.18.7"),
  ("collectiveAttributeSubentry", "2.5.20.2"), ("c-o", "2.5.4.10.1"), ("c-ou", "2.5.4.11.1"),
  ("c-PostalAddress", "2.5.4.16.1"), ("c-PostalCode", "2.5.4.17.1"),
  ("c-PostOfficeBox", "2.5.4.18.1"), ("c-PhysicalDeliveryOffice", "2.5.4.19.1"),
  ("c-TelephoneNumber", "2.5.4.20.1"), ("c-TelexNumber", "2.5.4.21.1"),
  ("c-FacsimileTelephoneNumber", "2.5.4.23.1"), ("c-InternationalISDNNumber", "2.5.4.25.1"),
  ("c-l", "2.5.4.7.1"), ("c-st", "2.5.4.8.1"), ("c-street", "2.5.4.9.1"),
  ("subentry", "2.5.17.0"), ("administrativeRole", "2.5.18.5"),
  ("subtreeSpecification", "2.5.18.6"), ("autonomousArea", "2.5.23.1"),
  ("accessControlSpecificArea", "2.5.23.2"), ("accessControlInnerArea", "2.5.23.3"),
  ("subschemaAdminSpecificArea", "2.5.23.4"), ("collectiveAttributeSpecificArea", "2.5.23.5"),
  ("collectiveAttributeInnerArea", "2.5.23.6"),
  ("componentFilterMatch", "1.2.36.79672281.1.13.2"), ("rdnMatch", "1.2.36.79672281.1.13.3"),
  ("presentMatch", "1.2.36.79672281.1.13.5"), ("allComponentsMatch", "1.2.36.79672281.1.13.6"),
  ("directoryComponentsMatch", "1.2.36.79672281.1.13.7"), ("storedPrefixMatch", "2.5.13.41"),
  ("pcimPolicy", "1.3.6.1.1.6.1.1"), ("pcimRuleActionAssociation", "1.3.6.1.1.6.1.10"),
  ("pcimConditionAuxClass", "1.3.6.1.1.6.1.11"), ("pcimTPCAuxClass", "1.3.6.1.1.6.1.12"),
  ("pcimConditionVendorAuxClass", "1.3.6.1.1.6.1.13"), ("pcimActionAuxClass", "1.3.6.1.1.6.1.14"),
  ("pcimActionVendorAuxClass", "1.3.6.1.1.6.1.15"), ("pcimPolicyInstance", "1.3.6.1.1.6.1.16"),
  ("pcimElementAuxClass", "1.3.6.1.1.6.1.17"), ("pcimRepository", "1.3.6.1.1.6.1.18"),
  ("pcimRepositoryAuxClass", "1.3.6.1.1.6.1.19"), ("pcimGroup", "1.3.6.1.1.6.1.2"),
  ("pcimRepositoryInstance", "1.3.6.1.1.6.1.20"), ("pcimSubtreesPtrAuxClass", "1.3.6.1.1.6.1.21"),
  ("pcimGroupContainmentAuxClass", "1.3.6.1.1.6.1.22"),
  ("pcimRuleContainmentAuxClass", "1.3.6.1.1.6.1.23"), ("pcimGroupAuxClass", "1.3.6.1.1.6.1.3"),
  ("pcimGroupInstance", "1.3.6.1.1.6.1.4"), ("pcimRule", "1.3.6.1.1.6.1.5"),
  ("pcimRuleAuxClass", "1.3.6.1.1.6.1.6"), ("pcimRuleInstance", "1.3.6.1.1.6.1.7"),
  ("pcimRuleConditionAssociation", "1.3.6.1.1.6.1.8"),
  ("pcimRuleValidityAssociation", "1.3.6.1.1.6.1.9"),
  ("pcimRuleValidityPeriodList", "1.3.6.1.1.6.2.10"), ("pcimRuleUsage", "1.3.6.1.1.6.2.11"),
  ("pcimRulePriority", "1.3.6.1.1.6.2.12"), ("pcimRuleMandatory", "1.3.6.1.1.6.2.13"),
  ("pcimRuleSequencedActions", "1.3.6.1.1.6.2.14"), ("pcimRoles", "1.3.6.1.1.6.2.15"),
  ("pcimConditionGroupNumber", "1.3.6.1.1.6.2.16"), ("pcimConditionNegated", "1.3.6.1.1.6.2.17"),
  ("pcimConditionName", "1.3.6.1.1.6.2.18"), ("pcimConditionDN", "1.3.6.1.1.6.2.19"),
  ("pcimValidityConditionName", "1.3.6.1.1.6.2.20"),
  ("pcimTimePeriodConditionDN", "1.3.6.1.1.6.2.21"), ("pcimActionName", "1.3.6.1.1.6.2.22"),
  ("pcimActionOrder", "1.3.6.1.1.6.2.23"), ("pcimActionDN", "1.3.6.1.1.6.2.24"),
  ("pcimTPCTime", "1.3.6.1.1.6.2.25"), ("pcimTPCMonthOfYearMask", "1.3.6.1.1.6.2.26"),
  ("pcimTPCDayOfMonthMask", "1.3.6.1.1.6.2.27"), ("pcimTPCDayOfWeekMask", "1.3.6.1.1.6.2.28"),
  ("pcimTPCTimeOfDayMask", "1.3.6.1.1.6.2.29"), ("pcimKeywords", "1.3.6.1.1.6.2.3"),
  ("pcimTPCLocalOrUtcTime", "1.3.6.1.1.6.2.30"), ("pcimVendorConstraintData", "1.3.6.1.1.6.2.31"),
  ("pcimVendorConstraintEncoding", "1.3.6.1.1.6.2.32"),
  ("pcimVendorActionData", "1.3.6.1.1.6.2.33"), ("pcimVendorActionEncoding", "1.3.6.1.1.6.2.34"),
  ("pcimPolicyInstanceName", "1.3.6.1.1.6.2.35"), ("pcimRepositoryName", "1.3.6.1.1.6.2.36"),
  ("pcimSubtreesAuxContainedSet", "1.3.6.1.1.6.2.37"),
  ("pcimGroupsAuxContainedSet", "1.3.6.1.1.6.2.38"),
  ("pcimRulesAuxContainedSet", "1.3.6.1.1.6.2.39"), ("pcimGroupName", "1.3.6.1.1.6.2.4"),
  ("pcimRuleName", "1.3.6.1.1.6.2.5"), ("pcimRuleEnabled", "1.3.6.1.1.6.2.6"),
  ("pcimRuleConditionListType", "1.3.6.1.1.6.2.7"), ("pcimRuleConditionList", "1.3.6.1.1.6.2.8"),
  ("pcimRuleActionList", "1.3.6.1.1.6.2.9"), ("printer-xri-supported", "1.3.18.0.2.4.1107"),
  ("printer-aliases", "1.3.18.0.2.4.1108"), ("printer-charset-configured", "1.3.18.0.2.4.1109"),
  ("printer-job-priority-supported", "1.3.18.0.2.4.1110"),
  ("printer-job-k-octets-supported", "1.3.18.0.2.4.1111"),
  ("printer-current-operator", "1.3.18.0.2.4.1112"),
  ("printer-service-person", "1.3.18.0.2.4.1113"),
  ("printer-delivery-orientation-supported", "1.3.18.0.2.4.1114"),
  ("printer-stacking-order-supported", "1.3.18.0.2.4.1115"),
  ("printer-output-features-supported", "1.3.18.0.2.4.1116"),
  ("printer-media-local-supported", "1.3.18.0.2.4.1117"),
  ("printer-copies-supported", "1.3.18.0.2.4.1118"),
  ("printer-natural-language-configured", "1.3.18.0.2.4.1119"),
  ("printer-print-quality-supported", "1.3.18.0.2.4.1120"),
  ("printer-resolution-supported", "1.3.18.0.2.4.1121"),
  ("printer-media-supported", "1.3.18.0.2.4.1122"),
  ("printer-sides-supported", "1.3.18.0.2.4.1123"),
  ("printer-number-up-supported", "1.3.18.0.2.4.1124"),
  ("printer-finishings-supported", "1.3.18.0.2.4.1125"),
  ("printer-pages-per-minute-color", "1.3.18.0.2.4.1126"),
  ("printer-pages-per-minute", "1.3.18.0.2.4.1127"),
  ("printer-compression-supported", "1.3.18.0.2.4.1128"),
  ("printer-color-supported", "1.3.18.0.2.4.1129"),
  ("printer-document-format-supported", "1.3.18.0.2.4.1130"),
  ("printer-charset-supported", "1.3.18.0.2.4.1131"),
  ("printer-multiple-document-jobs-supported", "1.3.18.0.2.4.1132"),
  ("printer-ipp-versions-supported", "1.3.18.0.2.4.1133"),
  ("printer-more-info", "1.3.18.0.2.4.1134"), ("printer-name", "1.3.18.0.2.4.1135"),
  ("printer-location", "1.3.18.0.2.4.1136"),
  ("printer-generated-natural-language-supported", "1.3.18.0.2.4.1137"),
  ("printer-make-and-model", "1.3.18.0.2.4.1138"), ("printer-info", "1.3.18.0.2.4.1139"),
  ("printer-uri", "1.3.18.0.2.4.1140"), ("printerLPR", "1.3.18.0.2.6.253"),
  ("slpServicePrinter", "1.3.18.0.2.6.254"), ("printerService", "1.3.18.0.2.6.255"),
  ("printerIPP", "1.3.18.0.2.6.256"), ("printerServiceAuxClass", "1.3.18.0.2.6.257"),
  ("printerAbstract", "1.3.18.0.2.6.258"), ("pcelsPolicySet", "1.3.6.1.1.9.1.1"),
  ("pcelsActionAssociation", "1.3.6.1.1.9.1.10"),
  ("pcelsSimpleConditionAuxClass", "1.3.6.1.1.9.1.11"),
  ("pcelsCompoundConditionAuxClass", "1.3.6.1.1.9.1.12"),
  ("pcelsCompoundFilterConditionAuxClass", "1.3.6.1.1.9.1.13"),
  ("pcelsSimpleActionAuxClass", "1.3.6.1.1.9.1.14"),
  ("pcelsCompoundActionAuxClass", "1.3.6.1.1.9.1.15"), ("pcelsVariable", "1.3.6.1.1.9.1.16"),
  ("pcelsExplicitVariableAuxClass", "1.3.6.1.1.9.1.17"),
  ("pcelsImplicitVariableAuxClass", "1.3.6.1.1.9.1.18"),
  ("pcelsSourceIPv4VariableAuxClass", "1.3.6.1.1.9.1.19"),
  ("pcelsPolicySetAssociation", "1.3.6.1.1.9.1.2"),
  ("pcelsSourceIPv6VariableAuxClass", "1.3.6.1.1.9.1.20"),
  ("pcelsDestinationIPv4VariableAuxClass", "1.3.6.1.1.9.1.21"),
  ("pcelsDestinationIPv6VariableAuxClass", "1.3.6.1.1.9.1.22"),
  ("pcelsSourcePortVariableAuxClass", "1.3.6.1.1.9.1.23"),
  ("pcelsDestinationPortVariableAuxClass", "1.3.6.1.1.9.1.24"),
  ("pcelsIPProtocolVariableAuxClass", "1.3.6.1.1.9.1.25"),
  ("pcelsIPVersionVariableAuxClass", "1.3.6.1.1.9.1.26"),
  ("pcelsIPToSVariableAuxClass", "1.3.6.1.1.9.1.27"),
  ("pcelsDSCPVariableAuxClass", "1.3.6.1.1.9.1.28"),
  ("pcelsFlowIdVariableAuxClass", "1.3.6.1.1.9.1.29"), ("pcelsGroup", "1.3.6.1.1.9.1.3"),
  ("pcelsSourceMACVariableAuxClass", "1.3.6.1.1.9.1.30"),
  ("pcelsDestinationMACVariableAuxClass", "1.3.6.1.1.9.1.31"),
  ("pcelsVLANVariableAuxClass", "1.3.6.1.1.9.1.32"),
  ("pcelsCoSVariableAuxClass", "1.3.6.1.1.9.1.33"),
  ("pcelsEthertypeVariableAuxClass", "1.3.6.1.1.9.1.34"),
  ("pcelsSourceSAPVariableAuxClass", "1.3.6.1.1.9.1.35"),
  ("pcelsDestinationSAPVariableAuxClass", "1.3.6.1.1.9.1.36"),
  ("pcelsSNAPOUIVariableAuxClass", "1.3.6.1.1.9.1.37"),
  ("pcelsSNAPTypeVariableAuxClass", "1.3.6.1.1.9.1.38"),
  ("pcelsFlowDirectionVariableAuxClass", "1.3.6.1.1.9.1.39"),
  ("pcelsGroupAuxClass", "1.3.6.1.1.9.1.4"), ("pcelsValueAuxClass", "1.3.6.1.1.9.1.40"),
  ("pcelsIPv4AddrValueAuxClass", "1.3.6.1.1.9.1.41"),
  ("pcelsIPv6AddrValueAuxClass", "1.3.6.1.1.9.1.42"),
  ("pcelsMACAddrValueAuxClass", "1.3.6.1.1.9.1.43"),
  ("pcelsStringValueAuxClass", "1.3.6.1.1.9.1.44"),
  ("pcelsBitStringValueAuxClass", "1.3.6.1.1.9.1.45"),
  ("pcelsIntegerValueAuxClass", "1.3.6.1.1.9.1.46"),
  ("pcelsBooleanValueAuxClass", "1.3.6.1.1.9.1.47"),
  ("pcelsReusableContainer", "1.3.6.1.1.9.1.48"),
  ("pcelsReusableContainerAuxClass", "1.3.6.1.1.9.1.49"),
  ("pcelsGroupInstance", "1.3.6.1.1.9.1.5"),
  ("pcelsReusableContainerInstance", "1.3.6.1.1.9.1.50"),
  ("pcelsRoleCollection", "1.3.6.1.1.9.1.51"), ("pcelsFilterEntryBase", "1.3.6.1.1.9.1.52"),
  ("pcelsIPHeadersFilter", "1.3.6.1.1.9.1.53"), ("pcels8021Filter", "1.3.6.1.1.9.1.54"),
  ("pcelsFilterListAuxClass", "1.3.6.1.1.9.1.55"),
  ("pcelsVendorVariableAuxClass", "1.3.6.1.1.9.1.56"),
  ("pcelsVendorValueAuxClass", "1.3.6.1.1.9.1.57"), ("pcelsRule", "1.3.6.1.1.9.1.6"),
  ("pcelsRuleAuxClass", "1.3.6.1.1.9.1.7"), ("pcelsRuleInstance", "1.3.6.1.1.9.1.8"),
  ("pcelsConditionAssociation", "1.3.6.1.1.9.1.9"), ("pcelsPolicySetName", "1.3.6.1.1.9.2.1"),
  ("pcelsExecutionStrategy", "1.3.6.1.1.9.2.10"), ("pcelsVariableDN", "1.3.6.1.1.9.2.11"),
  ("pcelsValueDN", "1.3.6.1.1.9.2.12"), ("pcelsIsMirrored", "1.3.6.1.1.9.2.13"),
  ("pcelsVariableName", "1.3.6.1.1.9.2.14"), ("pcelsExpectedValueList", "1.3.6.1.1.9.2.15"),
  ("pcelsVariableModelClass", "1.3.6.1.1.9.2.16"),
  ("pcelsVariableModelProperty", "1.3.6.1.1.9.2.17"),
  ("pcelsExpectedValueTypes", "1.3.6.1.1.9.2.18"), ("pcelsValueName", "1.3.6.1.1.9.2.19"),
  ("pcelsDecisionStrategy", "1.3.6.1.1.9.2.2"), ("pcelsIPv4AddrList", "1.3.6.1.1.9.2.20"),
  ("pcelsIPv6AddrList", "1.3.6.1.1.9.2.21"), ("pcelsMACAddrList", "1.3.6.1.1.9.2.22"),
  ("pcelsStringList", "1.3.6.1.1.9.2.23"), ("pcelsBitStringList", "1.3.6.1.1.9.2.24"),
  ("pcelsIntegerList", "1.3.6.1.1.9.2.25"), ("pcelsBoolean", "1.3.6.1.1.9.2.26"),
  ("pcelsReusableContainerName", "1.3.6.1.1.9.2.27"),
  ("pcelsReusableContainerList", "1.3.6.1.1.9.2.28"), ("pcelsRole", "1.3.6.1.1.9.2.29"),
  ("pcelsPolicySetList", "1.3.6.1.1.9.2.3"), ("pcelsRoleCollectionName", "1.3.6.1.1.9.2.30"),
  ("pcelsElementList", "1.3.6.1.1.9.2.31"), ("pcelsFilterName", "1.3.6.1.1.9.2.32"),
  ("pcelsFilterIsNegated", "1.3.6.1.1.9.2.33"), ("pcelsIPHdrVersion", "1.3.6.1.1.9.2.34"),
  ("pcelsIPHdrSourceAddress", "1.3.6.1.1.9.2.35"),
  ("pcelsIPHdrSourceAddressEndOfRange", "1.3.6.1.1.9.2.36"),
  ("pcelsIPHdrSourceMask", "1.3.6.1.1.9.2.37"), ("pcelsIPHdrDestAddress", "1.3.6.1.1.9.2.38"),
  ("pcelsIPHdrDestAddressEndOfRange", "1.3.6.1.1.9.2.39"), ("pcelsPriority", "1.3.6.1.1.9.2.4"),
  ("pcelsIPHdrDestMask", "1.3.6.1.1.9.2.40"), ("pcelsIPHdrProtocolID", "1.3.6.1.1.9.2.41"),
  ("pcelsIPHdrSourcePortStart", "1.3.6.1.1.9.2.42"),
  ("pcelsIPHdrSourcePortEnd", "1.3.6.1.1.9.2.43"),
  ("pcelsIPHdrDestPortStart", "1.3.6.1.1.9.2.44"), ("pcelsIPHdrDestPortEnd", "1.3.6.1.1.9.2.45"),
  ("pcelsIPHdrDSCPList", "1.3.6.1.1.9.2.46"), ("pcelsIPHdrFlowLabel", "1.3.6.1.1.9.2.47"),
  ("pcels8021HdrSourceMACAddress", "1.3.6.1.1.9.2.48"),
  ("pcels8021HdrSourceMACMask", "1.3.6.1.1.9.2.49"), ("pcelsPolicySetDN", "1.3.6.1.1.9.2.5"),
  ("pcels8021HdrDestMACAddress", "1.3.6.1.1.9.2.50"),
  ("pcels8021HdrDestMACMask", "1.3.6.1.1.9.2.51"), ("pcels8021HdrProtocolID", "1.3.6.1.1.9.2.52"),
  ("pcels8021HdrPriority", "1.3.6.1.1.9.2.53"), ("pcels8021HdrVLANID", "1.3.6.1.1.9.2.54"),
  ("pcelsFilterListName", "1.3.6.1.1.9.2.55"), ("pcelsFilterDirection", "1.3.6.1.1.9.2.56"),
  ("pcelsFilterEntryList", "1.3.6.1.1.9.2.57"), ("pcelsVendorVariableData", "1.3.6.1.1.9.2.58"),
  ("pcelsVendorVariableEncoding", "1.3.6.1.1.9.2.59"),
  ("pcelsConditionListType", "1.3.6.1.1.9.2.6"), ("pcelsVendorValueData", "1.3.6.1.1.9.2.60"),
  ("pcelsVendorValueEncoding", "1.3.6.1.1.9.2.61"),
  ("pcelsRuleValidityPeriodList", "1.3.6.1.1.9.2.62"), ("pcelsConditionList", "1.3.6.1.1.9.2.7"),
  ("pcelsActionList", "1.3.6.1.1.9.2.8"), ("pcelsSequencedActions", "1.3.6.1.1.9.2.9"),
  ("vPIMUser", "1.3.6.1.1.11.1.1"), ("vPIMTelephoneNumber", "1.3.6.1.1.11.2.1"),
  ("vPIMSubMailboxes", "1.3.6.1.1.11.2.10"), ("vPIMRfc822Mailbox", "1.3.6.1.1.11.2.2"),
  ("vPIMSpokenName", "1.3.6.1.1.11.2.3"), ("vPIMSupportedUABehaviors", "1.3.6.1.1.11.2.4"),
  ("vPIMSupportedAudioMediaTypes", "1.3.6.1.1.11.2.5"),
  ("vPIMSupportedMessageContext", "1.3.6.1.1.11.2.6"), ("vPIMTextName", "1.3.6.1.1.11.2.7"),
  ("vPIMExtendedAbsenceStatus", "1.3.6.1.1.11.2.8"), ("vPIMMaxMessageSize", "1.3.6.1.1.11.2.9"),
  ("uddiv3ServiceKey", "1.3.6.1.1.10.4.32"), ("uddiBusinessEntityNameForm", "1.3.6.1.1.10.15.1"),
  ("uddiv3EntityObituaryNameForm", "1.3.6.1.1.10.15.10"),
  ("uddiContactNameForm", "1.3.6.1.1.10.15.2"), ("uddiAddressNameForm", "1.3.6.1.1.10.15.3"),
  ("uddiBusinessServiceNameForm", "1.3.6.1.1.10.15.4"),
  ("uddiBindingTemplateNameForm", "1.3.6.1.1.10.15.5"),
  ("uddiTModelInstanceInfoNameForm", "1.3.6.1.1.10.15.6"),
  ("uddiTModelNameForm", "1.3.6.1.1.10.15.7"),
  ("uddiPublisherAssertionNameForm", "1.3.6.1.1.10.15.8"),
  ("uddiv3SubscriptionNameForm", "1.3.6.1.1.10.15.9"), ("uddiBusinessKey", "1.3.6.1.1.10.4.1"),
  ("uddiEMail", "1.3.6.1.1.10.4.10"), ("uddiSortCode", "1.3.6.1.1.10.4.11"),
  ("uddiTModelKey", "1.3.6.1.1.10.4.12"), ("uddiAddressLine", "1.3.6.1.1.10.4.13"),
  ("uddiIdentifierBag", "1.3.6.1.1.10.4.14"), ("uddiCategoryBag", "1.3.6.1.1.10.4.15"),
  ("uddiKeyedReference", "1.3.6.1.1.10.4.16"), ("uddiServiceKey", "1.3.6.1.1.10.4.17"),
  ("uddiBindingKey", "1.3.6.1.1.10.4.18"), ("uddiAccessPoint", "1.3.6.1.1.10.4.19"),
  ("uddiAuthorizedName", "1.3.6.1.1.10.4.2"), ("uddiHostingRedirector", "1.3.6.1.1.10.4.20"),
  ("uddiInstanceDescription", "1.3.6.1.1.10.4.21"), ("uddiInstanceParms", "1.3.6.1.1.10.4.22"),
  ("uddiOverviewDescription", "1.3.6.1.1.10.4.23"), ("uddiOverviewURL", "1.3.6.1.1.10.4.24"),
  ("uddiFromKey", "1.3.6.1.1.10.4.25"), ("uddiToKey", "1.3.6.1.1.10.4.26"),
  ("uddiUUID", "1.3.6.1.1.10.4.27"), ("uddiIsHidden", "1.3.6.1.1.10.4.28"),
  ("uddiIsProjection", "1.3.6.1.1.10.4.29"), ("uddiOperator", "1.3.6.1.1.10.4.3"),
  ("uddiLang", "1.3.6.1.1.10.4.30"), ("uddiv3BusinessKey", "1.3.6.1.1.10.4.31"),
  ("uddiv3BindingKey", "1.3.6.1.1.10.4.33"), ("uddiv3TmodelKey", "1.3.6.1.1.10.4.34"),
  ("uddiv3DigitalSignature", "1.3.6.1.1.10.4.35"), ("uddiv3NodeId", "1.3.6.1.1.10.4.36"),
  ("uddiv3EntityModificationTime", "1.3.6.1.1.10.4.37"),
  ("uddiv3SubscriptionKey", "1.3.6.1.1.10.4.38"),
  ("uddiv3SubscriptionFilter", "1.3.6.1.1.10.4.39"), ("uddiName", "1.3.6.1.1.10.4.4"),
  ("uddiv3NotificationInterval", "1.3.6.1.1.10.4.40"), ("uddiv3MaxEntities", "1.3.6.1.1.10.4.41"),
  ("uddiv3ExpiresAfter", "1.3.6.1.1.10.4.42"), ("uddiv3BriefResponse", "1.3.6.1.1.10.4.43"),
  ("uddiv3EntityKey", "1.3.6.1.1.10.4.44"), ("uddiv3EntityCreationTime", "1.3.6.1.1.10.4.45"),
  ("uddiv3EntityDeletionTime", "1.3.6.1.1.10.4.46"), ("uddiDescription", "1.3.6.1.1.10.4.5"),
  ("uddiDiscoveryURLs", "1.3.6.1.1.10.4.6"), ("uddiUseType", "1.3.6.1.1.10.4.7"),
  ("uddiPersonName", "1.3.6.1.1.10.4.8"), ("uddiPhone", "1.3.6.1.1.10.4.9"),
  ("uddiBusinessEntity", "1.3.6.1.1.10.6.1"), ("uddiv3EntityObituary", "1.3.6.1.1.10.6.10"),
  ("uddiContact", "1.3.6.1.1.10.6.2"), ("uddiAddress", "1.3.6.1.1.10.6.3"),
  ("uddiBusinessService", "1.3.6.1.1.10.6.4"), ("uddiBindingTemplate", "1.3.6.1.1.10.6.5"),
  ("uddiTModelInstanceInfo", "1.3.6.1.1.10.6.6"), ("uddiTModel", "1.3.6.1.1.10.6.7"),
  ("uddiPublisherAssertion", "1.3.6.1.1.10.6.8"), ("uddiv3Subscription", "1.3.6.1.1.10.6.9"),
  ("extensibleObject", "1.3.6.1.4.1.1466.101.120.111"),
  ("supportedControl", "1.3.6.1.4.1.1466.101.120.13"),
  ("supportedSASLMechanisms", "1.3.6.1.4.1.1466.101.120.14"),
  ("supportedLDAPVersion", "1.3.6.1.4.1.1466.101.120.15"),
  ("ldapSyntaxes", "1.3.6.1.4.1.1466.101.120.16"),
  ("namingContexts", "1.3.6.1.4.1.1466.101.120.5"), ("altServer", "1.3.6.1.4.1.1466.101.120.6"),
  ("supportedExtension", "1.3.6.1.4.1.1466.101.120.7"),
  ("supportedFeatures", "1.3.6.1.4.1.4203.1.3.5"), ("createTimestamp", "2.5.18.1"),
  ("subschemaSubentry", "2.5.18.10"), ("modifyTimestamp", "2.5.18.2"),
  ("creatorsName", "2.5.18.3"), ("modifiersName", "2.5.18.4"), ("subschema", "2.5.20.1"),
  ("dITStructureRules", "2.5.21.1"), ("governingStructureRule", "2.5.21.10"),
  ("dITContentRules", "2.5.21.2"), ("matchingRules", "2.5.21.4"), ("attributeTypes", "2.5.21.5"),
  ("objectClasses", "2.5.21.6"), ("nameForms", "2.5.21.7"), ("matchingRuleUse", "2.5.21.8"),
  ("structuralObjectClass", "2.5.21.9")]

end GridAuthz.Oid.Registry
