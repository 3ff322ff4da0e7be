import GtpControl.Catalog.V2
import GtpControl.Message.Slot

/-! # Layouts of the messages of GTPv2-C -/
namespace GtpControl.Layout.V2
open Catalog.V2 Slot

def echoRequest : List Slot := [
  one .recovery Code.recovery,
  one .sendingNodeFeatures Code.nodeFeatures,
  one .privateExtension Code.privateExtension]

def echoResponse : List Slot := [
  one .recovery Code.recovery,
  one .sendingNodeFeatures Code.nodeFeatures,
  one .privateExtension Code.privateExtension]

def createSessionRequest : List Slot := [
  one .imsi Code.imsi,
  one .msisdn Code.msisdn,
  one .mei Code.mei,
  one .uli Code.uli,
  one .servingNetwork Code.servingNetwork,
  one .ratType Code.ratType,
  one .indication Code.indication,
  oneAt .senderFteidC Code.fteid 0,
  oneAt .pgwS5s8FteidC Code.fteid 1,
  one .apn Code.apn,
  one .selectionMode Code.selectionMode,
  one .pdnType Code.pdnType,
  one .paa Code.paa,
  one .apnRestriction Code.apnRestriction,
  one .ambr Code.ambr,
  one .linkedEbi Code.ebi,
  one .pco Code.pco,
  manyAt .bearerContextsToBeCreated Code.bearerContext 0,
  manyAt .bearerContextsToBeRemoved Code.bearerContext 1,
  one .recovery Code.recovery,
  one .ueTimeZone Code.ueTimeZone,
  one .chargingCharacteristics Code.chargingCharacteristics,
  one .privateExtension Code.privateExtension]

def createSessionResponse : List Slot := [
  one .cause Code.cause,
  oneAt .senderFteidC Code.fteid 0,
  oneAt .pgwS5s8FteidC Code.fteid 1,
  one .paa Code.paa,
  one .apnRestriction Code.apnRestriction,
  one .ambr Code.ambr,
  one .linkedEbi Code.ebi,
  one .pco Code.pco,
  manyAt .bearerContextsCreated Code.bearerContext 0,
  manyAt .bearerContextsMarkedForRemoval Code.bearerContext 1,
  one .recovery Code.recovery,
  one .privateExtension Code.privateExtension]

def modifyBearerRequest : List Slot := [
  one .mei Code.mei,
  one .uli Code.uli,
  one .servingNetwork Code.servingNetwork,
  one .ratType Code.ratType,
  one .indication Code.indication,
  oneAt .senderFteidC Code.fteid 0,
  one .ambr Code.ambr,
  one .delayDownlinkPacketNotification Code.delayValue,
  manyAt .bearerContextsToBeModified Code.bearerContext 0,
  manyAt .bearerContextsToBeRemoved Code.bearerContext 1,
  one .recovery Code.recovery,
  one .ueTimeZone Code.ueTimeZone,
  one .privateExtension Code.privateExtension]

def modifyBearerResponse : List Slot := [
  one .cause Code.cause,
  one .msisdn Code.msisdn,
  one .linkedEbi Code.ebi,
  one .apnRestriction Code.apnRestriction,
  one .pco Code.pco,
  manyAt .bearerContextsModified Code.bearerContext 0,
  manyAt .bearerContextsMarkedForRemoval Code.bearerContext 1,
  one .recovery Code.recovery,
  one .indication Code.indication,
  one .privateExtension Code.privateExtension]

def deleteSessionRequest : List Slot := [
  one .cause Code.cause,
  one .linkedEbi Code.ebi,
  one .uli Code.uli,
  one .indication Code.indication,
  one .pco Code.pco,
  one .originatingNode Code.nodeType,
  oneAt .senderFteidC Code.fteid 0,
  one .ueTimeZone Code.ueTimeZone,
  one .privateExtension Code.privateExtension]

def deleteSessionResponse : List Slot := [
  one .cause Code.cause,
  one .recovery Code.recovery,
  one .pco Code.pco,
  one .indication Code.indication,
  one .privateExtension Code.privateExtension]

def contextRequest : List Slot := [
  one .imsi Code.imsi,
  one .guti Code.guti,
  one .rai Code.uli,
  one .ptmsi Code.ptmsi,
  one .ptmsiSignature Code.ptmsiSignature,
  one .completeTauRequest Code.completeRequestMessage,
  oneAt .s3FteidC Code.fteid 0,
  one .udpSourcePort Code.portNumber,
  one .ratType Code.ratType,
  one .indication Code.indication,
  one .hopCounter Code.hopCounter,
  one .targetPlmn Code.servingNetwork,
  one .mmesgsnLdn Code.localDistinguishedName,
  oneAt .sgsnNodeName Code.fqdn 0,
  oneAt .mmeNodeName Code.fqdn 1,
  one .privateExtension Code.privateExtension]

def releaseAccessBearersRequest : List Slot := [
  many .listOfRabs Code.ebi,
  one .originatingNode Code.nodeType,
  one .indication Code.indication,
  one .privateExtension Code.privateExtension]

def releaseAccessBearersResponse : List Slot := [
  one .cause Code.cause,
  one .recovery Code.recovery,
  one .indication Code.indication,
  many .loadControlInformation Code.loadControlInformation,
  many .overloadControlInformation Code.overloadControlInformation,
  one .privateExtension Code.privateExtension]

/-- The messages with a layout of their own. -/
def layouts : List (Kind × List Slot) := [
  (.echoRequest, echoRequest),
  (.echoResponse, echoResponse),
  (.createSessionRequest, createSessionRequest),
  (.createSessionResponse, createSessionResponse),
  (.modifyBearerRequest, modifyBearerRequest),
  (.modifyBearerResponse, modifyBearerResponse),
  (.deleteSessionRequest, deleteSessionRequest),
  (.deleteSessionResponse, deleteSessionResponse),
  (.contextRequest, contextRequest),
  (.releaseAccessBearersRequest, releaseAccessBearersRequest),
  (.releaseAccessBearersResponse, releaseAccessBearersResponse)]

end GtpControl.Layout.V2
