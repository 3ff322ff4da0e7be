import GtpControl.Catalog.V1
import GtpControl.Message.Slot

/-! # Layouts of the messages of GTPv1-C -/
namespace GtpControl.Layout.V1
open Catalog.V1 Slot

def echoRequest : List Slot := [
  one .privateExtension Code.privateExtension]

def echoResponse : List Slot := [
  one .recovery Code.recovery,
  one .privateExtension Code.privateExtension]

def createPdpContextRequest : List Slot := [
  one .imsi Code.imsi,
  one .rai Code.routeingAreaIdentity,
  one .recovery Code.recovery,
  one .selectionMode Code.selectionMode,
  one .teidDataI Code.teidDataI,
  one .teidCPlane Code.teidCPlane,
  one .nsapi Code.nsapi,
  one .linkedNsapi Code.nsapi,
  one .chargingCharacteristics Code.chargingCharacteristics,
  one .endUserAddress Code.endUserAddress,
  one .apn Code.accessPointName,
  one .pco Code.protocolConfigurationOptions,
  one .sgsnAddressForSignalling Code.gsnAddress,
  one .sgsnAddressForUserTraffic Code.gsnAddress,
  one .msisdn Code.msisdn,
  one .qosProfile Code.qosProfile,
  one .tft Code.trafficFlowTemplate,
  one .commonFlags Code.commonFlags,
  one .ratType Code.ratType,
  one .uli Code.userLocationInformation,
  one .msTimeZone Code.msTimeZone,
  one .imei Code.imeisv,
  one .privateExtension Code.privateExtension]

def createPdpContextResponse : List Slot := [
  one .cause Code.cause,
  one .reorderingRequired Code.reorderingRequired,
  one .recovery Code.recovery,
  one .teidDataI Code.teidDataI,
  one .teidCPlane Code.teidCPlane,
  one .nsapi Code.nsapi,
  one .chargingId Code.chargingId,
  one .endUserAddress Code.endUserAddress,
  one .pco Code.protocolConfigurationOptions,
  one .ggsnAddressForSignalling Code.gsnAddress,
  one .ggsnAddressForUserTraffic Code.gsnAddress,
  one .qosProfile Code.qosProfile,
  one .chargingGatewayAddress Code.chargingGatewayAddress,
  one .privateExtension Code.privateExtension]

def deletePdpContextRequest : List Slot := [
  one .cause Code.cause,
  one .teardownInd Code.teardownInd,
  one .nsapi Code.nsapi,
  one .pco Code.protocolConfigurationOptions,
  one .uli Code.userLocationInformation,
  one .msTimeZone Code.msTimeZone,
  one .privateExtension Code.privateExtension]

def deletePdpContextResponse : List Slot := [
  one .cause Code.cause,
  one .pco Code.protocolConfigurationOptions,
  one .uli Code.userLocationInformation,
  one .msTimeZone Code.msTimeZone,
  one .privateExtension Code.privateExtension]

/-- The messages with a layout of their own. -/
def layouts : List (Kind × List Slot) := [
  (.echoRequest, echoRequest),
  (.echoResponse, echoResponse),
  (.createPdpContextRequest, createPdpContextRequest),
  (.createPdpContextResponse, createPdpContextResponse),
  (.deletePdpContextRequest, deletePdpContextRequest),
  (.deletePdpContextResponse, deletePdpContextResponse)]

end GtpControl.Layout.V1
