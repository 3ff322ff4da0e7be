import GtpControl.Catalog.Prime
import GtpControl.Message.Slot

/-! # Layouts of the messages of GTP' -/
namespace GtpControl.Layout.Prime
open Catalog.Prime Slot

def echoRequest : List Slot := [
  one .privateExtension Code.privateExtension]

def echoResponse : List Slot := [
  one .recovery Code.recovery,
  one .privateExtension Code.privateExtension]

def nodeAliveRequest : List Slot := [
  one .nodeAddress Code.chargingGatewayAddress,
  one .alternativeNodeAddress Code.chargingGatewayAddress,
  one .privateExtension Code.privateExtension]

def nodeAliveResponse : List Slot := [
  one .privateExtension Code.privateExtension]

def dataRecordTransferRequest : List Slot := [
  one .packetTransferCommand Code.packetTransferCommand,
  one .dataRecordPacket Code.dataRecordPacket,
  one .sequenceNumbersOfReleasedPackets Code.sequenceNumbersOfReleasedPackets,
  one .sequenceNumbersOfCancelledPackets Code.sequenceNumbersOfCancelledPackets,
  one .privateExtension Code.privateExtension]

def dataRecordTransferResponse : List Slot := [
  one .cause Code.cause,
  one .requestsResponded Code.requestsResponded,
  one .privateExtension Code.privateExtension]

/-- The messages with a layout of their own. -/
def layouts : List (Kind × List Slot) := [
  (.echoRequest, echoRequest),
  (.echoResponse, echoResponse),
  (.nodeAliveRequest, nodeAliveRequest),
  (.nodeAliveResponse, nodeAliveResponse),
  (.dataRecordTransferRequest, dataRecordTransferRequest),
  (.dataRecordTransferResponse, dataRecordTransferResponse)]

end GtpControl.Layout.Prime
