import GtpControl.Catalog.V0
import GtpControl.Message.Slot

/-! # Layouts of the messages of GTPv0 -/
namespace GtpControl.Layout.V0
open Catalog.V0 Slot

def echoRequest : List Slot := [
  one .privateExtension Code.privateExtension]

def echoResponse : List Slot := [
  one .recovery Code.recovery,
  one .privateExtension Code.privateExtension]

def deletePdpContextRequest : List Slot := [
  one .privateExtension Code.privateExtension]

def deletePdpContextResponse : List Slot := [
  one .cause Code.cause,
  one .privateExtension Code.privateExtension]

/-- The messages with a layout of their own. -/
def layouts : List (Kind × List Slot) := [
  (.echoRequest, echoRequest),
  (.echoResponse, echoResponse),
  (.deletePdpContextRequest, deletePdpContextRequest),
  (.deletePdpContextResponse, deletePdpContextResponse)]

end GtpControl.Layout.V0
