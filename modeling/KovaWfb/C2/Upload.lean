/-
# The upload object

`build_c2_upload` of `python/examples/mesh_txrx.py` (lines 1810 to 1826) and the
same object in `_post_c2_upload` of `python/examples/c2_gateway.py` (309 to 330):
the metadata of a `route_v2` packet under symbolic names, its payload in hex.
-/

import KovaWfb.AppProto.Codec
import KovaWfb.Python.Json

namespace KovaWfb

/-- The `"route"` object of an upload. -/
def uploadRoute (route : RouteDataV2) : JsonFields :=
  [("origin_type", .str (addressTypeName route.originType)),
   ("origin_id", .int route.originId),
   ("destination_type", .str (addressTypeName route.destinationType)),
   ("destination_id", .int route.destinationId),
   ("ttl", .int route.ttl),
   ("origin_seq", .int route.originSeq),
   ("traffic_class", .str (trafficClassName route.trafficClass)),
   ("inner_type", .str (messageTypeName route.innerType)),
   ("inner_payload_hex", .str (hex route.innerPayload))]

/-- The upload object that both programs write. -/
def c2Upload (gatewayId : ℤ) (channel : Option ℤ) (receivedAtMs : ℤ) (route : RouteDataV2) :
    JsonFields :=
  [("gateway_id", .int gatewayId),
   ("channel", .ofOption channel),
   ("received_at_ms", .int receivedAtMs),
   ("route", .obj (uploadRoute route))]

/-- An uplink packet: what the forwarders pass on to the C2 side. -/
def RouteDataV2.IsUplink (route : RouteDataV2) : Prop :=
  route.trafficClass = trafficC2Uplink ∧ route.destinationType = addrC2

instance (route : RouteDataV2) : Decidable route.IsUplink :=
  inferInstanceAs (Decidable (_ ∧ _))

end KovaWfb
