import SiteClient.Remote.Error
/-!
# The wire format of batches

A batch of requests and the reply to it are JSON texts in UTF-8. A reply that cannot be read is a
failure of the round trip, not of one call in it.
-/

namespace SiteClient.Wire

def requestsText (requests : List CallRequest) : Text :=
  (Json.array (requests.map CallRequest.toJson)).text

def encodeRequests (requests : List CallRequest) : Body :=
  (requestsText requests).toBody

def decodeRequests (body : Body) : Except RemoteError (List CallRequest) :=
  ((Decoder.list CallRequest.record.decoder).readBody body).mapError .ofRead

def encodeResponses (responses : List CallResponse) : Body :=
  (Json.array (responses.map CallResponse.toJson)).text.toBody

def decodeResponses (body : Body) : Except RemoteError (List CallResponse) :=
  ((Decoder.list CallResponse.record.decoder).readBody body).mapError fun e ↦
    .transport ("invalid response body: ".toList ++ e.message)

end SiteClient.Wire
