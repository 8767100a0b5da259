import SellerDirectory.Registry.Subscriber

-- The question that a registry is asked: the sellers of one domain, in the one country that is
-- covered.

namespace SellerDirectory.Registry

open Json

structure LookupRequest where
  country : String
  kind : String
  domain : String
  deriving DecidableEq

def LookupRequest.codec : Codec LookupRequest :=
  Codec.record "LookupRequest" [String, String, String]
    (.required "country" .text, .required "type" .text, .required "domain" .text, ())
    (fun r => (r.country, r.kind, r.domain, ()))
    (fun (country, kind, domain, _) => { country, kind, domain })

def LookupRequest.forDomain (domain : String) : LookupRequest :=
  ⟨"IND", sellerKind, domain⟩

def LookupRequest.body (domain : String) : String :=
  codec.encode (forDomain domain)

end SellerDirectory.Registry
